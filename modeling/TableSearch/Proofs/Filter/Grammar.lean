import Mathlib.Data.List.Nodup
import TableSearch.Failure
import TableSearch.Proofs.Filter.Writing
import TableSearch.Proofs.Index.Projection

/-!
# The grammar of filter mappings

Which values are filters, and for which tree each of them stands.  The forms of the entries of a
mapping are listed once as a grammar (`IsFilter`) and once with the parts of the tree that they
become (`StandsFor`).  The reader accepts just the values of the grammar, and gives each of them
its tree.
-/

namespace TableSearch

/-- A value in which no mapping repeats a key. -/
inductive Value.HasDistinctKeys : Value → Prop where
  | plain {value : Value} (noItems : value.items? = none) (noMap : ∀ entries, value ≠ .map entries) :
      HasDistinctKeys value
  | sequence {value : Value} {items : List Value} (listed : value.items? = some items)
      (each : ∀ item ∈ items, HasDistinctKeys item) : HasDistinctKeys value
  | map {entries : Entries} (distinct : (entries.map (·.1)).Nodup)
      (each : ∀ entry ∈ entries, HasDistinctKeys entry.2) : HasDistinctKeys (.map entries)

theorem Value.HasDistinctKeys.of_map {entries : Entries}
    (proper : (Value.map entries).HasDistinctKeys) :
    (entries.map (·.1)).Nodup ∧ ∀ entry ∈ entries, entry.2.HasDistinctKeys := by
  cases proper with
  | plain _ noMap => exact absurd rfl (noMap entries)
  | sequence listed => cases listed
  | map distinct each => exact ⟨distinct, each⟩

theorem Value.HasDistinctKeys.of_items {value : Value} {items : List Value}
    (proper : value.HasDistinctKeys) (listed : value.items? = some items) :
    ∀ item ∈ items, item.HasDistinctKeys := by
  cases proper with
  | plain noItems => cases noItems.symm.trans listed
  | sequence listed' each =>
    cases listed.symm.trans listed'
    exact each
  | map => cases listed

/-! ## Operands -/

namespace FieldOp

def Takes : FieldOp → Value → Prop
  | among, operand | notAmong, operand =>
    ∃ items, operand = .list items ∨ operand = .tuple items
  | contains, operand | startsWith, operand | endsWith, operand => ∃ s, operand = .text s
  | present, operand => ∃ b, operand = .bool b
  | equal, operand | notEqual, operand | greater, operand | atLeast, operand | less, operand
  | atMost, operand =>
    (∀ entries, operand ≠ .map entries) ∧ ∀ items, operand ≠ .list items ∧ operand ≠ .tuple items

theorem ofKey?_eq_some_iff {key : String} {op : FieldOp} : ofKey? key = some op ↔ op.key = key := by
  constructor
  · intro found
    simpa using List.find?_some found
  · rintro rfl
    exact ofKey?_key op

theorem isSome_ofKey?_iff {key : String} :
    (ofKey? key).isSome = true ↔ ∃ op : FieldOp, op.key = key := by
  simp only [Option.isSome_iff_exists, ofKey?_eq_some_iff]

theorem key_injective {op other : FieldOp} (same : op.key = other.key) : op = other := by
  have found := ofKey?_key op
  rw [same, ofKey?_key other] at found
  exact (Option.some.inj found).symm

end FieldOp

namespace Filter

theorem checkOperand_eq_ok {field : String} {op : FieldOp} {operand : Value} :
    checkOperand field op operand = .ok () ↔ op.Takes operand := by
  cases op <;> cases operand <;> simp [checkOperand, FieldOp.Takes, Value.items?]

/-! ## Mappings of operators -/

theorem isOperatorKey_key (op : FieldOp) : isOperatorKey op.key = true := by cases op <;> decide

/-- The operators that a mapping has a key for, with their operands and in the order of the
operators. -/
def chosen (operators : Entries) : List (FieldOp × Value) :=
  FieldOp.all.filterMap fun op => (operators.lookup op.key).map (op, ·)

def operatorEntries (given : List (FieldOp × Value)) : Entries :=
  given.map fun (op, operand) => (op.key, operand)

def comparisons (field : String) (given : List (FieldOp × Value)) : List Filter :=
  given.map fun (op, operand) => .compare field op operand

theorem mem_chosen {operators : Entries} {op : FieldOp} {operand : Value} :
    (op, operand) ∈ chosen operators ↔ operators.lookup op.key = some operand := by
  simp only [chosen, List.mem_filterMap, Option.map_eq_some_iff, Prod.mk.injEq]
  constructor
  · rintro ⟨_, -, _, found, rfl, rfl⟩
    exact found
  · intro found
    exact ⟨op, op.mem_all, operand, found, rfl, rfl⟩

theorem sublist_chosen (operators : Entries) :
    ((chosen operators).map (·.1)).Sublist FieldOp.all := by
  have names : (chosen operators).map (·.1) =
      FieldOp.all.filter fun op => (operators.lookup op.key).isSome := by
    rw [chosen, List.map_filterMap, ← List.filterMap_eq_filter]
    refine List.filterMap_congr fun op _ => ?_
    rw [Option.guard]
    cases operators.lookup op.key <;> rfl
  rw [names]
  exact List.filter_sublist

theorem readOperator_eq_ok {field : String} {operators : Entries} {op : FieldOp}
    {parts : List Filter} :
    readOperator field operators op = .ok parts ↔
      (∀ operand, operators.lookup op.key = some operand → op.Takes operand) ∧
        parts = ((operators.lookup op.key).map (.compare field op)).toList := by
  unfold readOperator
  cases operators.lookup op.key with
  | none => simp [eq_comm]
  | some operand =>
    simp only [bind_eq_ok, pure_eq_ok, Option.some.injEq, forall_eq', Option.map_some,
      Option.toList_some]
    constructor
    · rintro ⟨⟨⟩, checked, same⟩
      exact ⟨checkOperand_eq_ok.mp checked, same.symm⟩
    · rintro ⟨takes, same⟩
      exact ⟨(), checkOperand_eq_ok.mpr takes, same.symm⟩

/-- A mapping of operators is read when all its keys are operators and each operand is of the kind
that its operator takes. -/
theorem readOperators_eq_ok {field : String} {operators : Entries} {parts : List Filter} :
    readOperators field operators = .ok parts ↔
      (∀ entry ∈ operators, ∃ op : FieldOp, op.key = entry.1) ∧
        (∀ pair ∈ chosen operators, pair.1.Takes pair.2) ∧
        parts = comparisons field (chosen operators) := by
  -- Keys are checked first, all of them; only then the operators are asked for one by one.
  have known : (operators.find? fun entry => (FieldOp.ofKey? entry.1).isNone) = none ↔
      ∀ entry ∈ operators, ∃ op : FieldOp, op.key = entry.1 := by
    simp only [List.find?_eq_none, ← FieldOp.isSome_ofKey?_iff, Option.isNone_iff_eq_none,
      Option.isSome_iff_ne_none, ne_eq]
  have takes : (∀ pair ∈ chosen operators, pair.1.Takes pair.2) ↔
      ∀ op ∈ FieldOp.all, ∀ operand, operators.lookup op.key = some operand → op.Takes operand := by
    simp only [Prod.forall, mem_chosen]
    exact ⟨fun each op _ => each op, fun each op => each op op.mem_all⟩
  have flat : (FieldOp.all.map fun op =>
      ((operators.lookup op.key).map (Filter.compare field op)).toList).flatten =
        comparisons field (chosen operators) := by
    rw [comparisons, chosen, List.map_filterMap, List.filterMap_eq_flatMap_toList, List.flatMap_def]
    congr 2
    funext op
    cases operators.lookup op.key <;> rfl
  unfold readOperators
  split
  next key operand found =>
    refine ⟨nofun, fun ⟨all, _⟩ => ?_⟩
    cases found.symm.trans (known.mpr all)
  next none =>
    simp only [bind_eq_ok, pure_eq_ok, mapM_eq_ok_of_iff fun _ _ => readOperator_eq_ok, takes]
    constructor
    · rintro ⟨_, ⟨each, rfl⟩, rfl⟩
      exact ⟨known.mp none, each, flat⟩
    · rintro ⟨-, each, rfl⟩
      exact ⟨_, ⟨each, rfl⟩, flat⟩

/-- The conditions for which a mapping of operators stands: each operator is a comparison of the
field with its operand, and the comparisons are in the order of the operators. -/
inductive OperatorsStandFor (field : String) : Entries → List Filter → Prop where
  | intro {given ordered : List (FieldOp × Value)} (takes : ∀ pair ∈ given, pair.1.Takes pair.2)
      (same : ordered.Perm given) (sorted : (ordered.map (·.1)).Sublist FieldOp.all) :
      OperatorsStandFor field (operatorEntries given) (comparisons field ordered)

theorem OperatorsStandFor.isEmpty_or_hasOperators {field : String} {operators : Entries}
    {parts : List Filter} (stands : OperatorsStandFor field operators parts) :
    operators.isEmpty = true ∨ hasOperators (.map operators) = true := by
  obtain ⟨takes, -, -⟩ := stands
  rename_i given ordered
  cases given with
  | nil => exact .inl rfl
  | cons pair rest =>
    refine .inr (List.any_eq_true.mpr ⟨_, List.mem_cons_self, isOperatorKey_key pair.1⟩)

theorem lookup_operatorEntries {given : List (FieldOp × Value)}
    (distinct : ((operatorEntries given).map (·.1)).Nodup) {op : FieldOp} {operand : Value} :
    (operatorEntries given).lookup op.key = some operand ↔ (op, operand) ∈ given := by
  constructor
  · intro found
    obtain ⟨⟨other, value⟩, mem, same⟩ := List.mem_map.mp (mem_of_lookup found)
    obtain ⟨named, rfl⟩ := Prod.mk.inj same
    exact FieldOp.key_injective named ▸ mem
  · intro mem
    exact lookup_of_mem distinct (List.mem_map.mpr ⟨_, mem, rfl⟩)

theorem chosen_perm {given : List (FieldOp × Value)}
    (distinct : ((operatorEntries given).map (·.1)).Nodup) :
    (chosen (operatorEntries given)).Perm given := by
  have all : FieldOp.all.Nodup := by decide
  have once : (chosen (operatorEntries given)).Nodup :=
    List.Nodup.of_map _ (all.sublist (sublist_chosen _))
  have once' : given.Nodup := List.Nodup.of_map _ (List.Nodup.of_map _ distinct)
  refine (List.perm_ext_iff_of_nodup once once').mpr fun ⟨op, operand⟩ => ?_
  rw [mem_chosen, lookup_operatorEntries distinct]

theorem exists_operatorEntries {operators : Entries}
    (known : ∀ entry ∈ operators, ∃ op : FieldOp, op.key = entry.1) :
    ∃ given, operators = operatorEntries given := by
  induction operators with
  | nil => exact ⟨[], rfl⟩
  | cons entry operators ih =>
    obtain ⟨⟨op, named⟩, rest⟩ := List.forall_mem_cons.mp known
    obtain ⟨given, rfl⟩ := ih rest
    exact ⟨(op, entry.2) :: given, by simp [operatorEntries, named]⟩

/-- Operators with the same operands in the order of the operators are the same. -/
theorem eq_of_perm_of_sorted {pairs others : List (FieldOp × Value)} (same : pairs.Perm others)
    (sorted : (pairs.map (·.1)).Sublist FieldOp.all)
    (sorted' : (others.map (·.1)).Sublist FieldOp.all) : pairs = others := by
  -- Along all operators the positions rise, so they are an order on any part of them.
  have inOrder : FieldOp.all.Pairwise fun op other => op.ctorIdx < other.ctorIdx := by decide
  have ordered {given : List (FieldOp × Value)} (sorted : (given.map (·.1)).Sublist FieldOp.all) :
      given.Pairwise fun pair other => pair.1.ctorIdx < other.1.ctorIdx := by
    have pairs := List.Pairwise.sublist sorted inOrder
    rwa [List.pairwise_map] at pairs
  exact same.eq_of_pairwise (fun _ _ _ _ less more => absurd less (Nat.lt_asymm more))
    (ordered sorted) (ordered sorted')

theorem readOperators_iff {field : String} {operators : Entries} {parts : List Filter}
    (distinct : (operators.map (·.1)).Nodup) :
    readOperators field operators = .ok parts ↔ OperatorsStandFor field operators parts := by
  rw [readOperators_eq_ok]
  constructor
  · rintro ⟨known, takes, rfl⟩
    obtain ⟨given, rfl⟩ := exists_operatorEntries known
    have perm := chosen_perm distinct
    exact .intro (fun pair mem => takes pair (perm.mem_iff.mpr mem)) perm (sublist_chosen _)
  · rintro ⟨takes, same, sorted⟩
    have perm := chosen_perm distinct
    refine ⟨fun entry mem => ?_, fun pair mem => takes pair (perm.mem_iff.mp mem), ?_⟩
    · obtain ⟨⟨op, operand⟩, -, rfl⟩ := List.mem_map.mp mem
      exact ⟨op, rfl⟩
    · rw [eq_of_perm_of_sorted (same.trans perm.symm) sorted (sublist_chosen _)]

/-! ## Filters -/

mutual

/-- The filters: mappings each of whose entries has one of five forms. -/
inductive IsFilter : Value → Prop where
  | mapping {entries : Entries} (each : ∀ entry ∈ entries, IsEntry entry.1 entry.2) :
      IsFilter (.map entries)

inductive IsEntry : String → Value → Prop where
  | allOf {value : Value} {items : List Value} (listed : value.items? = some items)
      (each : ∀ item ∈ items, IsFilter item) : IsEntry "$and" value
  | anyOf {value : Value} {items : List Value} (listed : value.items? = some items)
      (each : ∀ item ∈ items, IsFilter item) : IsEntry "$or" value
  | negation {value : Value} (part : IsFilter value) : IsEntry "$not" value
  /-- A field with a mapping of operators, which may be empty. -/
  | operators {field : String} {value : Value} {entries : Entries}
      (isField : isOperatorKey field = false) (mapping : value = .map entries)
      (chosen : entries = [] ∨ ∃ entry ∈ entries, isOperatorKey entry.1 = true)
      (takes : ∀ entry ∈ entries, ∃ op : FieldOp, op.key = entry.1 ∧ op.Takes entry.2) :
      IsEntry field value
  /-- A field with any other value. -/
  | shorthand {field : String} {value : Value} (isField : isOperatorKey field = false)
      (plain : ∀ entries, value = .map entries →
        entries ≠ [] ∧ ∀ entry ∈ entries, isOperatorKey entry.1 = false) : IsEntry field value

end

mutual

/-- The tree for which a filter stands: the conditions of its entries side by side. -/
inductive StandsFor : Value → Filter → Prop where
  | mapping {entries : Entries} {parts : List Filter} (each : EntriesStandFor entries parts) :
      StandsFor (.map entries) (.conjunction parts)

inductive AllStandFor : List Value → List Filter → Prop where
  | nil : AllStandFor [] []
  | cons {value : Value} {rest : List Value} {part : Filter} {parts : List Filter}
      (first : StandsFor value part) (others : AllStandFor rest parts) :
      AllStandFor (value :: rest) (part :: parts)

/-- The conditions of entries in the order of the entries. -/
inductive EntriesStandFor : Entries → List Filter → Prop where
  | nil : EntriesStandFor [] []
  | cons {key : String} {value : Value} {rest : Entries} {own parts : List Filter}
      (first : EntryStandsFor key value own) (others : EntriesStandFor rest parts) :
      EntriesStandFor ((key, value) :: rest) (own ++ parts)

/-- The conditions of one entry. -/
inductive EntryStandsFor : String → Value → List Filter → Prop where
  | allOf {value : Value} {items : List Value} {parts : List Filter}
      (listed : value.items? = some items) (each : AllStandFor items parts) :
      EntryStandsFor "$and" value [.allOf parts]
  | anyOf {value : Value} {items : List Value} {parts : List Filter}
      (listed : value.items? = some items) (each : AllStandFor items parts) :
      EntryStandsFor "$or" value [.anyOf parts]
  | negation {value : Value} {part : Filter} (inner : StandsFor value part) :
      EntryStandsFor "$not" value [.negation part]
  | operators {field : String} {value : Value} {entries : Entries} {parts : List Filter}
      (isField : isOperatorKey field = false) (mapping : value = .map entries)
      (each : OperatorsStandFor field entries parts) : EntryStandsFor field value parts
  | null {field : String} (isField : isOperatorKey field = false) :
      EntryStandsFor field .null [.isNull field]
  | equal {field : String} {value : Value} (isField : isOperatorKey field = false)
      (given : value ≠ .null) (plain : ∀ entries, value = .map entries →
        entries ≠ [] ∧ ∀ entry ∈ entries, isOperatorKey entry.1 = false) :
      EntryStandsFor field value [.compare field .equal value]

end

/-! ## Reading -/

/-- An entry that can be read in one of five ways is read in this way. -/
theorem readEntry_eq_ok {key : String} {value : Value} {parts : List Filter} :
    readEntry key value = .ok parts ↔ EntryRead key value parts := by
  refine ⟨entryRead_of_readEntry, fun reads => ?_⟩
  have ne {other : String} (isField : isOperatorKey key = false)
      (reserved : isOperatorKey other = true) : key ≠ other := fun same => by
    rw [same, reserved] at isField
    cases isField
  unfold readEntry
  cases reads with
  | allOf listed each =>
    -- The reader matches a list and a tuple one after the other, and does the same with both.
    cases value with
    | list | tuple =>
      cases listed
      simp only [if_true, each]
      rfl
    | _ => cases listed
  | anyOf listed each =>
    cases value with
    | list | tuple =>
      cases listed
      rw [if_neg (by decide), if_pos rfl]
      simp only [each]
      rfl
    | _ => cases listed
  | negation mapping each =>
    subst mapping
    rw [if_neg (by decide), if_neg (by decide), if_pos rfl]
    simp only [each]
    rfl
  | @operators _ _ entries _ isField mapping chosen each =>
    subst mapping
    have condition : (entries.isEmpty || hasOperators (.map entries)) = true := by
      rwa [Bool.or_eq_true]
    rw [if_neg (ne isField (by decide)), if_neg (ne isField (by decide)),
      if_neg (ne isField (by decide)), isField]
    simp only [condition, each]
    rfl
  | shorthand isField plain =>
    rw [if_neg (ne isField (by decide)), if_neg (ne isField (by decide)),
      if_neg (ne isField (by decide)), isField]
    cases value with
    | map entries =>
      obtain ⟨nonempty, noOperators⟩ := plain entries rfl
      simp only [nonempty, noOperators]
      rfl
    | _ => rfl

theorem isPlain_iff {value : Value} :
    (∀ entries, value = .map entries → entries.isEmpty = false ∧ hasOperators value = false) ↔
      ∀ entries, value = .map entries →
        entries ≠ [] ∧ ∀ entry ∈ entries, isOperatorKey entry.1 = false := by
  refine forall_congr' fun entries => forall_congr' fun mapping => ?_
  subst mapping
  simp [hasOperators]

theorem entryRead_shorthand {field : String} {value : Value} {parts : List Filter}
    (isField : isOperatorKey field = false)
    (plain : ∀ entries, value = .map entries →
      entries ≠ [] ∧ ∀ entry ∈ entries, isOperatorKey entry.1 = false)
    (same : [readShorthand field value] = parts) : EntryRead field value parts :=
  same ▸ .shorthand isField (isPlain_iff.mpr plain)

mutual

/-- A value is read as a tree exactly if it stands for it. -/
theorem read_iff (value : Value) (proper : value.HasDistinctKeys) {filter : Filter} :
    read value = .ok filter ↔ StandsFor value filter := by
  cases value with
  | map entries =>
    simp only [read, bind_eq_ok, pure_eq_ok, readEntries_iff entries proper.of_map.2]
    constructor
    · rintro ⟨parts, each, rfl⟩
      exact .mapping each
    · rintro ⟨each⟩
      exact ⟨_, each, rfl⟩
  | _ =>
    constructor
    · intro accepted
      simp only [read] at accepted
      cases accepted
    · intro stands
      cases stands
termination_by sizeOf value

theorem readAll_iff (values : List Value) (proper : ∀ value ∈ values, value.HasDistinctKeys)
    {parts : List Filter} : readAll values = .ok parts ↔ AllStandFor values parts := by
  cases values with
  | nil =>
    rw [readAll, pure_eq_ok]
    constructor
    · rintro rfl
      exact .nil
    · rintro ⟨⟩
      rfl
  | cons value rest =>
    obtain ⟨first, others⟩ := List.forall_mem_cons.mp proper
    simp only [readAll, bind_eq_ok, pure_eq_ok, read_iff value first, readAll_iff rest others]
    constructor
    · rintro ⟨part, first, parts, others, rfl⟩
      exact .cons first others
    · intro stands
      cases stands with
      | cons first others => exact ⟨_, first, _, others, rfl⟩
termination_by sizeOf values

theorem readEntries_iff (entries : Entries) (proper : ∀ entry ∈ entries, entry.2.HasDistinctKeys)
    {parts : List Filter} : readEntries entries = .ok parts ↔ EntriesStandFor entries parts := by
  match entries with
  | [] =>
    rw [readEntries, pure_eq_ok]
    constructor
    · rintro rfl
      exact .nil
    · rintro ⟨⟩
      rfl
  | (key, value) :: rest =>
    obtain ⟨first, others⟩ := List.forall_mem_cons.mp proper
    simp only [readEntries_cons, bind_eq_ok, pure_eq_ok, readEntry_iff key value first,
      readEntries_iff rest others]
    constructor
    · rintro ⟨own, first, parts, others, rfl⟩
      exact .cons first others
    · intro stands
      cases stands with
      | cons first others => exact ⟨_, first, _, others, rfl⟩
termination_by sizeOf entries

theorem readEntry_iff (key : String) (value : Value) (proper : value.HasDistinctKeys)
    {parts : List Filter} : readEntry key value = .ok parts ↔ EntryStandsFor key value parts := by
  rw [readEntry_eq_ok]
  constructor
  · intro reads
    cases reads with
    | allOf listed each =>
      have smaller := sizeOf_items listed
      exact .allOf listed ((readAll_iff _ (proper.of_items listed)).mp each)
    | anyOf listed each =>
      have smaller := sizeOf_items listed
      exact .anyOf listed ((readAll_iff _ (proper.of_items listed)).mp each)
    | @negation _ entries _ mapping each =>
      subst mapping
      exact .negation (.mapping ((readEntries_iff entries proper.of_map.2).mp each))
    | operators isField mapping _ each =>
      subst mapping
      exact .operators isField rfl ((readOperators_iff proper.of_map.1).mp each)
    -- Of the plain values null alone is not compared but asked for.
    | shorthand isField plain =>
      cases value with
      | null => exact .null isField
      | _ => exact .equal isField nofun (isPlain_iff.mp plain)
  · intro stands
    cases stands with
    | allOf listed each =>
      have smaller := sizeOf_items listed
      exact .allOf listed ((readAll_iff _ (proper.of_items listed)).mpr each)
    | anyOf listed each =>
      have smaller := sizeOf_items listed
      exact .anyOf listed ((readAll_iff _ (proper.of_items listed)).mpr each)
    | negation inner =>
      cases inner with
      | @mapping entries parts each =>
        exact .negation rfl ((readEntries_iff entries proper.of_map.2).mpr each)
    | operators isField mapping each =>
      subst mapping
      -- The rule for operators holds for a mapping without any of them only if it is empty.
      have chosen : _ ∨ _ := each.isEmpty_or_hasOperators
      exact .operators isField rfl chosen ((readOperators_iff proper.of_map.1).mpr each)
    | null isField => exact entryRead_shorthand isField nofun rfl
    | equal isField given plain =>
      refine entryRead_shorthand isField plain ?_
      cases value with
      | null => exact absurd rfl given
      | _ => rfl
termination_by sizeOf value

end

/-! ## Which values stand for a tree -/

theorem exists_operatorsStandFor {field : String} {operators : Entries}
    (distinct : (operators.map (·.1)).Nodup) :
    (∃ parts, OperatorsStandFor field operators parts) ↔
      ∀ entry ∈ operators, ∃ op : FieldOp, op.key = entry.1 ∧ op.Takes entry.2 := by
  constructor
  · rintro ⟨_, takes, -, -⟩ entry mem
    obtain ⟨⟨op, operand⟩, isGiven, rfl⟩ := List.mem_map.mp mem
    exact ⟨op, rfl, takes _ isGiven⟩
  · intro each
    obtain ⟨given, rfl⟩ :=
      exists_operatorEntries fun entry mem => (each entry mem).imp fun _ => And.left
    have takes : ∀ pair ∈ given, pair.1.Takes pair.2 := fun pair isGiven => by
      obtain ⟨op, named, taken⟩ := each _ (List.mem_map_of_mem isGiven)
      exact FieldOp.key_injective named ▸ taken
    exact ⟨_, .intro takes (chosen_perm distinct) (sublist_chosen _)⟩

theorem exists_allStandFor {values : List Value} :
    (∃ parts, AllStandFor values parts) ↔ ∀ value ∈ values, ∃ part, StandsFor value part := by
  induction values with
  | nil => exact ⟨fun _ => by simp, fun _ => ⟨_, .nil⟩⟩
  | cons value rest ih =>
    rw [List.forall_mem_cons, ← ih]
    constructor
    · rintro ⟨_, stand⟩
      cases stand with
      | cons first others => exact ⟨⟨_, first⟩, _, others⟩
    · rintro ⟨⟨_, first⟩, _, others⟩
      exact ⟨_, .cons first others⟩

theorem exists_entriesStandFor {entries : Entries} :
    (∃ parts, EntriesStandFor entries parts) ↔
      ∀ entry ∈ entries, ∃ own, EntryStandsFor entry.1 entry.2 own := by
  induction entries with
  | nil => exact ⟨fun _ => by simp, fun _ => ⟨_, .nil⟩⟩
  | cons entry rest ih =>
    rw [List.forall_mem_cons, ← ih]
    constructor
    · rintro ⟨_, stand⟩
      cases stand with
      | cons first others => exact ⟨⟨_, first⟩, _, others⟩
    · rintro ⟨⟨_, first⟩, _, others⟩
      exact ⟨_, .cons first others⟩

theorem sizeOf_entry {entries : Entries} {entry : String × Value} (mem : entry ∈ entries) :
    sizeOf entry.2 < sizeOf (Value.map entries) := by
  have smaller := List.sizeOf_lt_of_mem mem
  obtain ⟨key, value⟩ := entry
  simp only [Prod.mk.sizeOf_spec, Value.map.sizeOf_spec] at smaller ⊢
  omega

mutual

/-- The values of the grammar are those that stand for a tree. -/
theorem exists_standsFor (value : Value) (proper : value.HasDistinctKeys) :
    (∃ filter, StandsFor value filter) ↔ IsFilter value := by
  constructor
  · rintro ⟨_, @⟨entries, _, each⟩⟩
    refine .mapping fun entry mem => ?_
    have smaller := sizeOf_entry mem
    exact (exists_entryStandsFor entry.1 entry.2 (proper.of_map.2 entry mem)).mp
      (exists_entriesStandFor.mp ⟨_, each⟩ entry mem)
  · rintro @⟨entries, each⟩
    have own : ∀ entry ∈ entries, ∃ own, EntryStandsFor entry.1 entry.2 own := fun entry mem =>
      have smaller := sizeOf_entry mem
      (exists_entryStandsFor entry.1 entry.2 (proper.of_map.2 entry mem)).mpr (each entry mem)
    obtain ⟨parts, all⟩ := exists_entriesStandFor.mpr own
    exact ⟨_, .mapping all⟩
termination_by (sizeOf value, 0)

theorem exists_entryStandsFor (key : String) (value : Value) (proper : value.HasDistinctKeys) :
    (∃ own, EntryStandsFor key value own) ↔ IsEntry key value := by
  -- `$not` is about the very value of its entry, so the entry counts for more than the value.
  have items {items : List Value} (listed : value.items? = some items) :
      (∃ parts, AllStandFor items parts) ↔ ∀ item ∈ items, IsFilter item := by
    rw [exists_allStandFor]
    refine forall₂_congr fun item mem => ?_
    have smaller : sizeOf item < sizeOf value :=
      Nat.lt_trans (List.sizeOf_lt_of_mem mem) (sizeOf_items listed)
    exact exists_standsFor item (proper.of_items listed item mem)
  constructor
  · rintro ⟨_, stands⟩
    cases stands with
    | allOf listed each => exact .allOf listed ((items listed).mp ⟨_, each⟩)
    | anyOf listed each => exact .anyOf listed ((items listed).mp ⟨_, each⟩)
    | negation inner => exact .negation ((exists_standsFor value proper).mp ⟨_, inner⟩)
    | operators isField mapping each =>
      subst mapping
      refine .operators isField rfl ?_
        ((exists_operatorsStandFor proper.of_map.1).mp ⟨_, each⟩)
      exact each.isEmpty_or_hasOperators.imp List.isEmpty_iff.mp List.any_eq_true.mp
    | null isField => exact .shorthand isField nofun
    | equal isField _ plain => exact .shorthand isField plain
  · intro isEntry
    cases isEntry with
    | allOf listed each =>
      obtain ⟨parts, all⟩ := (items listed).mpr each
      exact ⟨_, .allOf listed all⟩
    | anyOf listed each =>
      obtain ⟨parts, all⟩ := (items listed).mpr each
      exact ⟨_, .anyOf listed all⟩
    | negation part =>
      obtain ⟨filter, inner⟩ := (exists_standsFor value proper).mpr part
      exact ⟨_, .negation inner⟩
    | operators isField mapping _ takes =>
      subst mapping
      obtain ⟨parts, each⟩ := (exists_operatorsStandFor proper.of_map.1).mpr takes
      exact ⟨_, .operators isField rfl each⟩
    | shorthand isField plain =>
      by_cases isNull : value = .null
      · subst isNull
        exact ⟨_, .null isField⟩
      · exact ⟨_, .equal isField isNull plain⟩
termination_by (sizeOf value, 1)

end

/-! ## Filters that may be absent -/

theorem readOptional_eq_ok {value : Value} {result : Option Filter} :
    readOptional value = .ok result ↔
      (value = .null ∧ none = result) ∨
        (value ≠ .null ∧ ∃ filter, read value = .ok filter ∧ some filter = result) := by
  unfold readOptional
  split
  · simp [pure_eq_ok]
  · next notNull =>
    simp only [bind_eq_ok, pure_eq_ok, show value ≠ .null from notNull, ne_eq, not_false_eq_true,
      false_and, true_and, false_or]

/-- The reader accepts exactly the absent filter and the values of the grammar, and gives the tree
for which a value stands; of any other value it says that it is no filter. -/
theorem readOptional_exact {value : Value} (proper : value.HasDistinctKeys) :
    ((∃ result, readOptional value = .ok result) ↔ value = .null ∨ IsFilter value) ∧
      (¬(value = .null ∨ IsFilter value) →
        ∃ failure, Failure.ofFilter (readOptional value) = .error failure ∧
          failure.kind? = some .filterParse) ∧
      (readOptional value = .ok none ↔ value = .null) ∧
      ∀ filter, readOptional value = .ok (some filter) ↔ StandsFor value filter := by
  have absent : readOptional value = .ok none ↔ value = .null := by
    simp [readOptional_eq_ok]
  have stands (filter : Filter) :
      readOptional value = .ok (some filter) ↔ StandsFor value filter := by
    -- Null stands for no filter at all, so the two ways to be accepted exclude each other.
    have notNull : StandsFor value filter → value ≠ .null := by
      rintro ⟨⟩
      nofun
    simp only [readOptional_eq_ok, read_iff value proper]
    simpa using notNull
  have accepted : (∃ result, readOptional value = .ok result) ↔ value = .null ∨ IsFilter value := by
    simp only [Option.exists, absent, stands, exists_standsFor value proper]
  refine ⟨accepted, fun outside => ?_, absent, stands⟩
  cases refused : readOptional value with
  | ok result => exact absurd (accepted.mp ⟨result, refused⟩) outside
  | error error => exact ⟨.filter error, rfl, rfl⟩

def everyForm : Value :=
  .map [("$and", .tuple [.map [("a", .null)], .map [("b", .map [])]]), ("$or", .list []),
    ("$not", .map [("c", .map [("$in", .list [.int 1]), ("$eq", .int 1)])]),
    ("d", .map [("e", .int 1)])]

theorem readOptional_exact_everyForm :
    everyForm.HasDistinctKeys ∧ IsFilter everyForm ∧
      StandsFor everyForm (.conjunction
        [.allOf [.conjunction [.isNull "a"], .conjunction []], .anyOf [],
          .negation (.conjunction
            [.compare "c" .equal (.int 1), .compare "c" .among (.list [.int 1])]),
          .compare "d" .equal (.map [("e", .int 1)])]) := by
  have distinct : everyForm.HasDistinctKeys := by
    refine .map (by decide) ?_
    simp only [List.forall_mem_cons]
    refine ⟨.sequence rfl ?_, .sequence rfl (by simp), .map (by decide) ?_, .map (by decide) ?_,
      by simp⟩
    · simp only [List.forall_mem_cons]
      exact ⟨.map (by decide) (by simpa using .plain rfl nofun),
        .map (by decide) (by simpa using .map (by decide) (by simp)), by simp⟩
    · simp only [List.forall_mem_cons]
      refine ⟨.map (by decide) ?_, by simp⟩
      simp only [List.forall_mem_cons]
      exact ⟨.sequence rfl (by simpa using .plain rfl nofun), .plain rfl nofun, by simp⟩
    · simpa using .plain rfl nofun
  obtain ⟨accepted, -, -, stands⟩ := readOptional_exact distinct
  have read : readOptional everyForm = .ok (some _) := rfl
  exact ⟨distinct, (accepted.mp ⟨_, read⟩).resolve_left nofun, (stands _).mp read⟩

end Filter

end TableSearch
