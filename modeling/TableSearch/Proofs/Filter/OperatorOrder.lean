import TableSearch.Proofs.Filter.Grammar

/-!
# Operators in another order

A mapping lists its fields in the order in which their conditions stand in the tree, but the
operators of one field are asked for by name.  Two filters that differ in the order of operators
are read as the same tree, and have the same predicate.  If one of them is refused, so is the
other; only of several unknown operators it is the first one that is named.
-/

namespace TableSearch

namespace Filter

/-! ## Reordered filters -/

mutual

/-- A filter and the same filter with the operators of some fields in another order. -/
inductive Reordered : Value → Value → Prop where
  | same (value : Value) : Reordered value value
  | mapping {entries others : Entries} (each : EntriesReordered entries others) :
      Reordered (.map entries) (.map others)

/-- Several filters, with operators reordered in each of them. -/
inductive AllReordered : List Value → List Value → Prop where
  | nil : AllReordered [] []
  | cons {value other : Value} {rest others : List Value} (first : Reordered value other)
      (each : AllReordered rest others) : AllReordered (value :: rest) (other :: others)

/-- The entries of a filter, with operators reordered in each of them.  The entries themselves
stay where they are. -/
inductive EntriesReordered : Entries → Entries → Prop where
  | nil : EntriesReordered [] []
  | cons {key : String} {value other : Value} {rest others : Entries}
      (first : EntryReordered key value other) (each : EntriesReordered rest others) :
      EntriesReordered ((key, value) :: rest) ((key, other) :: others)

/-- The value of one entry, with operators reordered. -/
inductive EntryReordered : String → Value → Value → Prop where
  | same (key : String) (value : Value) : EntryReordered key value value
  | inList {key : String} {items others : List Value} (joins : key = "$and" ∨ key = "$or")
      (each : AllReordered items others) : EntryReordered key (.list items) (.list others)
  | inTuple {key : String} {items others : List Value} (joins : key = "$and" ∨ key = "$or")
      (each : AllReordered items others) : EntryReordered key (.tuple items) (.tuple others)
  | negation {value other : Value} (part : Reordered value other) :
      EntryReordered "$not" value other
  /-- The mapping of a field that has operators among its keys. -/
  | operators {field : String} {entries others : Entries} (isField : isOperatorKey field = false)
      (mapping : hasOperators (.map entries) = true) (distinct : (entries.map (·.1)).Nodup)
      (perm : entries.Perm others) : EntryReordered field (.map entries) (.map others)

end

/-! ## Readings that agree -/

/-- Two errors that are the same, except that they may name two unknown operators of one field. -/
inductive SameRefusal : FilterError → FilterError → Prop where
  | same (error : FilterError) : SameRefusal error error
  | unknownOperator (key other field : String) :
      SameRefusal (.unknownOperator key field) (.unknownOperator other field)

/-- Two readings with the same result, or with the same refusal. -/
inductive Agree {α : Type} : Except FilterError α → Except FilterError α → Prop where
  | ok (a : α) : Agree (.ok a) (.ok a)
  | error {error other : FilterError} (refusal : SameRefusal error other) :
      Agree (.error error) (.error other)

theorem Agree.refl {α : Type} (reading : Except FilterError α) : Agree reading reading := by
  cases reading with
  | ok a => exact .ok a
  | error error => exact .error (.same error)

theorem Agree.bind {α β : Type} {reading other : Except FilterError α}
    {next next' : α → Except FilterError β} (agree : Agree reading other)
    (each : ∀ a, Agree (next a) (next' a)) : Agree (reading >>= next) (other >>= next') := by
  cases agree with
  | ok a => exact each a
  | error refusal => exact .error refusal

/-- Readings that agree still do after a step that cannot fail. -/
theorem Agree.andReturn {α β : Type} {reading other : Except FilterError α} (f : α → β)
    (agree : Agree reading other) :
    Agree (reading >>= fun a => pure (f a)) (other >>= fun a => pure (f a)) :=
  agree.bind fun a => .ok (f a)

/-! ## Reading reordered filters -/

section Operators

variable {entries others : Entries}

theorem hasOperators_perm (perm : entries.Perm others) :
    hasOperators (.map others) = hasOperators (.map entries) := perm.symm.any_eq

/-- Operators are looked up by their keys.  Their order only decides which unknown one is found
first. -/
theorem readOperators_perm (field : String) (distinct : (entries.map (·.1)).Nodup)
    (perm : entries.Perm others) :
    Agree (readOperators field entries) (readOperators field others) := by
  have sameOperands : readOperator field others = readOperator field entries := by
    funext op
    rw [readOperator, readOperator, lookup_eq_of_perm distinct perm]
  have sameUnknown (isUnknown : String × Value → Bool) :
      (others.find? isUnknown).isSome = (entries.find? isUnknown).isSome := by
    rw [Bool.eq_iff_iff, List.find?_isSome, List.find?_isSome]
    simp only [perm.mem_iff]
  unfold readOperators
  split
  -- Which unknown operator is reported depends on the order, but not whether there is one.
  next key operand found =>
    have unknown := sameUnknown fun entry => (FieldOp.ofKey? entry.1).isNone
    rw [found, Option.isSome_some, Option.isSome_iff_exists] at unknown
    obtain ⟨⟨other, operand'⟩, found'⟩ := unknown
    rw [found']
    exact .error (.unknownOperator key other field)
  next none =>
    have known := sameUnknown fun entry => (FieldOp.ofKey? entry.1).isNone
    rw [none, Option.isSome_none, Option.isSome_eq_false_iff, Option.isNone_iff_eq_none] at known
    rw [known, sameOperands]
    exact .refl _

end Operators

theorem readEntry_joined {key : String} (joins : key = "$and" ∨ key = "$or")
    {items others : List Value} (agree : Agree (readAll items) (readAll others)) :
    Agree (readEntry key (.list items)) (readEntry key (.list others)) ∧
      Agree (readEntry key (.tuple items)) (readEntry key (.tuple others)) := by
  rcases joins with rfl | rfl
  · have both := agree.andReturn fun parts => [Filter.allOf parts]
    exact ⟨both, both⟩
  · have both := agree.andReturn fun parts => [Filter.anyOf parts]
    exact ⟨both, both⟩

theorem readEntry_operators {field : String} {entries : Entries}
    (isField : isOperatorKey field = false) (mapping : hasOperators (.map entries) = true) :
    readEntry field (.map entries) = readOperators field entries := by
  have ne {key : String} (reserved : isOperatorKey key = true) : field ≠ key := fun same => by
    rw [same, reserved] at isField
    cases isField
  rw [readEntry, if_neg (ne (by decide)), if_neg (ne (by decide)), if_neg (ne (by decide)), isField]
  simp only [mapping, Bool.or_true]
  rfl

mutual

/-- Reordered filters are read as the same tree, or are refused alike. -/
theorem read_reordered {value other : Value} (reordered : Reordered value other) :
    Agree (read value) (read other) := by
  cases reordered with
  | same => exact .refl _
  | mapping each =>
    rw [read, read]
    exact (readEntries_reordered each).andReturn Filter.conjunction

theorem readAll_reordered {values others : List Value} (reordered : AllReordered values others) :
    Agree (readAll values) (readAll others) := by
  cases reordered with
  | nil => exact .refl _
  | cons first each =>
    rw [readAll, readAll]
    exact (read_reordered first).bind fun part => (readAll_reordered each).andReturn (part :: ·)

theorem readEntries_reordered {entries others : Entries}
    (reordered : EntriesReordered entries others) :
    Agree (readEntries entries) (readEntries others) := by
  cases reordered with
  | nil => exact .refl _
  | cons first each =>
    rw [readEntries_cons, readEntries_cons]
    exact (readEntry_reordered first).bind fun own =>
      (readEntries_reordered each).andReturn (own ++ ·)

theorem readEntry_reordered {key : String} {value other : Value}
    (reordered : EntryReordered key value other) :
    Agree (readEntry key value) (readEntry key other) := by
  cases reordered with
  | same => exact .refl _
  | inList joins each => exact (readEntry_joined joins (readAll_reordered each)).1
  | inTuple joins each => exact (readEntry_joined joins (readAll_reordered each)).2
  | negation part =>
    cases part with
    | same => exact .refl _
    | mapping each =>
      exact (readEntries_reordered each).andReturn fun parts =>
        [Filter.negation (.conjunction parts)]
  | operators isField mapping distinct perm =>
    rw [readEntry_operators isField mapping,
      readEntry_operators isField ((hasOperators_perm perm).trans mapping)]
    exact readOperators_perm key distinct perm

end

theorem readOptional_reordered {value other : Value} (reordered : Reordered value other) :
    Agree (readOptional value) (readOptional other) := by
  cases reordered with
  | same => exact .refl _
  | mapping each => exact (read_reordered (.mapping each)).andReturn some

/-! ## The main fact -/

/-- The predicate of a filter as it is given: what is read from the value is written for columns
and from a start. -/
def compile (column : String → String) (start : Int) (value : Value) :
    Except Failure Sql.Clause := do
  let filter ← Failure.ofFilter (readOptional value)
  Failure.ofConversion (optionalPredicate column start filter)

theorem compile_of_readOptional (column : String → String) (start : Int) {value : Value}
    {result : Option Filter} (accepted : readOptional value = .ok result) :
    ∃ clause, compile column start value = .ok clause ∧
      optionalPredicate column start result = .ok clause := by
  have writes : ∃ clause, optionalPredicate column start result = .ok clause := by
    rcases readOptional_eq_ok.mp accepted with ⟨-, rfl⟩ | ⟨-, filter, wellFormed, rfl⟩
    · exact ⟨.empty, rfl⟩
    · exact (predicate_succeeds column start filter).mpr (isListed_of_read value wellFormed)
  obtain ⟨clause, written⟩ := writes
  refine ⟨clause, ?_, written⟩
  rw [compile, accepted]
  change Failure.ofConversion (optionalPredicate column start result) = _
  rw [written]
  rfl

/-- Two filters that differ in the order of operators are either both accepted, with the same tree
and with the same predicate for all columns and from every start, or both refused as no filters. -/
theorem compile_reordered {value other : Value} (reordered : Reordered value other) :
    (∃ result, readOptional value = .ok result ∧ readOptional other = .ok result ∧
      ∀ column start, ∃ clause,
        compile column start value = .ok clause ∧ compile column start other = .ok clause) ∨
    ∃ error error', SameRefusal error error' ∧
      (Failure.filter error).kind? = some .filterParse ∧
      (Failure.filter error').kind? = some .filterParse ∧
      readOptional value = .error error ∧ readOptional other = .error error' ∧
      ∀ column start, compile column start value = .error (.filter error) ∧
        compile column start other = .error (.filter error') := by
  have agree := readOptional_reordered reordered
  generalize reading : readOptional value = result at agree
  generalize reading' : readOptional other = result' at agree
  -- Compiling begins by reading, so what the readings agree on decides both of them.
  cases agree with
  | ok result =>
    refine .inl ⟨result, rfl, rfl, fun column start => ?_⟩
    obtain ⟨clause, compiled, written⟩ := compile_of_readOptional column start reading
    obtain ⟨clause', compiled', written'⟩ := compile_of_readOptional column start reading'
    cases written.symm.trans written'
    exact ⟨clause, compiled, compiled'⟩
  | @error error error' refusal =>
    refine .inr ⟨error, error', refusal, rfl, rfl, rfl, rfl, fun column start => ⟨?_, ?_⟩⟩
    · rw [compile, reading]
      rfl
    · rw [compile, reading']
      rfl

/-- A filter with two operators for a field below a negation, and with two for another field. -/
def twoFields (first second third fourth : String × Value) : Value :=
  .map [("$or", .tuple [.map [("$not", .map [("a", .map [first, second])])],
    .map [("b", .map [third, fourth]), ("c", .null)]])]

/-- For example, operators may be swapped below a disjunction and below a negation. -/
theorem compile_reordered_nested :
    let value := twoFields ("$lt", .int 3) ("$gt", .int 1) ("$exists", .bool true) ("$in", .list [])
    let other := twoFields ("$gt", .int 1) ("$lt", .int 3) ("$in", .list []) ("$exists", .bool true)
    let tree : Filter := .conjunction [.anyOf
      [.conjunction [.negation (.conjunction
          [.compare "a" .greater (.int 1), .compare "a" .less (.int 3)])],
        .conjunction [.compare "b" .among (.list []), .compare "b" .present (.bool true),
          .isNull "c"]]]
    Reordered value other ∧ readOptional value = .ok (some tree) ∧
      readOptional other = .ok (some tree) := by
  intro value other tree
  have reordered : Reordered value other :=
    .mapping (.cons (.inTuple (.inr rfl) (.cons
      (.mapping (.cons (.negation (.mapping (.cons
        (.operators rfl (by decide) (by decide) (.swap _ _ [])) .nil))) .nil))
      (.cons (.mapping (.cons
        (.operators rfl (by decide) (by decide) (.swap _ _ []))
        (.cons (.same "c" .null) .nil))) .nil))) .nil)
  have read : readOptional value = .ok (some tree) := by
    subst value tree
    rfl
  rcases compile_reordered reordered with ⟨result, own, others, -⟩ | ⟨error, -, -, -, -, refused, -⟩
  · cases read.symm.trans own
    exact ⟨reordered, read, others⟩
  · cases read.symm.trans refused

end Filter

end TableSearch
