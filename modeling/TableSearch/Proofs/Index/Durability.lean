import TableSearch.Proofs.Index.Initialization
import TableSearch.Proofs.Index.Refinement

/-!
# Bindings outlive a session

What a registry knows is written to the table of bindings step by step, so that another registry
finds the same bindings there.  Rows of other libraries stand in the same table, and ids are
unique across all of them: a binding under a foreign id is written into the foreign row, where it
is not found again.  Nothing else can go wrong.
-/

namespace TableSearch

open Sql Operation

/-! ## Known and stored bindings -/

/-- Rows and bindings with the same content: each binding has a row, from which nothing else can be
read, and each row of this library has a binding. -/
structure Mirrors (shown : String → Value) (rows : List BindingRow)
    (bindings : List (String × Binding)) : Prop where
  distinct : (rows.map (·.id)).Nodup
  stored : ∀ indexId binding, bindings.lookup indexId = some binding →
    ∃ row ∈ rows, row.id = indexId ∧ row.isOwn = true ∧
      ∀ other, row.Holds shown other → binding.Rearranged other
  known : ∀ row ∈ rows, row.isOwn = true → ∃ binding, bindings.lookup row.id = some binding

theorem eq_of_id {rows : List BindingRow} (distinct : (rows.map (·.id)).Nodup)
    {row other : BindingRow} (mem : row ∈ rows) (inside : other ∈ rows) (same : row.id = other.id) :
    row = other := List.inj_on_of_nodup_map distinct mem inside same

namespace Mirrors

variable {shown : String → Value} {rows : List BindingRow} {bindings : List (String × Binding)}
  {indexId : String} {binding : Binding}

theorem isOwn_of_lookup (mirrors : Mirrors shown rows bindings)
    (found : bindings.lookup indexId = some binding) :
    ∀ row ∈ rows, row.id = indexId → row.isOwn = true := by
  intro row mem same
  obtain ⟨other, inside, named, own, -⟩ := mirrors.stored indexId binding found
  rw [eq_of_id mirrors.distinct mem inside (same.trans named.symm)]
  exact own

theorem release (mirrors : Mirrors shown rows bindings) :
    Mirrors shown (BindingRow.remove indexId rows) (Change.apply bindings (.release indexId)) := by
  have lookup {name : String} (other : name ≠ indexId) :
      (Change.apply bindings (.release indexId)).lookup name = bindings.lookup name :=
    lookup_filter (· != indexId) (bne_iff_ne.mpr other)
  refine ⟨BindingRow.nodup_remove mirrors.distinct, fun name known found => ?_,
    fun row mem own => ?_⟩
  · have other : name ≠ indexId := by
      have inside := (List.mem_filter.mp (mem_of_lookup found)).2
      exact bne_iff_ne.mp inside
    rw [lookup other] at found
    obtain ⟨row, mem, named, own, holds⟩ := mirrors.stored name known found
    exact ⟨row, BindingRow.mem_remove.mpr ⟨mem, named ▸ other⟩, named, own, holds⟩
  · obtain ⟨inside, other⟩ := BindingRow.mem_remove.mp mem
    rw [lookup other]
    exact mirrors.known row inside own

/-- A binding under an id that no other library has is read from the row that was written. -/
theorem bind (faithful : ShowsTexts shown) (mirrors : Mirrors shown rows bindings)
    (names : (binding.fields.map (·.1)).Nodup)
    (own : ∀ row ∈ rows, row.id = indexId → row.isOwn = true) :
    Mirrors shown (BindingRow.store indexId binding.toJson rows)
      (Change.apply bindings (.bind indexId binding)) := by
  -- The row under the id was one of this library before, or it is new: either way it is found.
  have mine {row : BindingRow} (mem : row ∈ BindingRow.store indexId binding.toJson rows)
      (same : row.id = indexId) : row.isOwn = true ∧ row.config = binding.toJson := by
    rcases BindingRow.mem_store mirrors.distinct mem with ⟨other, -⟩ | ⟨-, config, own' | old⟩
    · exact absurd same other
    · exact ⟨own', config⟩
    · obtain ⟨old, inside, named, backend⟩ := old
      have kept : old.isOwn = row.isOwn := congrArg (· == backendId) backend
      exact ⟨kept ▸ own old inside named, config⟩
  -- Under any other id neither the row nor the binding has changed.
  refine ⟨BindingRow.nodup_store mirrors.distinct, fun name known found => ?_,
    fun row mem mine' => ?_⟩
  · by_cases same : name = indexId
    · subst same
      rw [Change.apply, lookup_insertEntry] at found
      cases found
      obtain ⟨row, mem, named⟩ := BindingRow.exists_mem_store
      obtain ⟨own', config⟩ := mine mem named
      exact ⟨row, mem, named, own', fun other holds => faithful.rearranged names config holds⟩
    · rw [Change.apply, lookup_insertEntry_of_ne _ same] at found
      obtain ⟨row, mem, named, own', holds⟩ := mirrors.stored name known found
      exact ⟨row, BindingRow.mem_store_of_ne mem (named ▸ same), named, own', holds⟩
  · by_cases same : row.id = indexId
    · exact ⟨binding, by rw [Change.apply, same, lookup_insertEntry]⟩
    · rw [Change.apply, lookup_insertEntry_of_ne _ same]
      rcases BindingRow.mem_store mirrors.distinct mem with ⟨-, inside⟩ | ⟨same', -⟩
      · exact mirrors.known row inside mine'
      · exact absurd same' same

/-- Nothing but the order of fields can differ between bindings with the content of the same rows. -/
theorem rel {known : List (String × Binding)} (left : Mirrors shown rows bindings)
    (right : Mirrors shown rows known) (readable : Readable shown rows) (indexId : String) :
    Option.Rel Binding.Rearranged (bindings.lookup indexId) (known.lookup indexId) := by
  cases found : bindings.lookup indexId with
  | some binding =>
    obtain ⟨row, mem, rfl, own, holds⟩ := left.stored indexId binding found
    obtain ⟨other, there⟩ := right.known row mem own
    obtain ⟨row', mem', named, -, holds'⟩ := right.stored row.id other there
    cases eq_of_id left.distinct mem' mem named
    obtain ⟨read, again⟩ := readable row mem own
    rw [there]
    exact .some ((holds read again).trans (holds' read again).symm)
  | none =>
    cases there : known.lookup indexId with
    | none => exact .none
    | some other =>
      obtain ⟨row, mem, rfl, own, -⟩ := right.stored indexId other there
      obtain ⟨binding, bound⟩ := left.known row mem own
      cases found.symm.trans bound

end Mirrors

/-! ## Runs of changes -/

/-- Changes that can be made one after the other: what is released was known. -/
def Possible : List Change → List (String × Binding) → Prop
  | [], _ => True
  | change :: rest, bindings =>
    (∀ indexId, change = .release indexId → ∃ binding, bindings.lookup indexId = some binding) ∧
      Possible rest (change.apply bindings)

/-- What can be said against changing the rows: a binding without a stored form, or under an id of
another library. -/
def Change.IsSafe (rows : List BindingRow) (change : Change) : Prop :=
  ∀ indexId binding, change = .bind indexId binding →
    (binding.fields.map (·.1)).Nodup ∧ ∀ row ∈ rows, row.id = indexId → row.isOwn = true

theorem BindingRow.mem_others {row : BindingRow} {rows : List BindingRow} :
    row ∈ others rows ↔ row ∈ rows ∧ row.isOwn = false := by
  rw [others, List.mem_filter, Bool.not_eq_true']

theorem Change.IsSafe.of_others {rows after : List BindingRow} {change : Change}
    (same : BindingRow.others after = BindingRow.others rows) (safe : change.IsSafe rows) :
    change.IsSafe after := by
  intro indexId binding binds
  obtain ⟨names, own⟩ := safe indexId binding binds
  refine ⟨names, fun row mem named => ?_⟩
  by_contra foreign
  have inside : row ∈ BindingRow.others rows :=
    same ▸ BindingRow.mem_others.mpr ⟨mem, Bool.not_eq_true _ ▸ foreign⟩
  exact foreign (own row (BindingRow.mem_others.mp inside).1 named)

section Changes

variable {shown : String → Value} {rows : List BindingRow} {bindings : List (String × Binding)}

theorem Mirrors.write (faithful : ShowsTexts shown) (mirrors : Mirrors shown rows bindings)
    {change : Change} (safe : change.IsSafe rows) :
    Mirrors shown (change.write rows) (change.apply bindings) := by
  cases change with
  | bind indexId binding =>
    obtain ⟨names, own⟩ := safe indexId binding rfl
    exact mirrors.bind faithful names own
  | release indexId => exact mirrors.release

/-- One change keeps the rows of others as they are, if what it releases was known. -/
theorem Mirrors.others_write (mirrors : Mirrors shown rows bindings) {change : Change}
    (possible : ∀ indexId, change = .release indexId →
      ∃ binding, bindings.lookup indexId = some binding)
    (safe : change.IsSafe rows) :
    BindingRow.others (change.write rows) = BindingRow.others rows := by
  cases change with
  | bind indexId binding => exact BindingRow.others_store (safe indexId binding rfl).2
  | release indexId =>
    obtain ⟨binding, found⟩ := possible indexId rfl
    exact BindingRow.others_remove (mirrors.isOwn_of_lookup found)

/-- Changes keep the rows and the bindings the same, and the rows of others as they are. -/
theorem Mirrors.changes (faithful : ShowsTexts shown) (mirrors : Mirrors shown rows bindings)
    {changes : List Change}
    (possible : Possible changes bindings) (safe : ∀ change ∈ changes, change.IsSafe rows) :
    Mirrors shown (changes.foldl Change.write rows) (changes.foldl Change.apply bindings) ∧
      BindingRow.others (changes.foldl Change.write rows) = BindingRow.others rows := by
  induction changes generalizing rows bindings with
  | nil => exact ⟨mirrors, rfl⟩
  | cons change changes ih =>
    obtain ⟨released, possible⟩ := possible
    have first := safe change List.mem_cons_self
    have others := mirrors.others_write released first
    have rest : ∀ change' ∈ changes, change'.IsSafe (change.write rows) := fun change' mem =>
      (safe change' (List.mem_cons_of_mem _ mem)).of_others others
    obtain ⟨mirrors, others'⟩ := ih (mirrors.write faithful first) possible rest
    exact ⟨mirrors, others'.trans others⟩

theorem nodup_write (distinct : (rows.map (·.id)).Nodup) (change : Change) :
    ((change.write rows).map (·.id)).Nodup := by
  cases change with
  | bind indexId binding => exact BindingRow.nodup_store distinct
  | release indexId => exact BindingRow.nodup_remove distinct

theorem nodup_writes (distinct : (rows.map (·.id)).Nodup) (changes : List Change) :
    ((changes.foldl Change.write rows).map (·.id)).Nodup := by
  induction changes generalizing rows with
  | nil => exact distinct
  | cons change changes ih => exact ih (nodup_write distinct change)

/-- Rows that could be read still can, if what is bound can be read. -/
theorem Readable.write (faithful : ShowsTexts shown) (distinct : (rows.map (·.id)).Nodup)
    (readable : Readable shown rows) {change : Change}
    (bound : ∀ indexId binding, change = .bind indexId binding →
      (binding.fields.map (·.1)).Nodup ∧ binding.IsReadable) :
    Readable shown (change.write rows) := by
  intro row mem own
  cases change with
  | bind indexId binding =>
    obtain ⟨names, short⟩ := bound indexId binding rfl
    rcases BindingRow.mem_store distinct mem with ⟨-, inside⟩ | ⟨-, written, -⟩
    · exact readable row inside own
    · exact faithful.exists_holds names written short
  | release indexId => exact readable row (BindingRow.mem_remove.mp mem).1 own

theorem Readable.writes (faithful : ShowsTexts shown) (distinct : (rows.map (·.id)).Nodup)
    (readable : Readable shown rows) {changes : List Change}
    (bound : ∀ change ∈ changes, ∀ indexId binding, change = .bind indexId binding →
      (binding.fields.map (·.1)).Nodup ∧ binding.IsReadable) :
    Readable shown (changes.foldl Change.write rows) := by
  induction changes generalizing rows with
  | nil => exact readable
  | cons change changes ih =>
    obtain ⟨first, rest⟩ := List.forall_mem_cons.mp bound
    exact ih (nodup_write distinct change) (readable.write faithful distinct first) rest

/-- A foreign row was there before, and its id has not been released. -/
theorem foreign_of_mem_write (distinct : (rows.map (·.id)).Nodup) {change : Change}
    {row : BindingRow} (mem : row ∈ change.write rows) (foreign : row.isOwn = false) :
    change ≠ .release row.id ∧ ∃ old ∈ rows, old.id = row.id ∧ old.isOwn = false := by
  cases change with
  | bind indexId binding =>
    refine ⟨nofun, ?_⟩
    rcases BindingRow.mem_store distinct mem with ⟨-, inside⟩ | ⟨same, -, own | old⟩
    · exact ⟨row, inside, rfl, foreign⟩
    · cases own.symm.trans foreign
    · obtain ⟨old, inside, named, backend⟩ := old
      have kept : old.isOwn = row.isOwn := congrArg (· == backendId) backend
      exact ⟨old, inside, named.trans same.symm, kept.trans foreign⟩
  | release indexId =>
    obtain ⟨inside, other⟩ := BindingRow.mem_remove.mp mem
    exact ⟨fun same => other (Change.release.inj same).symm, row, inside, rfl, foreign⟩

theorem foreign_of_mem_writes (distinct : (rows.map (·.id)).Nodup) {changes : List Change}
    {row : BindingRow} (mem : row ∈ changes.foldl Change.write rows) (foreign : row.isOwn = false) :
    (∀ change ∈ changes, change ≠ .release row.id) ∧
      ∃ old ∈ rows, old.id = row.id ∧ old.isOwn = false := by
  induction changes generalizing rows with
  | nil => exact ⟨nofun, row, mem, rfl, foreign⟩
  | cons change changes ih =>
    -- Traced back through the later changes, the row is one behind the first change.
    obtain ⟨rest, old, inside, named, foreign⟩ := ih (nodup_write distinct change) mem
    obtain ⟨first, before⟩ := foreign_of_mem_write distinct inside foreign
    rw [named] at first before
    exact ⟨List.forall_mem_cons.mpr ⟨first, rest⟩, before⟩

theorem isSome_lookup_apply {change : Change} {indexId : String}
    (kept : change ≠ .release indexId) (bound : (bindings.lookup indexId).isSome = true) :
    ((change.apply bindings).lookup indexId).isSome = true := by
  cases change with
  | bind other binding =>
    rw [Change.apply, isSome_lookup_iff, mem_keys_insertEntry]
    exact .inr (isSome_lookup_iff.mp bound)
  | release other =>
    have apart : (indexId != other) = true := bne_iff_ne.mpr fun same => kept (same ▸ rfl)
    rwa [Change.apply, lookup_filter (· != other) apart]

theorem isSome_lookup_applies {changes : List Change} {indexId : String} {binding : Binding}
    (binds : .bind indexId binding ∈ changes)
    (kept : ∀ change ∈ changes, change ≠ .release indexId) :
    ((changes.foldl Change.apply bindings).lookup indexId).isSome = true := by
  have stays (changes : List Change) (kept : ∀ change ∈ changes, change ≠ .release indexId)
      (bindings : List (String × Binding)) (bound : (bindings.lookup indexId).isSome = true) :
      ((changes.foldl Change.apply bindings).lookup indexId).isSome = true := by
    induction changes generalizing bindings with
    | nil => exact bound
    | cons change changes ih =>
      obtain ⟨first, rest⟩ := List.forall_mem_cons.mp kept
      exact ih rest _ (isSome_lookup_apply first bound)
  obtain ⟨before, after, rfl⟩ := List.append_of_mem binds
  rw [List.foldl_append, List.foldl_cons]
  refine stays after (fun change mem => kept change ?_) _ ?_
  · exact List.mem_append_right _ (List.mem_cons_of_mem _ mem)
  · rw [Change.apply, lookup_insertEntry]
    rfl

end Changes

/-! ## Loaded bindings -/

theorem remembered_eq_append {found before : List (String × Binding)}
    (distinct : ((before ++ found).map (·.1)).Nodup) :
    remembered found before = before ++ found :=
  foldl_insertEntry distinct

namespace Loads

variable {σ : Type} {rows : σ → Option (List BindingRow)} {shown : String → Value}
  {before after : Session σ} (loads : Loads rows shown before after) (fresh : before.bindings = [])
  (distinct : (((rows before.world).getD []).map (·.id)).Nodup)

include loads

theorem exists_holds {row : BindingRow} (mem : row ∈ (rows before.world).getD [])
    (own : row.isOwn = true) : ∃ binding, row.Holds shown binding := by
  obtain ⟨listed, found, perm, each, -⟩ := loads.loaded
  have inside : row ∈ listed := perm.mem_iff.mpr (List.mem_filter.mpr ⟨mem, own⟩)
  obtain ⟨entry, -, -, holds⟩ := exists_mem_of_forall₂ each inside
  exact ⟨entry.2, holds⟩

include fresh distinct

/-- A registry that knew nothing knows the bindings in the rows of this library. -/
theorem lookup_iff {indexId : String} {binding : Binding} :
    after.bindings.lookup indexId = some binding ↔
      ∃ row ∈ (rows before.world).getD [], row.id = indexId ∧ row.isOwn = true ∧
        row.Holds shown binding := by
  obtain ⟨listed, found, perm, each, loaded⟩ := loads.loaded
  have keys : found.map (·.1) = listed.map (·.id) :=
    map_eq_map_of_forall₂ each.flip fun _ _ both => both.1
  -- Ids are distinct, so no loaded binding takes the place of another one.
  have unrepeated : (found.map (·.1)).Nodup := by
    rw [keys, (perm.map _).nodup_iff]
    exact distinct.sublist (List.filter_sublist.map _)
  have known : after.bindings = found := by
    rw [loaded, fresh]
    exact remembered_eq_append unrepeated
  rw [known]
  constructor
  · intro here
    obtain ⟨row, inside, same, holds⟩ := exists_mem_of_forall₂ each.flip (mem_of_lookup here)
    obtain ⟨mem, own⟩ := List.mem_filter.mp (perm.mem_iff.mp inside)
    exact ⟨row, mem, same.symm, own, holds⟩
  · rintro ⟨row, mem, rfl, own, holds⟩
    have inside : row ∈ listed := perm.mem_iff.mpr (List.mem_filter.mpr ⟨mem, own⟩)
    obtain ⟨⟨name, other⟩, here, same, holds'⟩ := exists_mem_of_forall₂ each inside
    cases same
    cases holds.unique holds'
    exact lookup_of_mem unrepeated here

/-- Nothing is loaded from a foreign row, nor under its id from any other one. -/
theorem lookup_eq_none_of_foreign {row : BindingRow} (mem : row ∈ (rows before.world).getD [])
    (foreign : row.isOwn = false) : after.bindings.lookup row.id = none := by
  rw [Option.eq_none_iff_forall_not_mem]
  intro binding found
  obtain ⟨other, inside, named, own, -⟩ := (loads.lookup_iff fresh distinct).mp found
  cases eq_of_id distinct mem inside named.symm
  cases own.symm.trans foreign

theorem mirrors : Mirrors shown ((rows before.world).getD []) after.bindings := by
  refine ⟨distinct, fun indexId binding found => ?_, fun row mem own => ?_⟩
  · obtain ⟨row, mem, named, own, holds⟩ := (loads.lookup_iff fresh distinct).mp found
    refine ⟨row, mem, named, own, fun other again => ?_⟩
    cases holds.unique again
    exact .refl binding
  · obtain ⟨binding, holds⟩ := loads.exists_holds mem own
    exact ⟨binding, (loads.lookup_iff fresh distinct).mpr ⟨row, mem, rfl, own, holds⟩⟩

/-- Where rows and known bindings have the same content, what is loaded is what was known. -/
theorem rel_of_mirrors {bindings : List (String × Binding)}
    (mirrors : Mirrors shown ((rows before.world).getD []) bindings) (indexId : String) :
    Option.Rel Binding.Rearranged (bindings.lookup indexId) (after.bindings.lookup indexId) :=
  mirrors.rel (loads.mirrors fresh distinct) (fun _ mem own => loads.exists_holds mem own) indexId

end Loads

/-! ## Runs of calls -/

variable {σ : Type} [World σ]

def Call.Succeed (registry : Registry) : List Call → Session σ → Prop
  | [], _ => True
  | call :: rest, session =>
    (perform (call.operation registry) session).1 = .ok () ∧
      Succeed registry rest (perform (call.operation registry) session).2

/-- A call that releases a binding succeeds only if there is one. -/
theorem Call.exists_binding_of_release {registry : Registry} {call : Call} {indexId : String}
    {session : Session σ} (ready : session.ready = true)
    (asked : call.change? = some (.release indexId))
    (done : (perform (call.operation registry) session).1 = .ok ()) :
    ∃ binding, session.bindings.lookup indexId = some binding := by
  -- No call but a deletion asks for an index to be released.
  have required : call.required? = some indexId := by
    cases call with
    | deleteIndex =>
      cases asked
      rfl
    | createIndex id schemaName schema =>
      simp [change?] at asked
    | bindValue id value =>
      simp [change?] at asked
    | bindIndex | startup | shutdown | describeIndex | listIndexes | nextPage | query | upsert
    | patch | delete => cases asked
  have needs := needsBinding (σ := σ) registry required
  rw [← Option.isSome_iff_exists, Option.isSome_iff_ne_none]
  intro unbound
  rw [needs.unbound session ready unbound] at done
  cases done

/-- Calls that create, bind and delete indexes change rows and bindings alike. -/
theorem BindingTable.run {registry : Registry} {rows : σ → Option (List BindingRow)}
    {shown : String → Value} (laws : BindingTable registry.table rows shown) {calls : List Call}
    {session : Session σ} {before : List BindingRow} (ready : session.ready = true)
    (there : rows session.world = some before)
    (changing : ∀ call ∈ calls, call.change?.isSome = true)
    (succeed : Call.Succeed registry calls session) :
    ∃ changes, List.Forall₂ (fun call change => call.change? = some change) calls changes ∧
      Possible changes session.bindings ∧
      (Call.run registry calls session).bindings = changes.foldl Change.apply session.bindings ∧
      rows (Call.run registry calls session).world = some (changes.foldl Change.write before) := by
  induction calls generalizing session before with
  | nil => exact ⟨[], .nil, trivial, rfl, there⟩
  | cons call calls ih =>
    obtain ⟨done, succeed⟩ := succeed
    obtain ⟨first, changing⟩ := List.forall_mem_cons.mp changing
    obtain ⟨change, asked⟩ := Option.isSome_iff_exists.mp first
    have applies := call.attempts registry session ready
    have next := laws.step asked ready there (Prod.ext done rfl)
    obtain ⟨changes, each, possible, bindings, table⟩ :=
      ih (applies.ready.trans ready) next changing succeed
    have changed : (perform (call.operation registry) session).2.bindings =
        change.apply session.bindings := by
      have made := applies.bindings
      rwa [done, asked] at made
    rw [changed] at possible bindings
    refine ⟨change :: changes, .cons asked each, ⟨?_, possible⟩, bindings, table⟩
    -- That what is released was known follows from the success of the call.
    rintro indexId rfl
    exact Call.exists_binding_of_release ready asked done

/-- Let a registry initialize itself, and let some calls that create, bind and delete indexes
succeed.  Then another registry on the same table can initialize itself, unless what was bound
cannot be read.  When it does so, it knows the same bindings up to the order of their fields, and
the rows of other libraries are unchanged, exactly if no call has bound an id that was the one of a
foreign row. -/
theorem Registry.durable_iff {registry other : Registry} {rows : σ → Option (List BindingRow)}
    {shown : String → Value} (laws : BindingTable registry.table rows shown)
    (sameTable : other.schema = registry.schema) {start : σ} {first : Session σ}
    {calls : List Call} (distinct : (((rows start).getD []).map (·.id)).Nodup)
    (initialized : perform registry.ensureReady { world := start } = (.ok (), first))
    (changing : ∀ call ∈ calls, call.change?.isSome = true)
    (succeed : Call.Succeed registry calls first)
    (names : ∀ call ∈ calls, ∀ indexId binding, call.change? = some (.bind indexId binding) →
      (binding.fields.map (·.1)).Nodup) :
    (other.Admitted rows →
      (∀ call ∈ calls, ∀ indexId binding, call.change? = some (.bind indexId binding) →
        binding.IsReadable) →
      ∃ second, perform other.ensureReady { world := (Call.run registry calls first).world } =
        (.ok (), second)) ∧
    ∀ second, perform other.ensureReady { world := (Call.run registry calls first).world } =
        (.ok (), second) →
      (((∀ indexId, Option.Rel Binding.Rearranged
            ((Call.run registry calls first).bindings.lookup indexId)
            (second.bindings.lookup indexId)) ∧
          BindingRow.others ((rows second.world).getD []) =
            BindingRow.others ((rows start).getD [])) ↔
        ∀ call ∈ calls, ∀ indexId binding, call.change? = some (.bind indexId binding) →
          ∀ row ∈ (rows start).getD [], row.id = indexId → row.isOwn = true) := by
  have loads : Loads rows shown { world := start } first := laws.loads rfl initialized
  obtain ⟨changes, each, possible, bindings, table⟩ :=
    laws.run loads.ready loads.table changing succeed
  -- A registry finds its table by the name of the schema alone.
  have laws' : BindingTable other.table rows shown := by
    have same : other.table = registry.table := congrArg registryTable sameTable
    rw [same]
    exact laws
  have final : (rows (Call.run registry calls first).world).getD [] =
      changes.foldl Change.write ((rows start).getD []) := by rw [table, Option.getD_some]
  have distinct' := nodup_writes distinct changes
  have boundBy {indexId : String} {binding : Binding}
      (mem : Change.bind indexId binding ∈ changes) :
      ∃ call ∈ calls, call.change? = some (.bind indexId binding) :=
    exists_mem_of_forall₂ each.flip mem
  refine ⟨fun admitted short => ?_, fun second again => ?_⟩
  · have before : Readable shown ((rows start).getD []) := fun row mem own =>
      loads.exists_holds mem own
    refine laws'.initializes admitted (final ▸ before.writes laws.shown distinct ?_)
    rintro change mem indexId binding rfl
    obtain ⟨call, inside, asked⟩ := boundBy mem
    exact ⟨names call inside indexId binding asked, short call inside indexId binding asked⟩
  have reloads : Loads rows shown { world := (Call.run registry calls first).world } second :=
    laws'.loads rfl again
  -- The second registry has written nothing, so the rows are still those that the calls left.
  rw [reloads.table, final, Option.getD_some]
  constructor
  · rintro ⟨same, others⟩ call mem indexId binding binds row inside named
    by_contra foreign
    have foreign : row.isOwn = false := by simpa using foreign
    obtain ⟨change, made, asked⟩ := exists_mem_of_forall₂ each mem
    cases binds.symm.trans asked
    -- The foreign row is still there, so its id was never released; but it was bound.
    have kept : row ∈ changes.foldl Change.write ((rows start).getD []) :=
      (BindingRow.mem_others.mp (others ▸ BindingRow.mem_others.mpr ⟨inside, foreign⟩)).1
    obtain ⟨unreleased, -⟩ := foreign_of_mem_writes distinct kept foreign
    have bound : ((changes.foldl Change.apply first.bindings).lookup indexId).isSome = true :=
      isSome_lookup_applies made (named ▸ unreleased)
    rw [← bindings] at bound
    obtain ⟨known, found⟩ := Option.isSome_iff_exists.mp bound
    have lost := reloads.lookup_eq_none_of_foreign rfl (final ▸ distinct') (final ▸ kept) foreign
    have related := same indexId
    rw [found, ← named, lost] at related
    cases related
  · intro own
    have safe : ∀ change ∈ changes, change.IsSafe ((rows start).getD []) := by
      rintro change mem indexId binding rfl
      obtain ⟨call, inside, asked⟩ := boundBy mem
      exact ⟨names call inside indexId binding asked, own call inside indexId binding asked⟩
    obtain ⟨mirrors, others⟩ := (loads.mirrors rfl distinct).changes laws.shown possible safe
    refine ⟨fun indexId => ?_, others⟩
    rw [bindings]
    exact reloads.rel_of_mirrors rfl (final ▸ distinct') (final ▸ mirrors) indexId

/-- For example, another registry knows what was bound, and no more what was deleted. -/
theorem Registry.durable_iff_bound_and_deleted :
    let foreign : BindingRow := ⟨"x", "other", "\x7b\x7d"⟩
    let start : Database :=
      { bindings := some [foreign, ⟨"a", backendId, "\x7b\"table\":\"t\"\x7d"⟩] }
    let calls := [Call.bindIndex "b" { table := "u" }, Call.deleteIndex "a"]
    ∃ first second, perform (ensureReady {}) { world := start } = (.ok (), first) ∧
      perform (ensureReady {}) { world := (Call.run {} calls first).world } = (.ok (), second) ∧
      first.bindings = [("a", { table := "t" })] ∧ second.bindings = [("b", { table := "u" })] ∧
      (∀ indexId, Option.Rel Binding.Rearranged ((Call.run {} calls first).bindings.lookup indexId)
        (second.bindings.lookup indexId)) ∧
      BindingRow.others (second.world.bindings.getD []) = [foreign] := by
  intro foreign start calls
  have initialized : perform (ensureReady {}) { world := start } = (.ok (), start.opened) :=
    Database.perform_opened (by decide +kernel)
  have succeed : Call.Succeed {} calls start.opened :=
    ⟨by decide +kernel, by decide +kernel, trivial⟩
  have changing : ∀ call ∈ calls, call.change?.isSome = true :=
    List.forall_mem_cons.mpr ⟨rfl, List.forall_mem_singleton.mpr rfl⟩
  have asked {call : Call} (mem : call ∈ calls) {indexId : String} {binding : Binding}
      (binds : call.change? = some (.bind indexId binding)) :
      indexId = "b" ∧ binding = { table := "u" } := by
    simp only [calls, List.mem_cons, List.not_mem_nil, or_false] at mem
    rcases mem with rfl | rfl
    · cases binds
      exact ⟨rfl, rfl⟩
    · cases binds
  have durable := durable_iff Database.bindingTable rfl (by decide) initialized changing succeed
    fun call mem indexId binding binds => (asked mem binds).2 ▸ List.nodup_nil
  have short : ∀ call ∈ calls, ∀ indexId binding, call.change? = some (.bind indexId binding) →
      binding.IsReadable := by
    intro call mem indexId binding binds
    rw [(asked mem binds).2]
    exact List.forall_mem_nil _
  obtain ⟨second, again⟩ := durable.1 Database.admitted short
  have same : (Call.run {} calls start.opened).world.opened = second := congrArg Prod.snd again
  obtain ⟨bindings, others⟩ := (durable.2 second again).mpr
    fun call mem indexId binding binds => (asked mem binds).1 ▸ (by decide)
  have kept : BindingRow.others (start.bindings.getD []) = [foreign] := by decide
  refine ⟨_, second, initialized, again, by decide +kernel, ?_, bindings, others.trans kept⟩
  rw [← same]
  decide +kernel

/-- A binding under a foreign id is known for the time being, but it stands in the foreign row,
which has lost its own content, and is not loaded again. -/
theorem Registry.foreign_id_not_durable :
    let start : Database := { bindings := some [⟨"x", "other", "\x7b\x7d"⟩] }
    let calls := [Call.bindIndex "x" { table := "t" }]
    ∃ first second, perform (ensureReady {}) { world := start } = (.ok (), first) ∧
      Call.Succeed {} calls first ∧
      perform (ensureReady {}) { world := (Call.run {} calls first).world } = (.ok (), second) ∧
      (Call.run {} calls first).bindings = [("x", { table := "t" })] ∧ second.bindings = [] ∧
      second.world.bindings = some [⟨"x", "other",
        "\x7b\"schema\":\"public\",\"table\":\"t\",\"pkey\":\"id\",\"fields\":\x7b\x7d\x7d"⟩] := by
  intro start calls
  have initialized : perform (ensureReady {}) { world := start } = (.ok (), start.opened) :=
    Database.perform_opened (by decide +kernel)
  have again : perform (ensureReady {}) { world := (Call.run {} calls start.opened).world } =
      (.ok (), (Call.run {} calls start.opened).world.opened) :=
    Database.perform_opened (by decide +kernel)
  have succeed : Call.Succeed {} calls start.opened := ⟨by decide +kernel, trivial⟩
  exact ⟨_, _, initialized, succeed, again, by decide +kernel, by decide +kernel, by decide +kernel⟩

end TableSearch
