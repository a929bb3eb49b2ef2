import TableSearch.Proofs.Filter.Grammar
import TableSearch.Proofs.Index.Storing
import TableSearch.Proofs.Query.Signals

/-!
# Queries that can be answered

Whether a statement can be written for a query is a matter of the query alone.  `Answerable` says
which queries these are without a look at how a statement is written, and
`Search.exists_clause_iff` that they are the ones.
-/

namespace TableSearch

open Sql

/-! ## Records that are read -/

namespace Checked

variable {α β : Type}

theorem map_eq_valid {checked : Checked α} {f : α → β} {b : β} :
    f <$> checked = .valid b ↔ ∃ a, checked = .valid a ∧ f a = b := by
  cases checked with
  | valid a =>
    change valid (f a) = valid b ↔ _
    simp
  | invalid faults =>
    change invalid faults = valid b ↔ _
    simp

theorem seq_eq_valid {checked : Checked (α → β)} {argument : Checked α} {b : β} :
    checked <*> argument = .valid b ↔
      ∃ f, checked = .valid f ∧ ∃ a, argument = .valid a ∧ f a = b := by
  cases checked with
  | valid f =>
    change f <$> argument = valid b ↔ _
    simp [map_eq_valid]
  | invalid faults =>
    change invalid (faults ++ argument.faults) = valid b ↔ _
    simp

end Checked

theorem Failure.ofChecked_eq_ok {α : Type} {checked : Checked α} {a : α} :
    ofChecked checked = .ok a ↔ checked = .valid a := by
  cases checked <;> simp [ofChecked]

/-- A field that may be missing has its default, or the reading of the entry under one of its
names. -/
theorem Decoder.withDefault_eq_valid {α : Type} {names : List String} {assumed a : α}
    {decode : Decoder α} {entries : Entries}
    (read : withDefault names assumed decode entries = .valid a) :
    a = assumed ∨ ∃ name value, (name, value) ∈ entries ∧ decode value = .valid a := by
  unfold withDefault at read
  split at read
  next name value found =>
    obtain ⟨other, -, given⟩ := List.exists_of_findSome?_eq_some found
    obtain ⟨_, present, same⟩ := Option.map_eq_some_iff.mp given
    cases same
    refine .inr ⟨name, value, mem_of_lookup present, ?_⟩
    cases decoded : decode value with
    | valid b =>
      rw [decoded] at read
      exact read
    | invalid faults =>
      rw [decoded] at read
      cases read
  next =>
    cases read
    exact .inl rfl

namespace SearchQuery

/-- The filter of a query is a part of the value that the query is read from. -/
theorem filter_of_read {entries filter : Entries} {q : SearchQuery}
    (accepted : read (.map entries) = .valid q) (given : q.filter = some filter) :
    ∃ name, (name, .map filter) ∈ entries := by
  simp only [read, Decoder.record, Checked.seq_eq_valid, Checked.map_eq_valid] at accepted
  -- The fields are read from the last one inwards; only what is read as the filter matters.
  obtain ⟨_, ⟨_, ⟨_, ⟨_, ⟨_, ⟨_, ⟨_, ⟨_, -, rfl⟩, _, -, rfl⟩, own, read, rfl⟩, _, -, rfl⟩,
    _, -, rfl⟩, _, -, rfl⟩, _, -, rfl⟩, _, -, rfl⟩ := accepted
  obtain rfl : own = some filter := given
  obtain absent | ⟨name, value, mem, decoded⟩ := Decoder.withDefault_eq_valid read
  · cases absent
  · cases value with
    | map inner =>
      cases decoded
      exact ⟨name, mem⟩
    | null | bool | int | real | text | bytes | timestamp | decimal | list | tuple => cases decoded

/-- If no mapping in a value repeats a key, then none in the filter of its query does. -/
theorem hasDistinctKeys_filter {input : Value} {q : SearchQuery} (proper : input.HasDistinctKeys)
    (accepted : ofValue input = .ok q) {filter : Entries} (given : q.filter = some filter) :
    (Value.map filter).HasDistinctKeys := by
  unfold ofValue at accepted
  split at accepted
  next =>
    cases accepted
    cases given
  next => cases accepted
  next items _ _ =>
    simp only [ofSignals, bind_eq_ok, Failure.ofChecked_eq_ok, Checked.map_eq_valid] at accepted
    obtain ⟨_, -, _, -, rfl⟩ := accepted
    cases given
  next entries shape =>
    -- Only a mapping with one of the option keys is read as options.
    obtain rfl : input = .map entries := by
      unfold QueryShape.ofValue at shape
      split at shape
      next =>
        split at shape
        next =>
          cases shape
          rfl
        next => cases shape
      all_goals cases shape
    simp only [bind_eq_ok, Failure.ofChecked_eq_ok, requireSignals, Failure.ofQuery,
      mapError_eq_ok] at accepted
    obtain ⟨_, read, checked⟩ := accepted
    split at checked
    next => cases checked
    next =>
      cases checked
      obtain ⟨name, mem⟩ := filter_of_read read given
      exact proper.of_map.2 _ mem
  next => cases accepted

end SearchQuery

def QueryInput.HasDistinctKeys : QueryInput → Prop
  | value input => input.HasDistinctKeys
  | query q => ∀ filter, q.filter = some filter → (Value.map filter).HasDistinctKeys

theorem QueryInput.HasDistinctKeys.filter {input : QueryInput} {q : SearchQuery}
    (proper : input.HasDistinctKeys) (accepted : SearchQuery.normalize input = .ok q)
    {filter : Entries} (given : q.filter = some filter) : (Value.map filter).HasDistinctKeys := by
  cases input with
  | value input => exact SearchQuery.hasDistinctKeys_filter proper accepted given
  | query other =>
    simp only [SearchQuery.normalize, SearchQuery.requireSignals, Failure.ofQuery,
      mapError_eq_ok] at accepted
    split at accepted
    next => cases accepted
    next =>
      cases accepted
      exact proper filter given

/-! ## Vectors -/

namespace Vector

/-- Numbers are converted unless one of them is too large for a double. -/
theorem exists_components_iff {items : List Value}
    (numbers : ∀ item ∈ items, item.isPlainNumber = true) :
    (∃ reals, components items = .ok reals) ↔
      ∀ n, .int n ∈ items → (Binary64.ofInt? n).isSome = true := by
  simp only [components, mapM_eq_ok]
  constructor
  · rintro ⟨reals, each⟩ n mem
    obtain ⟨_, -, made⟩ := exists_mem_of_forall₂ each mem
    obtain ⟨x, given, -⟩ := except_map_eq_ok.mp made
    rw [Value.toReal] at given
    cases inRange : Binary64.ofInt? n with
    | some y => rfl
    | none =>
      rw [inRange] at given
      cases given
  · intro inRange
    refine exists_forall₂ fun item mem => ?_
    have number := numbers item mem
    cases item with
    | int n =>
      obtain ⟨x, same⟩ := Option.isSome_iff_exists.mp (inRange n mem)
      exact ⟨.real x, by rw [Value.toReal, same]; rfl⟩
    | real x => exact ⟨.real x, rfl⟩
    | null | bool | text | bytes | timestamp | decimal | list | tuple | map => cases number

/-- Vectors are written unless one of their components is too large for a double. -/
theorem exists_encode_iff {vector : Value} {items : List Value}
    (listed : vector.items? = some items) (numbers : ∀ item ∈ items, item.isPlainNumber = true) :
    (∃ text, encode vector = .ok text) ↔
      ∀ n, .int n ∈ items → (Binary64.ofInt? n).isSome = true := by
  have members : vector.toList = .ok items := by
    cases vector with
    | list | tuple =>
      cases listed
      rfl
    | _ => cases listed
  rw [← exists_components_iff numbers]
  simp only [encode, bind_eq_ok, members]
  constructor
  · rintro ⟨_, _, same, reals, found, -⟩
    cases same
    exact ⟨reals, found⟩
  · rintro ⟨_, found⟩
    -- Once they are converted nothing is left that could not be written.
    obtain ⟨reals, rfl⟩ := exists_reals found
    obtain ⟨text, write⟩ := Json.exists_write_reals Json.vectorStyle reals
    exact ⟨text, _, rfl, _, found, write⟩

end Vector

/-! ## Queries -/

/-- A query that one statement can answer: its scores need not be fused, its filter is one, and the
numbers that it sends as components of a vector are in the range of doubles. -/
structure SearchQuery.Answerable (q : SearchQuery) : Prop where
  single : q.signals.length ≤ 1
  oneVector : ∀ signal ∈ q.signals, signal.vectors.length ≤ 1
  unmixed : ∀ signal ∈ q.signals, signal.vectors = [] ∨ signal.texts = []
  filter : ∀ entries, q.filter = some entries → Filter.IsFilter (.map entries)
  inRange : ∀ signal ∈ q.signals, ∀ field vector items, (field, vector) ∈ signal.vectors →
    vector.items? = some items → ∀ n, .int n ∈ items → (Binary64.ofInt? n).isSome = true

namespace Filter

theorem exists_read_iff {value : Value} (proper : value.HasDistinctKeys) :
    (∃ filter, read value = .ok filter) ↔ IsFilter value := by
  simp only [read_iff value proper, exists_standsFor value proper]

end Filter

namespace Search

variable {q : SearchQuery} (table : TableName) (keyColumn : String) (binding : Option Binding)

/-- A query is accepted if nothing is wrong with its signals and its filter. -/
theorem exists_ofQuery_iff
    (proper : ∀ entries, q.filter = some entries → (Value.map entries).HasDistinctKeys) :
    (∃ search, ofQuery q table keyColumn binding = .ok search) ↔
      Signal.check q.signals = .ok () ∧
        ∀ entries, q.filter = some entries → Filter.IsFilter (.map entries) := by
  unfold ofQuery
  cases listed : q.filter with
  | none =>
    simp only [bind_eq_ok, pure_eq_ok, Failure.ofQuery, mapError_eq_ok]
    constructor
    · rintro ⟨_, _, checked, -⟩
      exact ⟨checked, fun _ given => by cases given⟩
    · rintro ⟨checked, -⟩
      exact ⟨_, (), checked, none, rfl, rfl⟩
  | some entries =>
    simp only [bind_eq_ok, pure_eq_ok, map_eq_ok, Failure.ofQuery, Failure.ofFilter, mapError_eq_ok,
      Option.some.injEq, forall_eq', ← Filter.exists_read_iff (proper entries listed)]
    constructor
    · rintro ⟨_, _, checked, _, ⟨filter, read, -⟩, -⟩
      exact ⟨checked, filter, read⟩
    · rintro ⟨checked, filter, read⟩
      exact ⟨_, (), checked, _, ⟨filter, read, rfl⟩, rfl⟩

/-- A statement can be written for a query exactly if the query is answerable. -/
theorem exists_clause_iff
    (proper : ∀ entries, q.filter = some entries → (Value.map entries).HasDistinctKeys) :
    (∃ search clause, ofQuery q table keyColumn binding = .ok search ∧
      search.clause = .ok clause) ↔ q.Answerable := by
  have encodes (signal : Signal) (field : String) (vector : Value)
      (mem : (field, vector) ∈ signal.vectors) :
      (∃ text, Vector.encode vector = .ok text) ↔ ∀ items, vector.items? = some items →
        ∀ n, .int n ∈ items → (Binary64.ofInt? n).isSome = true := by
    have isVector : vector.isVector = true := (List.mem_filter.mp mem).2
    unfold Value.isVector at isVector
    cases listed : vector.items? with
    | none =>
      rw [listed] at isVector
      cases isVector
    | some items =>
      rw [listed, Bool.and_eq_true, List.all_eq_true] at isVector
      simp only [Vector.exists_encode_iff listed isVector.2, Option.some.injEq, forall_eq']
  constructor
  · rintro ⟨search, clause, accepted, written⟩
    obtain ⟨checked, isFilter⟩ :=
      (exists_ofQuery_iff table keyColumn binding proper).mp ⟨search, accepted⟩
    obtain ⟨single, each⟩ := Signal.check_eq_ok.mp checked
    refine ⟨single, fun signal mem => (each signal mem).1, fun signal mem => (each signal mem).2,
      isFilter, fun signal mem field vector items inside => ?_⟩
    -- The vector of the signal is the one that is sought, for no other is accepted beside it.
    have sought : q.vector? = some vector := by
      rw [SearchQuery.vector?, Signal.findVector?_of_check checked mem inside]
      rfl
    exact (encodes signal field vector inside).mp
      ((clause_succeeds accepted).mp ⟨clause, written⟩ vector sought) items
  · rintro ⟨single, oneVector, unmixed, isFilter, inRange⟩
    have checked := Signal.check_eq_ok.mpr
      ⟨single, fun signal mem => ⟨oneVector signal mem, unmixed signal mem⟩⟩
    obtain ⟨search, accepted⟩ :=
      (exists_ofQuery_iff table keyColumn binding proper).mpr ⟨checked, isFilter⟩
    refine ⟨search, ?_⟩
    obtain ⟨clause, written⟩ := (clause_succeeds accepted).mpr fun vector sought => by
      -- The vector that is sought comes from one of the signals, which hold what is answerable.
      obtain ⟨⟨field, _⟩, found, rfl⟩ := Option.map_eq_some_iff.mp sought
      rw [Signal.findVector?_eq_head?] at found
      obtain ⟨signal, mem, inside⟩ := List.mem_flatMap.mp (List.mem_of_head? found)
      exact (encodes signal field _ inside).mpr fun items => inRange signal mem field _ items inside
    exact ⟨clause, accepted, written⟩

end Search

end TableSearch
