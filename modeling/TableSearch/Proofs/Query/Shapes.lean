import TableSearch.Proofs.Index.StoredForm
import TableSearch.Proofs.Query.Answering
import TableSearch.Query.Shape

/-!
# The shapes of a query

A query may be given as a signal, as a list of signals, or as a mapping of options.  What shape a
mapping has is decided by its keys, of which only some mark a mapping of options; `ofValue_marked`
and `ofValue_unmarked` are the two cases.  One signal can be given in several shapes, and
`Search.ofInput_shape` says that all of them are searched alike.
-/

namespace TableSearch

open Sql

/-! ## Reading options -/

namespace SearchQuery

def optionNames : List String :=
  ["query", "max", "filter", "orderBy", "order_by", "topK", "top_k", "offset", "minScore",
    "min_score", "include"]

/-- The names of options that do not mark a mapping of options. -/
def unmarkedNames : List String := ["offset", "minScore", "min_score", "include"]

def ofOptions (entries : Entries) : Except Failure SearchQuery := do
  let q ← Failure.ofChecked (read (.map entries))
  Failure.ofQuery q.requireSignals

/-- A query that is read from options has no list of signals unless there is one among them. -/
theorem query_of_read {entries : Entries} {q : SearchQuery}
    (accepted : read (.map entries) = .valid q) (absent : "query" ∉ entries.map (·.1)) :
    q.query = none := by
  simp only [read, Decoder.record, Checked.seq_eq_valid, Checked.map_eq_valid] at accepted
  obtain ⟨_, ⟨_, ⟨_, ⟨_, ⟨_, ⟨_, ⟨_, ⟨own, read, rfl⟩, _, -, rfl⟩, _, -, rfl⟩, _, -, rfl⟩,
    _, -, rfl⟩, _, -, rfl⟩, _, -, rfl⟩, _, -, rfl⟩ := accepted
  rw [Decoder.withDefault_of_absent (lookup_eq_none_iff.mpr absent)] at read
  cases read
  rfl

theorem requireSignals_eq_ok {q q' : SearchQuery} :
    q.requireSignals = .ok q' ↔ (q.query ≠ some [] ∧ q.max ≠ some []) ∧ q' = q := by
  have isEmpty (signals : Option (List Signal)) :
      signals.any List.isEmpty = true ↔ signals = some [] := by
    rcases signals with _ | _ | _ <;> simp
  rw [requireSignals]
  split
  next empty =>
    simp only [Bool.or_eq_true, isEmpty] at empty
    constructor
    · rintro ⟨⟩
    · rintro ⟨⟨noQuery, noMax⟩, -⟩
      exact empty.elim (absurd · noQuery) (absurd · noMax)
  next nonempty =>
    simp only [Bool.or_eq_true, isEmpty, not_or] at nonempty
    simp only [Except.ok.injEq, nonempty, ne_eq, not_false_iff, true_and, eq_comm]

theorem ofOptions_eq_ok {entries : Entries} {q : SearchQuery} :
    ofOptions entries = .ok q ↔
      read (.map entries) = .valid q ∧ q.query ≠ some [] ∧ q.max ≠ some [] := by
  simp only [ofOptions, bind_eq_ok, Failure.ofChecked_eq_ok, Failure.ofQuery, mapError_eq_ok,
    requireSignals_eq_ok]
  constructor
  · rintro ⟨_, accepted, nonempty, rfl⟩
    exact ⟨accepted, nonempty⟩
  · rintro ⟨accepted, nonempty⟩
    exact ⟨q, accepted, nonempty, rfl⟩

end SearchQuery

namespace QueryShape

/-- A mapping of options has the key of one that marks it. -/
theorem isMarked_iff {entries : Entries} :
    optionKeys.any (hasEntry · entries) = true ↔ ∃ entry ∈ entries, entry.1 ∈ optionKeys := by
  simp only [hasEntry, List.any_eq_true, beq_iff_eq]
  constructor
  · rintro ⟨key, mem, entry, inside, rfl⟩
    exact ⟨entry, inside, mem⟩
  · rintro ⟨entry, inside, mem⟩
    exact ⟨entry.1, mem, entry, inside, rfl⟩

end QueryShape

namespace SearchQuery

variable {entries : Entries}

theorem ofValue_marked (marked : ∃ entry ∈ entries, entry.1 ∈ QueryShape.optionKeys) :
    ofValue (.map entries) = ofOptions entries := by
  rw [ofValue, QueryShape.ofValue, if_pos (QueryShape.isMarked_iff.mpr marked)]
  rfl

theorem ofValue_unmarked (unmarked : ∀ entry ∈ entries, entry.1 ∉ QueryShape.optionKeys) :
    ofValue (.map entries) = .ok { query := some [entries] } := by
  have notMarked : ¬ ∃ entry ∈ entries, entry.1 ∈ QueryShape.optionKeys :=
    fun ⟨entry, mem, marks⟩ => unmarked entry mem marks
  rw [ofValue, QueryShape.ofValue, if_neg (QueryShape.isMarked_iff.not.mpr notMarked)]

/-- A mapping with no other keys than the names of options is read as options exactly if one of
them is something else than the offset, the least score and the projected fields.  A mapping of
these alone is taken for a signal, and none of its options is in the query. -/
theorem ofValue_options (options : ∀ entry ∈ entries, entry.1 ∈ optionNames) :
    (ofValue (.map entries) = ofOptions entries ↔
        ∃ entry ∈ entries, entry.1 ∉ unmarkedNames) ∧
      ((∀ entry ∈ entries, entry.1 ∈ unmarkedNames) →
        ofValue (.map entries) = .ok { query := some [entries] }) := by
  have marks_iff : ∀ entry ∈ entries,
      (entry.1 ∈ QueryShape.optionKeys ↔ entry.1 ∉ unmarkedNames) := by
    have each : ∀ name ∈ optionNames,
        (name ∈ QueryShape.optionKeys ↔ name ∉ unmarkedNames) := by decide
    exact fun entry mem => each entry.1 (options entry mem)
  have asSignal (alone : ∀ entry ∈ entries, entry.1 ∈ unmarkedNames) :
      ofValue (.map entries) = .ok { query := some [entries] } :=
    ofValue_unmarked fun entry mem marks => (marks_iff entry mem).mp marks (alone entry mem)
  refine ⟨⟨fun same => ?_, ?_⟩, asSignal⟩
  · by_contra none
    have alone : ∀ entry ∈ entries, entry.1 ∈ unmarkedNames := by
      simpa only [not_exists, not_and, not_not] using none
    -- A query that is read from these options has no signals.
    obtain ⟨accepted, -⟩ := ofOptions_eq_ok.mp (same.symm.trans (asSignal alone))
    have absent : "query" ∉ entries.map (·.1) := by
      intro mem
      obtain ⟨entry, inside, named⟩ := List.mem_map.mp mem
      exact absurd (named ▸ alone entry inside) (by decide)
    cases query_of_read accepted absent
  · rintro ⟨entry, mem, other⟩
    exact ofValue_marked ⟨entry, mem, (marks_iff entry mem).mpr other⟩

/-- For example, an offset is read beside a count. -/
theorem ofValue_options_counted :
    let entries : Entries := [("offset", .int 5), ("topK", .text "3")]
    (∀ entry ∈ entries, entry.1 ∈ optionNames) ∧
      ofValue (.map entries) = .ok { topK := some 3, offset := some 5 } := by
  intro entries
  have options : ∀ entry ∈ entries, entry.1 ∈ optionNames := by simp [entries, optionNames]
  refine ⟨options, ((ofValue_options options).1.mpr ?_).trans rfl⟩
  exact ⟨("topK", .text "3"), by simp [entries], by simp [unmarkedNames]⟩

/-- Without it, the mapping is taken for a signal. -/
theorem offset_taken_for_signal :
    let entries : Entries := [("offset", .int 5), ("include", .list [.text "title"])]
    (∀ entry ∈ entries, entry.1 ∈ optionNames) ∧
      ofOptions entries = .ok { offset := some 5, included := some (.named ["title"]) } ∧
      ofValue (.map entries) = .ok { query := some [entries] } ∧
      ofValue (.map entries) ≠ ofOptions entries := by
  refine ⟨by simp [optionNames], rfl, rfl, fun same => ?_⟩
  cases Except.ok.inj same

end SearchQuery

/-! ## Shapes of one signal -/

namespace Signal

def shapes (signal : Signal) : List Value :=
  [.map signal, .list [.map signal], .tuple [.map signal], .map [("query", .list [.map signal])],
    .map [("max", .list [.map signal])]]

/-- The entries of a mapping are those of a signal. -/
theorem ofPairs_entries {entries : Entries} (distinct : (entries.map (·.1)).Nodup) :
    ofPairs (entries.map fun entry => (.text entry.1, entry.2)) = .valid entries := by
  have each (position : Nat) : Checked.each
      (fun _ (pair : Value × Value) =>
        (((·, pair.2) <$> Decoder.text pair.1).within keyMark).within (keyStep pair.1)) position
      (entries.map fun entry => (.text entry.1, entry.2)) = .valid entries := by
    clear distinct
    induction entries generalizing position with
    | nil => rfl
    | cons entry entries ih =>
      rw [List.map_cons, Checked.each, ih]
      rfl
  rw [ofPairs]
  exact (congrArg _ (each 0)).trans (congrArg Checked.valid (foldl_insertEntry distinct))

end Signal

namespace SearchQuery

theorem ofSignals_map {signal : Signal} (distinct : (signal.map (·.1)).Nodup) :
    ofSignals [.map signal] = .ok { query := some [signal] } := by
  have read := Signal.ofPairs_entries distinct
  have pairs : [Value.map signal].mapM Value.toPairs =
      .ok [signal.map fun entry => (.text entry.1, entry.2)] := rfl
  -- There is one signal, which is read at the first place.
  rw [ofSignals, pairs]
  change Failure.ofChecked (_ <$> (Checked.within _ (Checked.each _ 0 [_]))) = _
  rw [Checked.each, read]
  rfl

/-- The query of a signal in any shape: it has this signal and nothing else. -/
theorem ofValue_shape {signal : Signal} (distinct : (signal.map (·.1)).Nodup)
    (unmarked : ∀ entry ∈ signal, entry.1 ∉ QueryShape.optionKeys) {shape : Value}
    (mem : shape ∈ signal.shapes) :
    ofValue shape = .ok { query := some [signal] } ∨
      ofValue shape = .ok { max := some [signal] } := by
  simp only [Signal.shapes, List.mem_cons, List.not_mem_nil, or_false] at mem
  rcases mem with rfl | rfl | rfl | rfl | rfl
  · exact .inl (ofValue_unmarked unmarked)
  · exact .inl (ofSignals_map distinct)
  · exact .inl (ofSignals_map distinct)
  · exact .inl rfl
  · exact .inr rfl

end SearchQuery

/-! ## Queries as they are searched -/

namespace Checked

theorem length_each {α β : Type} {check : Nat → α → Checked β} {position : Nat} {items : List α}
    {results : List β} (made : each check position items = .valid results) :
    results.length = items.length := by
  induction items generalizing position results with
  | nil =>
    cases made
    rfl
  | cons item items ih =>
    rw [each, seq_eq_valid] at made
    obtain ⟨_, first, rest, made, rfl⟩ := made
    obtain ⟨_, -, rfl⟩ := map_eq_valid.mp first
    exact congrArg (· + 1) (ih made)

theorem within_eq_valid {α : Type} {step : Step} {checked : Checked α} {a : α} :
    checked.within step = .valid a ↔ checked = .valid a := by
  cases checked <;> simp [within]

end Checked

namespace SearchQuery

/-- A query that is normalized has no empty list of signals. -/
theorem nonempty_of_normalize {input : QueryInput} {q : SearchQuery}
    (accepted : normalize input = .ok q) : q.query ≠ some [] ∧ q.max ≠ some [] := by
  cases input with
  | query other =>
    simp only [normalize, Failure.ofQuery, mapError_eq_ok, requireSignals_eq_ok] at accepted
    obtain ⟨nonempty, rfl⟩ := accepted
    exact nonempty
  | value value =>
    rw [normalize, ofValue] at accepted
    split at accepted
    next entries =>
      cases accepted
      simp
    next => cases accepted
    next items nonempty _ =>
      simp only [ofSignals, bind_eq_ok, Failure.ofChecked_eq_ok, Checked.map_eq_valid,
        Checked.within_eq_valid, Failure.ofConversion, mapError_eq_ok, mapM_eq_ok] at accepted
      obtain ⟨pairs, paired, signals, made, rfl⟩ := accepted
      refine ⟨fun same => ?_, by simp⟩
      -- There are as many signals as items, of which there is one at least.
      have count : signals.length = items.length :=
        (Checked.length_each made).trans paired.length_eq.symm
      rw [Option.some.inj same] at count
      exact nonempty (List.length_eq_zero_iff.mp count.symm)
    next entries => exact (ofOptions_eq_ok.mp accepted).2
    next => cases accepted

end SearchQuery

namespace Search

variable (input : QueryInput) (table : TableName) (keyColumn : String) (binding : Option Binding)

/-- The search that is asked for. -/
def ofInput : Except Failure Search := do
  ofQuery (← SearchQuery.normalize input) table keyColumn binding

def statementOf : Except Failure Clause := do
  Failure.ofConversion (← ofInput input table keyColumn binding).clause

def ofSignal (signal : Signal) : Except QueryError Search := do
  Signal.check [signal]
  return { table, keyColumn, binding, signals := [signal], topK := standardCount }

/-- A signal is searched in the same way in all its shapes. -/
theorem ofInput_shape {signal : Signal} (distinct : (signal.map (·.1)).Nodup)
    (unmarked : ∀ entry ∈ signal, entry.1 ∉ QueryShape.optionKeys) {shape : Value}
    (mem : shape ∈ signal.shapes) :
    ofInput (.value shape) table keyColumn binding =
      Failure.ofQuery (ofSignal table keyColumn binding signal) := by
  rw [ofInput, SearchQuery.normalize, ofSignal]
  -- Either way there are the same signals, and no other options.
  rcases SearchQuery.ofValue_shape distinct unmarked mem with same | same
  all_goals
    rw [same]
    change ofQuery _ table keyColumn binding = _
    rw [ofQuery, SearchQuery.signals]
    dsimp only [Option.getD_some]
    cases Signal.check [signal] <;> rfl

/-- All shapes of a signal are refused for the same reason, or they all lead to the same search
and so to the same statement.  And whatever a query is made from, it has no empty list of signals
and is not changed any more. -/
theorem shapes_agree :
    (∀ (signal : Signal) (table : TableName) (keyColumn : String) (binding : Option Binding),
      (signal.map (·.1)).Nodup → (∀ entry ∈ signal, entry.1 ∉ QueryShape.optionKeys) →
      (∃ error, ∀ shape ∈ signal.shapes,
          ofInput (.value shape) table keyColumn binding = .error (.query error)) ∨
        ∃ search result, ∀ shape ∈ signal.shapes,
          ofInput (.value shape) table keyColumn binding = .ok search ∧
          statementOf (.value shape) table keyColumn binding = result) ∧
      ∀ input q, SearchQuery.normalize input = .ok q →
        q.query ≠ some [] ∧ q.max ≠ some [] ∧ SearchQuery.normalize (.query q) = .ok q := by
  refine ⟨fun signal table keyColumn binding distinct unmarked => ?_, fun input q accepted => ?_⟩
  · have each (shape : Value) (mem : shape ∈ signal.shapes) :=
      ofInput_shape table keyColumn binding distinct unmarked mem
    -- What a shape is searched with depends on its signal only, and so does the statement.
    cases made : ofSignal table keyColumn binding signal with
    | error error =>
      rw [made] at each
      exact .inl ⟨error, each⟩
    | ok search =>
      rw [made] at each
      refine .inr ⟨search, Failure.ofConversion search.clause, fun shape mem => ?_⟩
      refine ⟨each shape mem, ?_⟩
      rw [statementOf, each shape mem]
      rfl
  · have nonempty := SearchQuery.nonempty_of_normalize accepted
    have again := SearchQuery.requireSignals_eq_ok.mpr ⟨nonempty, rfl⟩
    exact ⟨nonempty.1, nonempty.2, congrArg Failure.ofQuery again⟩

/-- So it is for a vector with a weight, and for a query that has a filter alone. -/
theorem shapes_agree_weighted :
    let signal : Signal := [("v", .list [.int 1, .int 0]), ("weight", .int 2)]
    (∃ search, ∀ shape ∈ signal.shapes, ofInput (.value shape) ⟨"s", "t"⟩ "id" none = .ok search) ∧
      ∃ q, SearchQuery.normalize (.value (.map [("filter", .map [])])) = .ok q ∧
        SearchQuery.normalize (.query q) = .ok q := by
  intro signal
  obtain ⟨agree, stays⟩ := shapes_agree
  have distinct : (signal.map (·.1)).Nodup := by decide
  have unmarked : ∀ entry ∈ signal, entry.1 ∉ QueryShape.optionKeys := by
    simp [signal, QueryShape.optionKeys]
  have itself : Value.map signal ∈ signal.shapes := List.mem_cons_self
  obtain ⟨error, refused⟩ | ⟨search, _, same⟩ := agree signal ⟨"s", "t"⟩ "id" none distinct unmarked
  · cases refused _ itself
  · have accepted : SearchQuery.normalize (.value (.map [("filter", .map [])])) =
        .ok { filter := some [] } := rfl
    exact ⟨⟨search, fun shape mem => (same shape mem).1⟩, _, accepted, (stays _ _ accepted).2.2⟩

end Search

end TableSearch
