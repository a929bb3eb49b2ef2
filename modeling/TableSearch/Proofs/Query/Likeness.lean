import TableSearch.Proofs.Query.Signals

/-!
# Queries that differ in values alone

Two queries that mention the same fields in the same places are written as the same text.  What
they search for, compare with and count up to goes into the parameters.
-/

namespace TableSearch

open Sql

/-- Clauses of the same text, whose placeholders stand for as many parameters. -/
structure Sql.Clause.SameText (clause other : Clause) : Prop where
  fragment : clause.fragment = other.fragment
  count : clause.params.length = other.params.length

/-! ## Filters -/

namespace Filter

mutual

/-- Filters that are equal but for the operands of comparisons.  The operand of a test for presence
is no value to compare with, but says which test is meant. -/
inductive SameShape : Filter → Filter → Prop where
  | conjunction {parts others : List Filter} (each : AllSameShape parts others) :
      SameShape (.conjunction parts) (.conjunction others)
  | allOf {parts others : List Filter} (each : AllSameShape parts others) :
      SameShape (.allOf parts) (.allOf others)
  | anyOf {parts others : List Filter} (each : AllSameShape parts others) :
      SameShape (.anyOf parts) (.anyOf others)
  | negation {part other : Filter} (inner : SameShape part other) :
      SameShape (.negation part) (.negation other)
  | isNull (field : String) : SameShape (.isNull field) (.isNull field)
  | compare (field : String) {op : FieldOp} (operand other : Value)
      (same : op = .present → operand = other) :
      SameShape (.compare field op operand) (.compare field op other)

/-- Filters that are so one by one. -/
inductive AllSameShape : List Filter → List Filter → Prop where
  | nil : AllSameShape [] []
  | cons {part other : Filter} {parts others : List Filter} (first : SameShape part other)
      (rest : AllSameShape parts others) : AllSameShape (part :: parts) (other :: others)

end

theorem comparison_sameText {column : String} {next : Int} {op : FieldOp} {operand other : Value}
    (same : op = .present → operand = other) {clause clause' : Clause}
    (written : comparison column next op operand = .ok clause)
    (written' : comparison column next op other = .ok clause') : clause.SameText clause' := by
  cases op with
  -- Whether a value is present is written into the text, so here alone the operands must be equal.
  | present =>
    obtain rfl := same rfl
    cases written.symm.trans written'
    exact ⟨rfl, rfl⟩
  | among | notAmong =>
    simp only [comparison, bind_eq_ok, pure_eq_ok] at written written'
    obtain ⟨_, -, rfl⟩ := written
    obtain ⟨_, -, rfl⟩ := written'
    exact ⟨rfl, rfl⟩
  | _ =>
    cases written
    cases written'
    exact ⟨rfl, rfl⟩

section

variable {clauses others : List Clause} (same : List.Forall₂ Clause.SameText clauses others)

include same

theorem nonempty_eq_of_sameText : nonempty clauses = nonempty others := by
  unfold nonempty
  congr 1
  induction same with
  | nil => rfl
  | cons first _ ih => rw [List.map_cons, List.map_cons, first.fragment, ih]

theorem length_allParams_eq : (allParams clauses).length = (allParams others).length := by
  induction same with
  | nil => rfl
  | cons first _ ih =>
    unfold allParams at ih ⊢
    rw [List.flatMap_cons, List.flatMap_cons, List.length_append, List.length_append, first.count,
      ih]

theorem group_sameText (connective : String) :
    (group connective clauses).SameText (group connective others) :=
  ⟨by simp only [group, nonempty_eq_of_sameText same], length_allParams_eq same⟩

end

mutual

/-- Filters of the same shape have predicates of the same text. -/
theorem predicate_sameText (column : String → String) (next : Int) {filter other : Filter}
    (same : SameShape filter other) {clause clause' : Clause}
    (written : predicate column next filter = .ok clause)
    (written' : predicate column next other = .ok clause') : clause.SameText clause' := by
  cases same with
  | conjunction each =>
    simp only [predicate, bind_eq_ok, pure_eq_ok] at written written'
    obtain ⟨clauses, parts, rfl⟩ := written
    obtain ⟨clauses', parts', rfl⟩ := written'
    have texts := predicates_sameText column next each parts parts'
    exact ⟨by simp only [nonempty_eq_of_sameText texts], length_allParams_eq texts⟩
  | allOf each | anyOf each =>
    simp only [predicate, bind_eq_ok, pure_eq_ok] at written written'
    obtain ⟨clauses, parts, rfl⟩ := written
    obtain ⟨clauses', parts', rfl⟩ := written'
    exact group_sameText (predicates_sameText column next each parts parts') _
  | negation inner =>
    simp only [predicate, bind_eq_ok] at written written'
    obtain ⟨part, compiled, written⟩ := written
    obtain ⟨part', compiled', written'⟩ := written'
    have text := predicate_sameText column next inner compiled compiled'
    -- A negation of nothing is left out, which is decided by the text of what is negated.
    rw [text.fragment] at written
    split at written
    next empty =>
      rw [if_pos empty] at written'
      cases written
      cases written'
      exact text
    next given =>
      rw [if_neg given] at written'
      cases written
      cases written'
      exact ⟨rfl, text.count⟩
  | isNull field =>
    cases written
    cases written'
    exact ⟨rfl, rfl⟩
  | compare field operand other same => exact comparison_sameText same written written'

theorem predicates_sameText (column : String → String) (next : Int) {parts others : List Filter}
    (same : AllSameShape parts others) {clauses clauses' : List Clause}
    (written : predicates column next parts = .ok clauses)
    (written' : predicates column next others = .ok clauses') :
    List.Forall₂ Clause.SameText clauses clauses' := by
  cases same with
  | nil =>
    cases written
    cases written'
    exact .nil
  | cons first rest =>
    simp only [predicates, bind_eq_ok, pure_eq_ok] at written written'
    obtain ⟨clause, compiled, clauses, parts, rfl⟩ := written
    obtain ⟨clause', compiled', clauses', parts', rfl⟩ := written'
    have text := predicate_sameText column next first compiled compiled'
    rw [← text.count] at parts'
    exact .cons text (predicates_sameText column _ rest parts parts')

end

end Filter

/-! ## Signals -/

/-- What a search makes of the value of a field in a signal. -/
inductive InputKind where
  | vector
  | text
  | null
  | other
deriving DecidableEq, Repr

def Value.inputKind (value : Value) : InputKind :=
  if value.isVector then .vector
  else
    match value with
    | .text _ => .text
    | .null => .null
    | _ => .other

theorem Value.inputKind_eq_vector {value : Value} :
    value.inputKind = .vector ↔ value.isVector = true := by
  unfold inputKind
  cases vector : value.isVector with
  | true => simp
  | false => cases value <;> simp

theorem Value.inputKind_eq_text {value : Value} : value.inputKind = .text ↔ value.isText = true := by
  unfold inputKind
  cases value <;> simp [isText, isVector, items?] <;> split <;> simp

namespace SearchQuery

def inputs (q : SearchQuery) : List (String × InputKind) :=
  (q.signals.flatMap Signal.fields).map fun (field, value) => (field, value.inputKind)

/-- The field that a query ranks by is the first one with a vector. -/
theorem findVector?_eq (q : SearchQuery) :
    (Signal.findVector? q.signals).map Prod.fst =
      (q.inputs.find? (·.2 == .vector)).map Prod.fst := by
  have vectors : q.signals.flatMap Signal.vectors =
      (q.signals.flatMap Signal.fields).filter (·.2.isVector) := by
    rw [List.filter_flatMap]
    rfl
  have kind : ((fun input : String × InputKind => input.2 == .vector) ∘
      fun entry : String × Value => (entry.1, entry.2.inputKind)) = fun entry => entry.2.isVector := by
    funext entry
    rw [Bool.eq_iff_iff]
    simp [Value.inputKind_eq_vector]
  rw [Signal.findVector?_eq_head?, vectors, inputs, List.find?_map, kind, List.head?_filter,
    Option.map_map]
  rfl

/-- Of an accepted query the inputs tell whether it ranks by texts only. -/
theorem areTexts_eq {q : SearchQuery} (accepted : Signal.check q.signals = .ok ()) :
    Signal.areTexts q.signals =
      (!q.inputs.any (·.2 == .vector) && q.inputs.any (·.2 == .text)) := by
  have kinds (kind : InputKind) (P : Value → Bool)
      (means : ∀ value : Value, value.inputKind = kind ↔ P value = true) :
      q.inputs.any (·.2 == kind) = (q.signals.flatMap Signal.fields).any (P ·.2) := by
    rw [inputs, List.any_map]
    congr 1
    funext entry
    rw [Bool.eq_iff_iff]
    simp [means]
  rw [kinds .vector Value.isVector fun _ => Value.inputKind_eq_vector,
    kinds .text Value.isText fun _ => Value.inputKind_eq_text]
  -- several signals are refused, and none have no texts
  match q.signals, accepted with
  | [], _ => rfl
  | [signal], _ =>
    have vectors : (signal.vectors.length == 0) = !signal.fields.any (·.2.isVector) := by
      rw [Bool.eq_iff_iff]
      simp [Signal.vectors]
    have texts : decide (signal.texts.length > 0) = signal.fields.any (·.2.isText) := by
      rw [Bool.eq_iff_iff, decide_eq_true_iff, gt_iff_lt, List.length_pos_iff_exists_mem]
      simp [Signal.texts]
    simp only [Signal.areTexts, Signal.countInputs_eq, vectors, texts, List.flatMap_singleton]

def tree (q : SearchQuery) : Except FilterError (Option Filter) :=
  match q.filter with
  | none => .ok none
  | some entries => some <$> Filter.read (.map entries)

/-- Queries that agree in all but values: in what they include, in the order, in the fields and
kinds of their signals, in the shape of the filter and in whether they skip rows. -/
structure Alike (q other : SearchQuery) : Prop where
  included : q.included = other.included
  orderBy : q.orderBy = other.orderBy
  inputs : q.inputs = other.inputs
  filter : ∀ tree tree', q.tree = .ok tree → other.tree = .ok tree' →
    Option.Rel Filter.SameShape tree tree'
  offset : q.offset.getD 0 = 0 ↔ other.offset.getD 0 = 0

def Written (q : SearchQuery) (table : TableName) (keyColumn : String) (binding : Option Binding)
    (clause : Clause) : Prop :=
  ∃ search, Search.ofQuery q table keyColumn binding = .ok search ∧ search.clause = .ok clause

end SearchQuery

/-! ## Statements -/

def Ranking.blind (ranking : Ranking) : Ranking := { ranking with vector := .null }

theorem Ranking.blind_ofField (binding : Option Binding) (field : String) (vector other : Value) :
    (ofField binding field vector).blind = (ofField binding field other).blind := by
  unfold ofField
  cases binding.bind (·.field? field) <;> rfl

theorem Output.fragment_score (ranking : Option Ranking) :
    (Output.score ranking).fragment = (Output.score (ranking.map Ranking.blind)).fragment := by
  cases ranking <;> rfl

theorem orderFragment_blind (order : Option OrderBy) (ranking : Option Ranking)
    (binding : Option Binding) (table : TableName) :
    orderFragment order ranking binding table =
      orderFragment order (ranking.map Ranking.blind) binding table := by
  cases order <;> cases ranking <;> rfl

namespace Search

variable {search other : Search} {clause clause' : Clause}

theorem selection_sameText (keyColumn : search.keyColumn = other.keyColumn)
    (binding : search.binding = other.binding) (included : search.included = other.included)
    (ranking : search.ranking.map Ranking.blind = other.ranking.map Ranking.blind)
    (written : search.selection = .ok clause) (written' : other.selection = .ok clause') :
    clause.SameText clause' := by
  simp only [selection, Selection.clause, bind_eq_ok, pure_eq_ok] at written written'
  obtain ⟨params, encoded, rfl⟩ := written
  obtain ⟨params', encoded', rfl⟩ := written'
  constructor
  · simp only [Selection.outputs, List.map_cons]
    rw [Output.fragment_score, ranking, ← Output.fragment_score, keyColumn, binding, included]
  · have ranked : search.ranking.isSome = other.ranking.isSome := by
      rw [← Option.isSome_map, ranking, Option.isSome_map]
    rw [params_length encoded, params_length encoded', ranked]

theorem predicate_sameText (columns : search.columnFor = other.columnFor)
    (filter : Option.Rel Filter.SameShape search.filter other.filter) {next : Int}
    (written : search.predicate next = .ok clause) (written' : other.predicate next = .ok clause') :
    clause.SameText clause' := by
  unfold predicate at written written'
  rw [columns] at written
  generalize search.filter = tree at filter written
  generalize other.filter = tree' at filter written'
  cases filter with
  | none =>
    cases written
    cases written'
    exact ⟨rfl, rfl⟩
  | some same => exact Filter.predicate_sameText _ next same written written'

theorem limit_sameText (skips : search.offset = 0 ↔ other.offset = 0) (next : Int) :
    (search.limit next).SameText (other.limit next) := by
  have positive : (0 : Int) < search.offset ↔ (0 : Int) < other.offset := by omega
  unfold limit limitClause
  by_cases skipping : (0 : Int) < search.offset
  · rw [if_pos skipping, if_pos (positive.mp skipping)]
    exact ⟨rfl, rfl⟩
  · rw [if_neg skipping, if_neg fun skipping' => skipping (positive.mpr skipping')]
    exact ⟨rfl, rfl⟩

/-- Searches that differ in values alone are written as the same text. -/
theorem clause_sameText (table : search.table = other.table)
    (keyColumn : search.keyColumn = other.keyColumn)
    (binding : search.binding = other.binding) (included : search.included = other.included)
    (order : search.order = other.order)
    (ranking : search.ranking.map Ranking.blind = other.ranking.map Ranking.blind)
    (filter : Option.Rel Filter.SameShape search.filter other.filter)
    (skips : search.offset = 0 ↔ other.offset = 0)
    (written : search.clause = .ok clause) (written' : other.clause = .ok clause') :
    clause.SameText clause' := by
  simp only [Search.clause, map_eq_ok, clauses, bind_eq_ok, pure_eq_ok] at written written'
  obtain ⟨_, ⟨selection, selected, predicate, restricted, rfl⟩, rfl⟩ := written
  obtain ⟨_, ⟨selection', selected', predicate', restricted', rfl⟩, rfl⟩ := written'
  have selections := selection_sameText keyColumn binding included ranking selected selected'
  have columns : search.columnFor = other.columnFor := by
    funext field
    rw [columnFor, binding, columnFor]
  -- The condition is numbered on from the selection, and the limit from the condition, so that
  -- equal texts need equal counts in front of them.
  rw [selections.count] at restricted
  have predicates := predicate_sameText columns filter restricted restricted'
  have limits := limit_sameText skips
    (1 + selection'.params.length + predicate'.params.length)
  have orders : search.orderFragment = other.orderFragment := by
    rw [orderFragment, orderFragment_blind, ranking, order, binding, table,
      ← orderFragment_blind, orderFragment]
  constructor
  · simp only [assemble, selections.fragment, predicates.fragment, selections.count,
      predicates.count, limits.fragment, orders, table]
  · simp only [assemble, List.length_append, selections.count, predicates.count, limits.count]

end Search

namespace SearchQuery

/-- An accepted query is searched with the tree of its filter. -/
theorem tree_of_ofQuery {q : SearchQuery} {table : TableName} {keyColumn : String}
    {binding : Option Binding} {search : Search}
    (accepted : Search.ofQuery q table keyColumn binding = .ok search) :
    q.tree = .ok search.filter ∧ Signal.check q.signals = .ok () := by
  unfold Search.ofQuery at accepted
  unfold tree
  simp only [bind_eq_ok, Failure.ofQuery, mapError_eq_ok] at accepted
  obtain ⟨⟨⟩, checked, accepted⟩ := accepted
  refine ⟨?_, checked⟩
  cases listed : q.filter with
  | none =>
    simp only [listed, bind_eq_ok, pure_eq_ok] at accepted
    obtain ⟨_, rfl, rfl⟩ := accepted
    rfl
  | some entries =>
    simp only [listed, bind_eq_ok, map_eq_ok, pure_eq_ok, Failure.ofFilter, mapError_eq_ok]
      at accepted
    obtain ⟨_, ⟨filter, read, rfl⟩, rfl⟩ := accepted
    exact congrArg (some <$> ·) read

variable {q other : SearchQuery} {table : TableName} {keyColumn : String}
  {binding : Option Binding}

/-- Queries that agree in all but values rank by the same distance. -/
theorem Alike.ranking (alike : q.Alike other) :
    (Ranking.ofSignals? binding q.signals).map Ranking.blind =
      (Ranking.ofSignals? binding other.signals).map Ranking.blind := by
  have fields : (Signal.findVector? q.signals).map Prod.fst =
      (Signal.findVector? other.signals).map Prod.fst := by
    rw [findVector?_eq, findVector?_eq, alike.inputs]
  have ofField (found : Option (String × Value)) :
      (found.map fun (field, vector) => Ranking.ofField binding field vector).map Ranking.blind =
        (found.map Prod.fst).map fun field => (Ranking.ofField binding field .null).blind := by
    cases found with
    | none => rfl
    | some entry => exact congrArg some (Ranking.blind_ofField binding entry.1 entry.2 .null)
  rw [Ranking.ofSignals?, Ranking.ofSignals?, ofField, ofField, fields]

theorem Alike.areTexts (alike : q.Alike other) (accepted : Signal.check q.signals = .ok ())
    (accepted' : Signal.check other.signals = .ok ()) :
    Signal.areTexts q.signals = Signal.areTexts other.signals := by
  rw [areTexts_eq accepted, areTexts_eq accepted', alike.inputs]

/-- Accepted queries that agree in all but values are written as the same text. -/
theorem Alike.sameText (alike : q.Alike other) {clause clause' : Clause}
    (written : q.Written table keyColumn binding clause)
    (written' : other.Written table keyColumn binding clause') : clause.SameText clause' := by
  obtain ⟨search, accepted, written⟩ := written
  obtain ⟨search', accepted', written'⟩ := written'
  have filter := alike.filter _ _ (tree_of_ofQuery accepted).1 (tree_of_ofQuery accepted').1
  have parts := Search.eq_of_ofQuery accepted
  have parts' := Search.eq_of_ofQuery accepted'
  refine Search.clause_sameText ?_ ?_ ?_ ?_ ?_ ?_ filter ?_ written written' <;> rw [parts, parts']
  · exact alike.included
  · exact alike.orderBy
  · exact alike.ranking
  · exact alike.offset

end SearchQuery

end TableSearch
