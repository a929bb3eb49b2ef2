import TableSearch.Proofs.Index.OwnColumns
import TableSearch.Proofs.Query.Scoring

/-!
# The column of the score

The items of a selection are told apart by the names under which they are yielded.  The computed
score is yielded as the score, and so is every projected field that is stored in a column of that
name.  `Search.yields_one_score_iff` says which bindings leave the name to the computed score.
-/

namespace TableSearch

open Sql

/-! ## The names of items -/

namespace Sql

/-- The items that a statement yields under a name. -/
def yieldedAs (name : String) (statement : List Token) : List (List Token) :=
  ((clauseAt "SELECT" statement).splitOn (.mark ',')).filter fun item => outputName? item = some name

end Sql

namespace Search

theorem yieldedAs_tokens (search : Search) (name : String) :
    yieldedAs name search.tokens =
      ((Selection.outputs search.keyColumn search.ranking search.binding search.included).filter
        (·.name = name)).map Output.tokens := by
  rw [yieldedAs, clauseAt_selection, splitOn_selectionTokens, List.filter_map]
  simp only [Function.comp_def, Output.outputName?_tokens, Option.some.injEq]

/-- The items that are yielded as the score: the computed one, and the columns of that name. -/
theorem yieldedAs_score (search : Search) :
    yieldedAs Binding.scoreName search.tokens =
      (Output.score search.ranking).tokens ::
        List.replicate ((Selection.projected search.binding search.included).count
          Binding.scoreName) [.name Binding.scoreName] := by
  have key : ¬(Output.key search.keyColumn).name = Binding.scoreName := by
    simp only [Output.name]
    decide
  -- A stored column is yielded under its own name, so that it is found by the column name alone.
  have stored (columns : List String) :
      ((columns.map Output.stored).filter (·.name = Binding.scoreName)).map Output.tokens =
        List.replicate (columns.count Binding.scoreName) [.name Binding.scoreName] := by
    rw [List.filter_map, List.map_map]
    have named : columns.filter ((decide <| Output.name · = Binding.scoreName) ∘ Output.stored) =
        List.replicate (columns.count Binding.scoreName) Binding.scoreName :=
      List.filter_eq _
    rw [named, List.map_replicate]
    rfl
  rw [yieldedAs_tokens, Selection.outputs, List.filter_cons_of_neg (by simpa using key),
    List.filter_cons_of_pos (by simp [Output.name]), List.map_cons, stored]

/-- The rows are ordered by the score unless there is another order. -/
theorem clauseAt_order_score_iff (search : Search) :
    clauseAt "ORDER" search.tokens = [.word "BY", .word Binding.scoreName, .word "DESC"] ↔
      search.order = none ∧ search.ranking = none := by
  rw [clauseAt_order, orderTokens]
  cases search.order with
  | some order =>
    have begins : ∃ name rest, search.table.columnTokens (search.columnFor order.field) =
        .name name :: rest := by
      rw [TableName.columnTokens]
      split <;> exact ⟨_, _, rfl⟩
    obtain ⟨name, rest, same⟩ := begins
    simp [same]
  | none =>
    cases search.ranking with
    | none => simp [Binding.scoreName]
    | some ranking => simp [Ranking.distanceTokens]

end Search

/-- A field with another name than the score is stored in the column of that name. -/
def Binding.ShadowsScore (binding : Binding) : Prop :=
  ∃ name field, binding.field? name = some field ∧ name ≠ scoreName ∧ field.column = scoreName

/-- Only a field that is stored in the column of that name is projected as the score. -/
theorem Binding.shadowsScore_iff {binding : Binding} :
    binding.ShadowsScore ↔
      ∃ included, scoreName ∈ Selection.projected (some binding) included := by
  constructor
  · rintro ⟨name, field, found, other, same⟩
    refine ⟨some (.named [name]), List.mem_map.mpr ⟨name, ?_, ?_⟩⟩
    · rw [projectedFields_named found other]
      exact List.mem_singleton_self name
    · rw [columnFor_of_field? found, same]
  · rintro ⟨included, mem⟩
    obtain ⟨name, projected, same⟩ := List.mem_map.mp mem
    obtain ⟨other, field, found⟩ := exists_field?_of_projected projected
    exact ⟨name, field, found, other, by rw [← columnFor_of_field? found, same]⟩

namespace Search

/-- The item with the score that is computed for a query. -/
def scoreItem (binding : Option Binding) (q : SearchQuery) : List Token :=
  (Output.score (Ranking.ofSignals? binding q.signals)).tokens

section Written

variable {table : TableName} {keyColumn : String} {binding : Option Binding} {q : SearchQuery}
  {search : Search} {clause : Clause}
  (accepted : ofQuery q table keyColumn binding = .ok search)
  (written : search.clause = .ok clause)
include accepted written

theorem yieldedAs_score_text :
    yieldedAs Binding.scoreName (Sql.tokens clause.text) =
      scoreItem binding q ::
        List.replicate ((Selection.projected binding q.included).count Binding.scoreName)
          [.name Binding.scoreName] := by
  rw [tokens_text written, yieldedAs_score, eq_of_ofQuery accepted]
  rfl

theorem clauseAt_order_text_iff :
    clauseAt "ORDER" (Sql.tokens clause.text) =
        [.word "BY", .word Binding.scoreName, .word "DESC"] ↔
      q.orderBy = none ∧ q.vector? = none := by
  rw [tokens_text written, clauseAt_order_score_iff, eq_of_ofQuery accepted]
  simp [Search.ranking, Ranking.ofSignals?, SearchQuery.vector?]

end Written

/-- Every written search yields the computed score as the score, and once more each projected column
of that name.  A result row gives the computed one, and it is the order unless the query has an order
or a vector.  It is the only item of its name in all searches of a table just if no field but the one
that is never projected is stored in the column of that name. -/
theorem yields_one_score_iff (table : TableName) (keyColumn : String) (binding : Option Binding) :
    (∀ (q : SearchQuery) (search : Search) (clause : Clause),
      ofQuery q table keyColumn binding = .ok search → search.clause = .ok clause →
      yieldedAs Binding.scoreName (Sql.tokens clause.text) =
          scoreItem binding q ::
            List.replicate ((Selection.projected binding q.included).count Binding.scoreName)
              [.name Binding.scoreName] ∧
        (clauseAt "ORDER" (Sql.tokens clause.text) =
            [.word "BY", .word Binding.scoreName, .word "DESC"] ↔
          q.orderBy = none ∧ q.vector? = none) ∧
        ∀ stored score, ∃ row, search.row stored score = .ok row ∧
          resultRow (Sql.tokens clause.text) stored score = .ok row ∧
          row.lookup Binding.scoreName = some score) ∧
    ((∀ (q : SearchQuery) (search : Search) (clause : Clause),
      ofQuery q table keyColumn binding = .ok search → search.clause = .ok clause →
      yieldedAs Binding.scoreName (Sql.tokens clause.text) = [scoreItem binding q]) ↔
        ∀ bound ∈ binding, ¬bound.ShadowsScore) := by
  refine ⟨fun q search clause accepted written => ⟨yieldedAs_score_text accepted written,
    clauseAt_order_text_iff accepted written, fun stored score => ?_⟩, ?_, ?_⟩
  · obtain ⟨row, found, selected⟩ := exists_selected search stored score
    exact ⟨row, found, (resultRow_text written ..).trans found, selected.score⟩
  · rintro alone bound rfl shadows
    obtain ⟨included, mem⟩ := Binding.shadowsScore_iff.mp shadows
    -- A query for the fields that are projected so has nothing else that could be refused.
    let q : SearchQuery := { included }
    obtain ⟨search, accepted⟩ : ∃ search, ofQuery q table keyColumn (some bound) = .ok search :=
      ⟨_, rfl⟩
    obtain ⟨clause, written⟩ := (clause_succeeds accepted).mpr fun _ => nofun
    have items := alone q search clause accepted written
    rw [yieldedAs_score_text accepted written, List.cons.injEq, List.replicate_eq_nil_iff,
      List.count_eq_zero] at items
    exact items.2 mem
  · intro plain q search clause accepted written
    have absent : Binding.scoreName ∉ Selection.projected binding q.included := by
      cases binding with
      | none => exact List.not_mem_nil
      | some bound => exact fun mem => plain bound rfl (Binding.shadowsScore_iff.mpr ⟨_, mem⟩)
    rw [yieldedAs_score_text accepted written, List.count_eq_zero.mpr absent]
    rfl

/-- For example, a binding with a field that is named like the score and is not projected. -/
theorem yields_one_score_reserved :
    let binding : Binding :=
      { table := "t", fields := [("score", { column := "score" }), ("title", { column := "id" })] }
    ∃ search clause, ofQuery { filter := some [] } binding.tableName "id" (some binding) = .ok search ∧
      search.clause = .ok clause ∧
      yieldedAs Binding.scoreName (Sql.tokens clause.text) =
        [[.word "1", .word "as", .word "score"]] := by
  intro binding
  let q : SearchQuery := { filter := some [] }
  obtain ⟨search, accepted⟩ : ∃ search,
      ofQuery q binding.tableName "id" (some binding) = .ok search := ⟨_, rfl⟩
  obtain ⟨clause, written⟩ := (clause_succeeds accepted).mpr fun _ => nofun
  obtain ⟨-, alone⟩ := yields_one_score_iff binding.tableName "id" (some binding)
  refine ⟨search, clause, accepted, written, alone.mpr ?_ q search clause accepted written⟩
  rintro bound bounds ⟨name, field, found, other, same⟩
  obtain rfl := Option.some.inj bounds
  have mem : (name, field) ∈ binding.fields := mem_of_lookup found
  simp only [binding, List.mem_cons, List.not_mem_nil, or_false, Prod.mk.injEq] at mem
  rcases mem with ⟨rfl, -⟩ | ⟨-, rfl⟩
  · exact other rfl
  · exact absurd same (by decide)

/-- But a field that is stored in the column of that name is yielded as the score, too, and the rows
are ordered by the score. -/
theorem yields_two_scores :
    let binding : Binding :=
      { table := "docs", fields := [("rating", { column := "score", type := "float" })] }
    ∃ search clause, ofQuery { filter := some [] } binding.tableName "id" (some binding) = .ok search ∧
      search.clause = .ok clause ∧
      yieldedAs Binding.scoreName (Sql.tokens clause.text) =
        [[.word "1", .word "as", .word "score"], [.name "score"]] ∧
      clauseAt "ORDER" (Sql.tokens clause.text) = [.word "BY", .word "score", .word "DESC"] := by
  intro binding
  let q : SearchQuery := { filter := some [] }
  obtain ⟨search, accepted⟩ : ∃ search,
      ofQuery q binding.tableName "id" (some binding) = .ok search := ⟨_, rfl⟩
  obtain ⟨clause, written⟩ := (clause_succeeds accepted).mpr fun _ => nofun
  exact ⟨search, clause, accepted, written, yieldedAs_score_text accepted written,
    (clauseAt_order_text_iff accepted written).mpr ⟨rfl, rfl⟩⟩

end Search

end TableSearch
