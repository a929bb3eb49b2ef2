import TableSearch.Query.Search
import TableSearch.Proofs.Filter.Reading

/-!
# The statement of a search as it is read

The tokens that a database reads in the statement of a search, clause by clause, and
the parameters behind them.  `Search.clause_reads` is the main fact: names of fields,
columns and tables stand in the text as quoted names and never as anything else.
-/

namespace TableSearch

open Sql Fragment

/-! ## Clauses -/

namespace Ranking

def distanceTokens (ranking : Ranking) : List Token :=
  [.name ranking.column, .sign ranking.metric.distanceOperator, .slot 1, .mark ':', .mark ':',
   .word "vector"]

def scoreTokens (ranking : Ranking) : List Token :=
  match ranking.metric with
  | .cosine => [.word "1", .sign "-"] ++ inParens ranking.distanceTokens
  | .euclidean =>
    [.word "1", .sign "/"] ++
      inParens ([.word "1", .sign "+"] ++ inParens ranking.distanceTokens)
  | .dotProduct => .sign "-" :: inParens ranking.distanceTokens

theorem distance_spells (ranking : Ranking) : Spells ranking.distance ranking.distanceTokens := by
  obtain ⟨column, metric, vector⟩ := ranking
  simp only [distance, distanceTokens]
  cases metric <;> exact ⟨rfl, rfl⟩

theorem score_spells (ranking : Ranking) :
    Spells ranking.score ranking.scoreTokens ∧ ranking.score.endsFree true = true := by
  obtain ⟨column, metric, vector⟩ := ranking
  simp only [score, scoreTokens, distanceTokens]
  cases metric <;> exact ⟨⟨rfl, rfl⟩, rfl⟩

end Ranking

def Output.tokens : Output → List Token
  | key column => [.name column, .word "as", .word "id"]
  | score none => [.word "1", .word "as", .word "score"]
  | score (some ranking) => ranking.scoreTokens ++ [.word "as", .word "score"]
  | stored column => [.name column]

theorem Output.spells (output : Output) : Spells output.fragment output.tokens := by
  cases output with
  | key column => exact ⟨rfl, rfl⟩
  | stored column => exact ⟨rfl, rfl⟩
  | score ranking =>
    cases ranking with
    | none => exact ⟨rfl, rfl⟩
    | some ranking =>
      have named : Spells [.fixed (" as " ++ Binding.scoreName)] [.word "as", .word "score"] :=
        ⟨rfl, rfl⟩
      exact ranking.score_spells.1.append named (.inr rfl)

def Sql.TableName.tokens (table : TableName) : List Token :=
  [.name table.schema, .mark '.', .name table.table]

def Sql.TableName.columnTokens (table : TableName) (column : String) : List Token :=
  if table.schema.isEmpty || table.table.isEmpty then [.name column]
  else table.tokens ++ [.mark '.', .name column]

theorem Sql.TableName.spells (table : TableName) : Spells table.fragment table.tokens := ⟨rfl, rfl⟩

theorem Sql.TableName.column_spells (table : TableName) (column : String) :
    Spells (table.column column) (table.columnTokens column) := by
  unfold TableName.column TableName.columnTokens
  split
  next => exact ⟨rfl, rfl⟩
  next => exact ⟨rfl, rfl⟩

namespace Search

def selectionTokens (search : Search) : List Token :=
  [Token.mark ','].intercalate
    ((Selection.outputs search.keyColumn search.ranking search.binding search.included).map
      Output.tokens)

/-- The number of the first placeholder behind the selection. -/
def firstSlot (search : Search) : Int := if search.ranking.isSome then 2 else 1

def predicateTokens (search : Search) : List Token :=
  match search.filter with
  | none => []
  | some filter => filter.tokens search.columnFor search.firstSlot

def predicateParams (search : Search) : List Value :=
  match search.filter with
  | none => []
  | some filter => filter.operands

def orderTokens (search : Search) : List Token :=
  match search.order, search.ranking with
  | some order, _ =>
    search.table.columnTokens (search.columnFor order.field) ++
      [.word (if order.descending then "DESC" else "ASC")]
  | none, some ranking => ranking.distanceTokens
  | none, none => [.word "score", .word "DESC"]

def limitTokens (search : Search) (next : Int) : List Token :=
  [.word "LIMIT", .slot next] ++
    if 0 < search.offset then [.word "OFFSET", .slot (next + 1)] else []

def limitParams (search : Search) : List Value :=
  .int search.topK :: if 0 < search.offset then [.int search.offset] else []

/-- The tokens of the condition on the rows, which is left out when it is empty. -/
def conditionTokens (search : Search) : List Token :=
  if search.predicateTokens.isEmpty then [] else .word "WHERE" :: search.predicateTokens

def tokens (search : Search) : List Token :=
  .word "SELECT" :: search.selectionTokens ++ .word "FROM" :: search.table.tokens ++
    search.conditionTokens ++ .word "ORDER" :: .word "BY" :: search.orderTokens ++
    search.limitTokens (search.firstSlot + search.predicateParams.length)

theorem selection_reads {search : Search} {clause : Clause}
    (written : search.selection = .ok clause) :
    Spells clause.fragment search.selectionTokens ∧
      Selection.params search.ranking = .ok clause.params := by
  simp only [selection, Selection.clause, bind_eq_ok, pure_eq_ok] at written
  obtain ⟨params, encoded, rfl⟩ := written
  exact ⟨Spells.join_map separates_comma Output.spells _, encoded⟩

theorem params_length {ranking : Option Ranking} {params : List Value}
    (encoded : Selection.params ranking = .ok params) :
    params.length = if ranking.isSome then 1 else 0 := by
  cases ranking with
  | none =>
    obtain rfl : [] = params := by simpa [Selection.params] using encoded
    rfl
  | some ranking =>
    simp only [Selection.params, bind_eq_ok, pure_eq_ok] at encoded
    obtain ⟨text, -, rfl⟩ := encoded
    rfl

theorem predicate_reads {search : Search} {clause : Clause}
    (written : search.predicate search.firstSlot = .ok clause) :
    Filter.Reads clause search.predicateTokens search.predicateParams := by
  unfold predicate Filter.optionalPredicate at written
  unfold predicateTokens predicateParams
  cases filter : search.filter with
  | none =>
    simp only [filter, pure_eq_ok] at written
    subst written
    exact ⟨rfl, rfl, rfl, rfl⟩
  | some filter' =>
    simp only [filter] at written
    exact Filter.predicate_reads search.columnFor search.firstSlot filter' written

theorem order_spells (search : Search) : Spells search.orderFragment search.orderTokens := by
  unfold orderFragment orderTokens TableSearch.orderFragment
  cases search.order with
  | some order =>
    have direction : Spells [.fixed (if order.descending then " DESC" else " ASC")]
        [.word (if order.descending then "DESC" else "ASC")] := by
      cases order.descending <;> exact ⟨rfl, rfl⟩
    have opens : Fragment.opens [.fixed (if order.descending then " DESC" else " ASC")] = true := by
      cases order.descending <;> rfl
    exact (search.table.column_spells (search.columnFor order.field)).append direction (.inr opens)
  | none =>
    cases search.ranking with
    | some ranking => exact ranking.distance_spells
    | none => exact ⟨rfl, rfl⟩

theorem limit_reads (search : Search) (next : Int) :
    Spells (search.limit next).fragment (search.limitTokens next) ∧
      (search.limit next).params = search.limitParams := by
  unfold limit limitClause limitTokens limitParams
  by_cases skips : 0 < search.offset
  · have skips' : (0 : Int) < search.offset := by omega
    simp only [skips, skips', if_true]
    exact ⟨⟨rfl, rfl⟩, rfl⟩
  · have stays : ¬ (0 : Int) < search.offset := by omega
    simp only [skips, stays, if_false]
    exact ⟨⟨rfl, rfl⟩, trivial⟩

/-- The line with the condition on the rows, if there is one. -/
theorem condition_reads {search : Search} {clause : Clause}
    (read : Filter.Reads clause search.predicateTokens search.predicateParams) :
    let lines : List Fragment :=
      if clause.fragment.isEmpty then [] else [.fixed "WHERE " :: clause.fragment]
    (∀ line ∈ lines, line.isParted true = true) ∧
      lines.flatMap Fragment.tokens = search.conditionTokens := by
  unfold conditionTokens
  rw [← read.isEmpty]
  cases clause.fragment.isEmpty with
  | true => exact ⟨by simp, rfl⟩
  | false =>
    have line : Spells (.fixed "WHERE " :: clause.fragment) (.word "WHERE" :: search.predicateTokens) :=
      read.spells.cons (by decide) (.inl (by decide))
    exact ⟨by simp [line.parted], by simp [line.tokens]⟩

/-- Clauses on lines of their own are read one after the other. -/
theorem assemble_spells {search : Search} {parts : Clauses}
    (selection : Spells parts.selection.fragment search.selectionTokens)
    (predicate : Filter.Reads parts.predicate search.predicateTokens search.predicateParams)
    (order : Spells parts.order search.orderTokens)
    (limit : Spells parts.limit.fragment
      (search.limitTokens (search.firstSlot + search.predicateParams.length))) :
    Spells (search.assemble parts).fragment search.tokens := by
  obtain ⟨conditionParted, conditionRead⟩ := condition_reads predicate
  have select : Spells (.fixed "SELECT " :: parts.selection.fragment)
      (.word "SELECT" :: search.selectionTokens) :=
    selection.cons (by decide) (.inl (by decide))
  have source : Spells (.fixed "FROM " :: search.table.fragment)
      (.word "FROM" :: search.table.tokens) :=
    search.table.spells.cons (by decide) (.inl (by decide))
  have ordered : Spells (.fixed "ORDER BY " :: parts.order)
      (.word "ORDER" :: .word "BY" :: search.orderTokens) :=
    order.cons (by decide) (.inl (by decide))
  -- Each line is spelled by itself, and a line break parts any two of them.
  have lines : Spells (search.assemble parts).fragment _ := Spells.lines fun line member => by
    simp only [List.mem_append, List.mem_cons, List.not_mem_nil, or_false] at member
    rcases member with ((rfl | rfl) | member) | rfl | rfl
    · exact select.parted
    · exact source.parted
    · exact conditionParted line member
    · exact ordered.parted
    · exact limit.parted
  refine ⟨lines.parted, lines.tokens.trans ?_⟩
  rw [List.flatMap_append, List.flatMap_append, conditionRead]
  simp only [List.flatMap_cons, List.flatMap_nil, List.append_nil, select.tokens, source.tokens,
    ordered.tokens, limit.tokens, tokens]
  simp

/-- The statement of a search is read as its tokens, and its parameters are those of the
selection, of the predicate and of the limit. -/
theorem clause_reads {search : Search} {clause : Clause} (written : search.clause = .ok clause) :
    Spells clause.fragment search.tokens ∧
      ∃ vector, Selection.params search.ranking = .ok vector ∧
        clause.params = vector ++ search.predicateParams ++ search.limitParams := by
  simp only [Search.clause, map_eq_ok, clauses, bind_eq_ok, pure_eq_ok] at written
  obtain ⟨parts, ⟨selection, selected, predicate, restricted, rfl⟩, rfl⟩ := written
  obtain ⟨selectionSpells, encoded⟩ := selection_reads selected
  -- The selection has one parameter if there is a vector, and behind it the predicate begins.
  have first : (1 : Int) + selection.params.length = search.firstSlot := by
    rw [params_length encoded]
    unfold firstSlot
    split <;> rfl
  rw [first] at restricted
  have predicateRead := predicate_reads restricted
  obtain ⟨limitSpells, limitParams⟩ :=
    search.limit_reads (search.firstSlot + search.predicateParams.length)
  rw [first, predicateRead.params]
  refine ⟨?_, selection.params, encoded, ?_⟩
  · exact assemble_spells selectionSpells predicateRead search.order_spells limitSpells
  · simp [assemble, predicateRead.params, limitParams]

theorem tokens_text {search : Search} {clause : Clause} (written : search.clause = .ok clause) :
    Sql.tokens clause.text = search.tokens := (clause_reads written).1.read

end Search

end TableSearch
