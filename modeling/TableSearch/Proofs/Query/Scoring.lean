import Mathlib.Algebra.Order.Field.Basic
import Mathlib.Algebra.Order.Field.Rat
import Mathlib.Tactic.Linarith
import TableSearch.Proofs.Query.Numbering
import TableSearch.Proofs.Sql.Arithmetic

/-!
# Rank and score

The order of a search by a vector and the score that it selects are written by themselves.
Here they are read back from the statement: both speak of one and the same distance, and the
nearer of two rows has the higher score.
-/

namespace TableSearch

open Sql

/-! ## The score of a ranking -/

/-- The distance by which a field ranks: that of the bound column with the bound metric, else that
of the column of the field's own name with the metric of the cosine. -/
def Sql.Distance.ofField (binding : Option Binding) (field : String) : Distance :=
  let bound := binding.bind (·.field? field)
  { column := (bound.map FieldBinding.column).getD field
    operator := ((bound.bind FieldBinding.metric).getD .cosine).distanceOperator
    number := 1 }

/-- The score that a metric makes of a distance. -/
def Metric.scoreOf (metric : Metric) (distance : Distance) : Arithmetic :=
  match metric with
  | .cosine => .difference (.number 1) (.distance distance)
  | .euclidean => .quotient (.number 1) (.sum (.number 1) (.distance distance))
  | .dotProduct => .negation (.distance distance)

namespace Ranking

def measure (ranking : Ranking) : Distance := ⟨ranking.column, ranking.metric.distanceOperator, 1⟩

theorem measure_ofField (binding : Option Binding) (field : String) (vector : Value) :
    (ofField binding field vector).measure = .ofField binding field := by
  unfold ofField Distance.ofField
  cases binding.bind (·.field? field) <;> rfl

theorem vector_ofField (binding : Option Binding) (field : String) (vector : Value) :
    (ofField binding field vector).vector = vector := by
  unfold ofField
  split <;> rfl

theorem arithmetic?_scoreTokens (ranking : Ranking) :
    arithmetic? ranking.scoreTokens = some (ranking.metric.scoreOf ranking.measure) := by
  obtain ⟨column, metric, vector⟩ := ranking
  cases metric <;> rfl

theorem distance?_measure (ranking : Ranking) :
    distance? ranking.measure.tokens = some ranking.measure := by
  obtain ⟨column, metric, vector⟩ := ranking
  cases metric <;> rfl

theorem inParens_infix_scoreTokens (ranking : Ranking) :
    inParens ranking.measure.tokens <:+: ranking.scoreTokens := by
  obtain ⟨column, metric, vector⟩ := ranking
  cases metric with
  | cosine => exact ⟨[.word "1", .sign "-"], [], rfl⟩
  | euclidean =>
    exact ⟨[.word "1", .sign "/", .mark '(', .word "1", .sign "+"], [.mark ')'], rfl⟩
  | dotProduct => exact ⟨[.sign "-"], [], rfl⟩

theorem comma_not_mem_scoreTokens (ranking : Ranking) : .mark ',' ∉ ranking.scoreTokens := by
  obtain ⟨column, metric, vector⟩ := ranking
  cases metric <;> simp [scoreTokens, distanceTokens, inParens]

end Ranking

theorem Output.comma_not_mem_tokens (output : Output) : .mark ',' ∉ output.tokens := by
  cases output with
  | key | stored => simp [tokens]
  | score ranking =>
    cases ranking with
    | none => simp [tokens]
    | some ranking => simp [tokens, ranking.comma_not_mem_scoreTokens]

namespace Metric

variable {metric : Metric} {distance : Distance} {row other : Distance → ℚ}

theorem distances_scoreOf : (metric.scoreOf distance).distances = [distance] := by
  cases metric <;> rfl

theorem value_scoreOf (operator : distance.operator = metric.distanceOperator)
    (admitted : distance.Admits (row distance)) :
    ∃ s, (metric.scoreOf distance).value row = some s := by
  cases metric with
  | cosine | dotProduct => exact ⟨_, rfl⟩
  | euclidean =>
    have nonneg : 0 ≤ row distance := admitted operator
    have positive : (1 : ℚ) + row distance ≠ 0 := by linarith
    exact ⟨1 / (1 + row distance), by simp [scoreOf, Arithmetic.value, positive]⟩

/-- Of two rows the nearer one has the higher score. -/
theorem scoreOf_lt (operator : distance.operator = metric.distanceOperator)
    (admitted : distance.Admits (row distance)) (nearer : row distance < other distance)
    {s t : ℚ} (own : (metric.scoreOf distance).value row = some s)
    (others : (metric.scoreOf distance).value other = some t) : t < s := by
  cases metric with
  | cosine =>
    obtain rfl : 1 - row distance = s := by simpa [scoreOf, Arithmetic.value] using own
    obtain rfl : 1 - other distance = t := by simpa [scoreOf, Arithmetic.value] using others
    linarith
  | dotProduct =>
    obtain rfl : -row distance = s := by simpa [scoreOf, Arithmetic.value] using own
    obtain rfl : -other distance = t := by simpa [scoreOf, Arithmetic.value] using others
    linarith
  | euclidean =>
    -- Both divisors are positive: the nearer distance is at least zero, and the other one is more.
    have nonneg : 0 ≤ row distance := admitted operator
    have positive : (0 : ℚ) < 1 + row distance := by linarith
    have positive' : (0 : ℚ) < 1 + other distance := by linarith
    obtain rfl : 1 / (1 + row distance) = s := by
      simpa [scoreOf, Arithmetic.value, positive.ne'] using own
    obtain rfl : 1 / (1 + other distance) = t := by
      simpa [scoreOf, Arithmetic.value, positive'.ne'] using others
    exact one_div_lt_one_div_of_lt positive (by linarith)

end Metric

/-! ## Ranked statements -/

namespace Sql

/-- The distance by which a statement orders its rows.  Without a direction the nearest row comes
first. -/
def orderDistance? (statement : List Token) : Option Distance :=
  match clauseAt "ORDER" statement with
  | .word "BY" :: key => distance? key
  | _ => none

def scoreTokens? (statement : List Token) : Option (List Token) :=
  selectedAs? Binding.scoreName (clauseAt "SELECT" statement)

/-- A statement orders rows by a distance and selects a score of it, so that the rows come with the
highest score first. -/
structure RanksByScore (statement : List Token) (distance : Distance) (score : Arithmetic) :
    Prop where
  order : orderDistance? statement = some distance
  /-- The score embeds the key of the order word by word, between parentheses. -/
  embedded : ∃ key front behind, clauseAt "ORDER" statement = .word "BY" :: key ∧
    scoreTokens? statement = some (front ++ .mark '(' :: key ++ .mark ')' :: behind)
  selected : (scoreTokens? statement).bind arithmetic? = some score
  /-- No other distance is in the score. -/
  alone : score.distances = [distance]
  /-- The score of a row is defined, and without a division by zero. -/
  defined : ∀ row, distance.Admits (row distance) → ∃ s, score.value row = some s
  decreasing : ∀ row other, distance.Admits (row distance) → row distance < other distance →
    ∀ s ∈ score.value row, ∀ t ∈ score.value other, t < s
  /-- Rows in this order have descending scores.  `measured` gives the distances of a row. -/
  ranked : ∀ {α : Type} (measured : α → Distance → ℚ) (rows : List α),
    (∀ row ∈ rows, distance.Admits (measured row distance)) →
    rows.Pairwise (fun row next => measured row distance ≤ measured next distance) →
    rows.Pairwise fun row next => ∃ s t, score.value (measured row) = some s ∧
      score.value (measured next) = some t ∧ t ≤ s

end Sql

/-- Rows that come nearest first have descending scores. -/
theorem Metric.pairwise_score {metric : Metric} {distance : Distance}
    (operator : distance.operator = metric.distanceOperator) {α : Type}
    (measured : α → Distance → ℚ) {rows : List α}
    (admitted : ∀ row ∈ rows, distance.Admits (measured row distance))
    (sorted : rows.Pairwise fun row next => measured row distance ≤ measured next distance) :
    rows.Pairwise fun row next => ∃ s t, (metric.scoreOf distance).value (measured row) = some s ∧
      (metric.scoreOf distance).value (measured next) = some t ∧ t ≤ s := by
  refine sorted.imp_of_mem fun {row next} mem nextMem ordered => ?_
  obtain ⟨s, own⟩ := metric.value_scoreOf operator (admitted row mem)
  obtain ⟨t, others⟩ := metric.value_scoreOf operator (admitted next nextMem)
  refine ⟨s, t, own, others, ?_⟩
  -- Rows at the same distance have the same score, whatever else is measured of them.
  rcases ordered.lt_or_eq with nearer | level
  · exact (metric.scoreOf_lt operator (admitted row mem) nearer own others).le
  · have same : (metric.scoreOf distance).value (measured row) =
        (metric.scoreOf distance).value (measured next) :=
      Arithmetic.value_congr (by simpa [distances_scoreOf] using level)
    exact (Option.some.inj (own.symm.trans (same.trans others))).ge

namespace Search

theorem splitOn_selectionTokens (search : Search) :
    search.selectionTokens.splitOn (.mark ',') =
      (Selection.outputs search.keyColumn search.ranking search.binding search.included).map
        Output.tokens := by
  refine List.splitOn_intercalate _ (fun item mem => ?_) (by simp [Selection.outputs])
  obtain ⟨output, -, rfl⟩ := List.mem_map.mp mem
  exact output.comma_not_mem_tokens

/-- The score is the only item of a selection that bears its name. -/
theorem selectedAs?_selection (search : Search) :
    selectedAs? Binding.scoreName search.selectionTokens =
      some ((search.ranking.map Ranking.scoreTokens).getD [.word "1"]) := by
  rw [selectedAs?, splitOn_selectionTokens, Selection.outputs]
  cases search.ranking <;> simp [namedAs?, Output.tokens, Binding.scoreName]

theorem selectedAs?_selectionTokens {search : Search} {ranking : Ranking}
    (ranked : search.ranking = some ranking) :
    selectedAs? Binding.scoreName search.selectionTokens = some ranking.scoreTokens := by
  rw [selectedAs?_selection, ranked]
  rfl

/-- An accepted query with a vector and without an order of its own is ranked by the distance that
its score is made of, under every binding.  The distance is that from the first parameter, which
is the vector. -/
theorem ranksByScore_of_ofQuery {q : SearchQuery} {table : TableName} {keyColumn : String}
    {binding : Option Binding} {search : Search} {clause : Clause} {field : String} {vector : Value}
    (accepted : ofQuery q table keyColumn binding = .ok search)
    (written : search.clause = .ok clause)
    (sought : Signal.findVector? q.signals = some (field, vector))
    (unordered : q.orderBy = none) :
    (∃ score, RanksByScore (Sql.tokens clause.text) (.ofField binding field) score) ∧
      ∃ text, Vector.encode vector = .ok text ∧ clause.params.head? = some (.text text) := by
  have parts := eq_of_ofQuery accepted
  obtain ⟨ranking, ranked, measures, hasVector⟩ : ∃ ranking, search.ranking = some ranking ∧
      ranking.measure = .ofField binding field ∧ ranking.vector = vector := by
    rw [parts, Search.ranking, Ranking.ofSignals?, sought]
    exact ⟨_, rfl, Ranking.measure_ofField binding field vector,
      Ranking.vector_ofField binding field vector⟩
  have noOrder : search.order = none := by rw [parts, unordered]
  obtain ⟨spells, params, encoded, sent⟩ := clause_reads written
  -- From here on the statement is its tokens, and a clause is found by its word.
  have read : Sql.tokens clause.text = search.tokens := spells.read
  have order : clauseAt "ORDER" (Sql.tokens clause.text) = .word "BY" :: ranking.measure.tokens := by
    rw [read, clauseAt_order, orderTokens, noOrder, ranked]
    rfl
  have score : scoreTokens? (Sql.tokens clause.text) = some ranking.scoreTokens := by
    rw [scoreTokens?, read, clauseAt_selection, selectedAs?_selectionTokens ranked]
  refine ⟨⟨ranking.metric.scoreOf ranking.measure, ?_⟩, ?_⟩
  · rw [← measures]
    obtain ⟨front, behind, embeds⟩ := ranking.inParens_infix_scoreTokens
    exact {
      order := by rw [orderDistance?, order]; exact ranking.distance?_measure
      embedded := ⟨_, front, behind, order, by rw [score, ← embeds]; simp [inParens]⟩
      selected := by rw [score]; exact ranking.arithmetic?_scoreTokens
      alone := Metric.distances_scoreOf
      defined := fun _ => Metric.value_scoreOf rfl
      decreasing := fun _ _ admitted nearer _ own _ others =>
        Metric.scoreOf_lt rfl admitted nearer own others
      ranked := fun measured _ => Metric.pairwise_score rfl measured }
  · simp only [ranked, Selection.params, bind_eq_ok, pure_eq_ok] at encoded
    obtain ⟨text, encodes, rfl⟩ := encoded
    exact ⟨text, hasVector ▸ encodes, by simp [sent]⟩

/-- So it is for a field that is bound to another column without a metric. -/
theorem ranksByScore_without_metric :
    let binding : Binding := { table := "t", fields := [("v", { column := "a\"b" })] }
    let q : SearchQuery := { query := some [[("v", .list [.int 1])]] }
    ∃ search clause score, ofQuery q binding.tableName "id" (some binding) = .ok search ∧
      search.clause = .ok clause ∧
      RanksByScore (Sql.tokens clause.text) ⟨"a\"b", "<=>", 1⟩ score := by
  intro binding q
  have accepted : ∃ search, ofQuery q binding.tableName "id" (some binding) = .ok search := ⟨_, rfl⟩
  obtain ⟨search, accepted⟩ := accepted
  have encodes : ∀ vector ∈ q.vector?, ∃ text, Vector.encode vector = .ok text := by
    intro vector member
    obtain rfl : Value.list [.int 1] = vector := Option.some.inj member
    exact ⟨_, rfl⟩
  obtain ⟨clause, written⟩ := (clause_succeeds accepted).mpr encodes
  obtain ⟨⟨score, ranks⟩, -⟩ := ranksByScore_of_ofQuery accepted written rfl rfl
  exact ⟨search, clause, score, accepted, written, ranks⟩

end Search

end TableSearch
