import TableSearch.Proofs.Query.Likeness
import TableSearch.Proofs.Query.Vectors
import TableSearch.Proofs.Sql.Skeleton

/-!
# The names in the statement of a query

A query names fields, and its statement names columns.  `Binding.Means` says which column a field
means, without a look at how the column is found, and `SearchQuery.tokens` what the statement of a
query is read as when each field that the query names stands there as its column.
-/

namespace TableSearch

open Sql

/-! ## Columns of fields -/

/-- The column that a field means under a binding, or without one. -/
inductive Binding.Means (binding : Option Binding) (field : String) : String → Prop where
  | bound {entry : FieldBinding} (found : binding.bind (·.fields.lookup field) = some entry) :
      Means binding field entry.column
  | unbound (absent : binding.bind (·.fields.lookup field) = none) : Means binding field field

theorem Binding.means_iff {binding : Binding} {field column : String} :
    Means (some binding) field column ↔ column = binding.columnFor field := by
  unfold columnFor field?
  constructor
  · rintro (⟨found⟩ | ⟨absent⟩)
    · rw [Option.bind_some] at found
      rw [found]
    · rw [Option.bind_some] at absent
      rw [absent]
  · rintro rfl
    split
    next found => exact .bound found
    next absent => exact .unbound absent

theorem Binding.means_columnFor (binding : Binding) (field : String) :
    Means (some binding) field (binding.columnFor field) := means_iff.mpr rfl

theorem Binding.eq_columnFor {binding : Binding} {column : String → String}
    (means : ∀ field, Means (some binding) field (column field)) : column = binding.columnFor :=
  funext fun field => means_iff.mp (means field)

theorem Search.means_columnFor (search : Search) (field : String) :
    Binding.Means search.binding field (search.columnFor field) := by
  unfold columnFor
  cases search.binding with
  | none => exact .unbound rfl
  | some binding => exact binding.means_columnFor field

/-! ## Statements of queries -/

namespace SearchQuery

variable (q : SearchQuery) (table : TableName) (keyColumn : String) (binding : Option Binding)
  (column : String → String) (tree : Option Filter)

/-- What a query ranks by: its vector, which is sought in the column of the field that it is given
for, by the measure of that field. -/
def ranking : Option Ranking :=
  q.vectors.head?.map fun (field, vector) =>
    { column := column field
      metric := ((binding.bind (·.fields.lookup field)).bind (·.metric)).getD .cosine
      vector }

def scoreTokens : List Token :=
  match q.ranking binding column with
  | none => [.word "1"]
  | some ranking => ranking.scoreTokens

def projectedTokens : List (List Token) :=
  match binding with
  | none => []
  | some binding => (binding.projectedFields q.included).map fun field => [.name (column field)]

/-- The number of the first placeholder behind the selected columns. -/
def firstSlot : Int := if q.vectors.isEmpty then 1 else 2

def conditionTokens : List Token :=
  match tree with
  | none => []
  | some filter =>
    let condition := filter.tokens column q.firstSlot
    if condition.isEmpty then [] else .word "WHERE" :: condition

def orderTokens : List Token :=
  match q.orderBy, q.ranking binding column with
  | some order, _ =>
    table.columnTokens (column order.field) ++ [.word (if order.descending then "DESC" else "ASC")]
  | none, some ranking => ranking.distanceTokens
  | none, none => [.word "score", .word "DESC"]

def limitTokens : List Token :=
  let next := q.firstSlot + (tree.elim 0 fun filter => filter.operands.length : Nat)
  [.word "LIMIT", .slot next] ++
    if 0 < q.offset.getD 0 then [.word "OFFSET", .slot (next + 1)] else []

/-- The tokens of the statement of a query.  Wherever the query names a field, there stands the
column that the field means. -/
def tokens : List Token :=
  .word "SELECT" ::
      listed ([.name keyColumn, .word "as", .word "id"] ::
        (q.scoreTokens binding column ++ words ["as", "score"]) :: q.projectedTokens binding column) ++
    .word "FROM" :: table.tokens ++ q.conditionTokens column tree ++
    .word "ORDER" :: .word "BY" :: q.orderTokens table binding column ++ q.limitTokens tree

end SearchQuery

namespace Search

variable {q : SearchQuery} {table : TableName} {keyColumn : String} {binding : Option Binding}
  {search : Search}

theorem ranking_eq (accepted : ofQuery q table keyColumn binding = .ok search) :
    search.ranking = q.ranking binding search.columnFor := by
  rw [ranking_of_ofQuery accepted, SearchQuery.ranking, eq_of_ofQuery accepted]
  congr 1
  funext ⟨field, vector⟩
  cases binding with
  | none => rfl
  | some binding =>
    simp only [Ranking.ofField, columnFor, Binding.columnFor, Option.bind_some, Binding.field?]
    cases binding.fields.lookup field <;> rfl

/-- The statement of an accepted query is read as the tokens of the query, under the columns that
its fields mean. -/
theorem tokens_eq (accepted : ofQuery q table keyColumn binding = .ok search) :
    search.tokens = q.tokens table keyColumn binding search.columnFor search.filter := by
  have ranking := ranking_eq accepted
  have parts := eq_of_ofQuery accepted
  have first : search.firstSlot = q.firstSlot := by
    rw [firstSlot, ranking, SearchQuery.firstSlot, SearchQuery.ranking]
    cases q.vectors <;> rfl
  have selection : search.selectionTokens =
      listed ([.name keyColumn, .word "as", .word "id"] ::
        (q.scoreTokens binding search.columnFor ++ words ["as", "score"]) ::
          q.projectedTokens binding search.columnFor) := by
    have projected : (Selection.projected search.binding search.included).map
        (Output.tokens ∘ Output.stored) = q.projectedTokens binding search.columnFor := by
      rw [parts]
      cases binding with
      | none => rfl
      | some binding => exact List.map_map ..
    have key : search.keyColumn = keyColumn := by rw [parts]
    rw [selectionTokens, Selection.outputs, List.map_cons, List.map_cons, List.map_map, projected,
      key, ranking, SearchQuery.scoreTokens]
    cases q.ranking binding search.columnFor <;> rfl
  have condition : search.conditionTokens =
      q.conditionTokens search.columnFor search.filter := by
    unfold conditionTokens predicateTokens SearchQuery.conditionTokens
    rw [first]
    cases search.filter <;> rfl
  have order : search.orderTokens = q.orderTokens table binding search.columnFor := by
    rw [orderTokens, ranking, parts]
    rfl
  have limit : search.limitTokens (search.firstSlot + search.predicateParams.length) =
      q.limitTokens search.filter := by
    rw [first, SearchQuery.limitTokens, limitTokens, predicateParams, parts]
    cases search.filter <;> rfl
  have source : search.table = table := by rw [parts]
  rw [tokens, selection, condition, order, limit, source]
  rfl

/-- The statement of an accepted query has the names of its table and of its key, and for each field
that the query names the column that this field means. -/
theorem clause_names {clause : Clause} (accepted : ofQuery q table keyColumn binding = .ok search)
    (written : search.clause = .ok clause) :
    ∃ (tree : Option Filter) (column : String → String), q.tree = .ok tree ∧
      (∀ field, Binding.Means binding field (column field)) ∧
      Fragment.Spells clause.fragment (q.tokens table keyColumn binding column tree) := by
  have same : search.binding = binding := by rw [eq_of_ofQuery accepted]
  refine ⟨search.filter, search.columnFor, (SearchQuery.tree_of_ofQuery accepted).1,
    fun field => same ▸ search.means_columnFor field, ?_⟩
  rw [← tokens_eq accepted]
  exact (clause_reads written).1

end Search

end TableSearch
