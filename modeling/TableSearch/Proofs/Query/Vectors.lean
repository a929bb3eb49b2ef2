import TableSearch.Proofs.Query.Answering
import TableSearch.Proofs.Query.Scoring

/-!
# The vector of a query

The signals of a query are checked before its statement is written, and then each clause that needs
the vector seeks it for itself.  Here they are shown to agree: an accepted query has no vector but
the one that is found, and this is the parameter that score and order refer to.
-/

namespace TableSearch

open Sql

/-! ## Vectors among signals -/

namespace Value

/-- A number in a vector.  Truth values and decimals are none. -/
def IsNumber (value : Value) : Prop := (∃ n, value = .int n) ∨ ∃ x, value = .real x

def IsVector (value : Value) : Prop :=
  ∃ items, (value = .list items ∨ value = .tuple items) ∧ items ≠ [] ∧ ∀ item ∈ items, item.IsNumber

theorem isVector_iff {value : Value} : value.isVector = true ↔ value.IsVector := by
  have number (item : Value) : item.isPlainNumber = true ↔ item.IsNumber := by
    cases item <;> simp [isPlainNumber, IsNumber]
  cases value with
  | list items | tuple items => simp [isVector, items?, IsVector, number]
  | null | bool | int | real | text | bytes | timestamp | decimal | map =>
    simp [isVector, items?, IsVector]

end Value

namespace SearchQuery

def vectors (q : SearchQuery) : Entries := q.signals.flatMap Signal.vectors

def texts (q : SearchQuery) : Entries := q.signals.flatMap Signal.texts

/-- The vectors of a query are those under any key but that of the weight. -/
theorem mem_vectors {q : SearchQuery} {field : String} {value : Value} :
    (field, value) ∈ q.vectors ↔
      (∃ signal ∈ q.signals, (field, value) ∈ signal) ∧ field ≠ Signal.weightKey ∧
        value.IsVector := by
  simp only [vectors, Signal.vectors, Signal.fields, List.mem_flatMap, List.mem_filter, bne_iff_ne,
    ← Value.isVector_iff]
  constructor
  · rintro ⟨signal, mem, ⟨inside, apart⟩, isVector⟩
    exact ⟨⟨signal, mem, inside⟩, apart, isVector⟩
  · rintro ⟨⟨signal, mem, inside⟩, apart, isVector⟩
    exact ⟨signal, mem, ⟨inside, apart⟩, isVector⟩

end SearchQuery

/-! ## Statements with and without a vector -/

namespace Sql

end Sql

namespace Search

variable {q : SearchQuery} {table : TableName} {keyColumn : String} {binding : Option Binding}
  {search : Search} {clause : Clause}

theorem ranking_of_ofQuery (accepted : ofQuery q table keyColumn binding = .ok search) :
    search.ranking =
      q.vectors.head?.map fun (field, vector) => Ranking.ofField binding field vector := by
  rw [eq_of_ofQuery accepted, ranking, Ranking.ofSignals?, Signal.findVector?_eq_head?]
  rfl

end Search

end TableSearch
