import TableSearch.Sql.Fragment

/-!
# Similarity metrics

Each metric has an operator that measures the distance of two vectors, a class
of operators for the index of a vector column, and an expression that turns a
distance into a score of which more is better.
-/

namespace TableSearch

open Sql

/-- How the similarity of two vectors is measured. -/
inductive Metric where
  | cosine
  | euclidean
  | dotProduct
deriving DecidableEq, Repr

namespace Metric

def standard : Metric := cosine

def name : Metric → String
  | cosine => "cosine"
  | euclidean => "euclidean"
  | dotProduct => "dot_product"

def ofName? (name : String) : Option Metric :=
  [cosine, euclidean, dotProduct].find? (·.name == name)

@[simp] theorem ofName?_name (metric : Metric) : ofName? metric.name = some metric := by
  cases metric <;> decide

def operatorClass : Metric → String
  | cosine => "vector_cosine_ops"
  | euclidean => "vector_l2_ops"
  | dotProduct => "vector_ip_ops"

/-- The operator between two vectors whose result grows with their distance. -/
def distanceOperator : Metric → String
  | cosine => "<=>"
  | euclidean => "<->"
  | dotProduct => "<#>"

/-- The distance of a column from the query vector, which is always the first
parameter. -/
def distance (metric : Metric) (column : Fragment) : Fragment :=
  column ++ [.fixed (" " ++ metric.distanceOperator ++ " "), .slot 1, .fixed "::vector"]

/-- The score of a row.  The operator of the dot product yields its negative. -/
def score (metric : Metric) (column : Fragment) : Fragment :=
  let distance := metric.distance column
  match metric with
  | cosine => .fixed "1 - (" :: distance ++ [.fixed ")"]
  | euclidean => .fixed "1 / (1 + (" :: distance ++ [.fixed "))"]
  | dotProduct => .fixed "-(" :: distance ++ [.fixed ")"]

end Metric

end TableSearch
