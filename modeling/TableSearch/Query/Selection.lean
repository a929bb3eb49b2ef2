import TableSearch.Query.Basic
import TableSearch.Sql.Fragment

/-!
# Ranking, selection and order

A search ranks rows by the distance of a vector column from the query vector.
It selects the key, the score and the projected columns of each row, and orders
the rows by a field, by the distance, or by the score alone.

The query vector is the parameter of the selection, so it is always the first
parameter of the whole statement, and the order refers to it there.
-/

namespace TableSearch

open Sql

/-- A vector column, with the vector whose nearest neighbours are sought. -/
structure Ranking where
  column : String
  metric : Metric
  vector : Value

namespace Ranking

/-- What a field and a vector mean under a binding; without one, or for a field
that it does not bind, the field's name is that of the column. -/
def ofField (binding : Option Binding) (field : String) (vector : Value) : Ranking :=
  match binding.bind (·.field? field) with
  | some bound => ⟨bound.column, bound.metric.getD Metric.standard, vector⟩
  | none => ⟨field, Metric.standard, vector⟩

def ofSignals? (binding : Option Binding) (signals : List Signal) : Option Ranking :=
  (Signal.findVector? signals).map fun (field, vector) => ofField binding field vector

def distance (ranking : Ranking) : Fragment := ranking.metric.distance [.name ranking.column]

def score (ranking : Ranking) : Fragment := ranking.metric.score [.name ranking.column]

end Ranking

inductive Output where
  | key (column : String)
  /-- The score, which is constant without a ranking. -/
  | score (ranking : Option Ranking)
  | stored (column : String)

namespace Output

def name : Output → String
  | key _ => Binding.idName
  | score _ => Binding.scoreName
  | stored column => column

def fragment : Output → Fragment
  | key column => [.name column, .fixed (" as " ++ Binding.idName)]
  | score none => [.fixed ("1 as " ++ Binding.scoreName)]
  | score (some ranking) => ranking.score ++ [.fixed (" as " ++ Binding.scoreName)]
  | stored column => [.name column]

end Output

namespace Selection

/-- The columns of the fields that a search projects; without a binding there are
none. -/
def projected (binding : Option Binding) (included : Option Include) : List String :=
  match binding with
  | none => []
  | some binding => (binding.projectedFields included).map binding.columnFor

def outputs (keyColumn : String) (ranking : Option Ranking) (binding : Option Binding)
    (included : Option Include) : List Output :=
  .key keyColumn :: .score ranking :: (projected binding included).map .stored

def params : Option Ranking → Except ConversionError (List Value)
  | none => .ok []
  | some ranking => do return [.text (← Vector.encode ranking.vector)]

def clause (keyColumn : String) (ranking : Option Ranking) (binding : Option Binding)
    (included : Option Include) : Except ConversionError Clause := do
  let outputs := outputs keyColumn ranking binding included
  return ⟨Fragment.join ", " (outputs.map Output.fragment), ← params ranking⟩

end Selection

namespace OrderBy

/-- An explicit order by a column, given by its full name so that it is not taken
for the column of the score. -/
def fragment (order : OrderBy) (binding : Option Binding) (table : TableName) : Fragment :=
  let column := match binding with
    | some binding => binding.columnFor order.field
    | none => order.field
  table.column column ++ [.fixed (if order.descending then " DESC" else " ASC")]

end OrderBy

/-- The order of the rows: the explicit one, else that of the distance, else that of
the score. -/
def orderFragment (order : Option OrderBy) (ranking : Option Ranking) (binding : Option Binding)
    (table : TableName) : Fragment :=
  match order, ranking with
  | some order, _ => order.fragment binding table
  | none, some ranking => ranking.distance
  | none, none => [.fixed (Binding.scoreName ++ " DESC")]

/-- How many rows are wanted, and how many are skipped if any. -/
def limitClause (topK offset next : Int) : Clause :=
  let limit : Clause := ⟨[.fixed "LIMIT ", .slot next], [.int topK]⟩
  if 0 < offset then
    ⟨limit.fragment ++ [.fixed " OFFSET ", .slot (next + 1)], limit.params ++ [.int offset]⟩
  else limit

end TableSearch
