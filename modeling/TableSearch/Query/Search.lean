import TableSearch.Failure
import TableSearch.Filter.Predicate
import TableSearch.Query.Selection

/-!
# Searches

A search is a checked query together with the table it runs on.  It is written
out as one statement, whose clauses number their parameters one after the other.
-/

namespace TableSearch

open Sql

/-- A checked query, ready to be written out. -/
structure Search where
  table : TableName
  keyColumn : String
  binding : Option Binding := none
  signals : List Signal := []
  filter : Option Filter := none
  order : Option OrderBy := none
  topK : Nat
  offset : Nat := 0
  included : Option Include := none

namespace Search

/-- The number of rows wanted when a query gives none. -/
def standardCount : Nat := 10

def ofQuery (q : SearchQuery) (table : TableName) (keyColumn : String)
    (binding : Option Binding) : Except Failure Search := do
  Failure.ofQuery (Signal.check q.signals)
  let filter ← match q.filter with
    | none => pure none
    | some entries => some <$> Failure.ofFilter (Filter.read (.map entries))
  return {
    table, keyColumn, binding, filter
    signals := q.signals
    order := q.orderBy
    topK := q.topK.getD standardCount
    offset := q.offset.getD 0
    included := q.included }

def ofBinding (q : SearchQuery) (binding : Binding) : Except Failure Search :=
  ofQuery q binding.tableName binding.keyColumn (some binding)

def ranking (search : Search) : Option Ranking :=
  Ranking.ofSignals? search.binding search.signals

def columnFor (search : Search) (field : String) : String :=
  match search.binding with
  | some binding => binding.columnFor field
  | none => field

def selection (search : Search) : Except ConversionError Clause :=
  Selection.clause search.keyColumn search.ranking search.binding search.included

def predicate (search : Search) (next : Int) : Except ConversionError Clause :=
  Filter.optionalPredicate search.columnFor next search.filter

def orderFragment (search : Search) : Fragment :=
  TableSearch.orderFragment search.order search.ranking search.binding search.table

def limit (search : Search) (next : Int) : Clause := limitClause search.topK search.offset next

structure Clauses where
  selection : Clause
  predicate : Clause
  order : Fragment
  limit : Clause

/-- Writes out the clauses, each numbered from where the one before it ends. -/
def clauses (search : Search) : Except ConversionError Clauses := do
  let selection ← search.selection
  let predicate ← search.predicate (1 + selection.params.length)
  let limit := search.limit (1 + selection.params.length + predicate.params.length)
  return { selection, predicate, order := search.orderFragment, limit }

def assemble (search : Search) (parts : Clauses) : Clause :=
  let condition :=
    if parts.predicate.fragment.isEmpty then []
    else [.fixed "WHERE " :: parts.predicate.fragment]
  ⟨Fragment.join "\n" <|
      [.fixed "SELECT " :: parts.selection.fragment, .fixed "FROM " :: search.table.fragment] ++
        condition ++ [.fixed "ORDER BY " :: parts.order, parts.limit.fragment],
    parts.selection.params ++ parts.predicate.params ++ parts.limit.params⟩

def clause (search : Search) : Except ConversionError Clause :=
  search.assemble <$> search.clauses

end Search

end TableSearch
