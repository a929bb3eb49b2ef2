import TableSearch.Filter.Basic
import TableSearch.Sql.Fragment
import TableSearch.Value.Conversion
import TableSearch.Value.Display

/-!
# Filters as predicates

The predicate of a filter names columns, never fields, and leaves every operand
to a parameter.  Its placeholders are numbered one by one from a given start, in
the order of the parameters.  A filter without conditions has the empty
predicate, and such a part vanishes from the predicate around it.
-/

namespace TableSearch

open Sql

namespace Filter

def comparison (column : String) (next : Int) (op : FieldOp) (operand : Value) :
    Except ConversionError Clause :=
  let named (tail : Fragment) (params : List Value) : Clause := ⟨.name column :: tail, params⟩
  match op with
  | .among => do
    let items ← operand.toList
    return named [.fixed " = ANY(", .slot next, .fixed ")"] [.list items]
  | .notAmong => do
    let items ← operand.toList
    return named [.fixed " != ALL(", .slot next, .fixed ")"] [.list items]
  | .contains => return named [.fixed " ILIKE ", .slot next] [.text ("%" ++ operand.display ++ "%")]
  | .startsWith => return named [.fixed " ILIKE ", .slot next] [.text (operand.display ++ "%")]
  | .endsWith => return named [.fixed " ILIKE ", .slot next] [.text ("%" ++ operand.display)]
  | .present =>
    return named [.fixed (if operand.truthy then " IS NOT NULL" else " IS NULL")] []
  | .equal => plain "=" named
  | .notEqual => plain "!=" named
  | .greater => plain ">" named
  | .atLeast => plain ">=" named
  | .less => plain "<" named
  | .atMost => plain "<=" named
where
  /-- A comparison by a sign between column and placeholder. -/
  plain (sign : String) (named : Fragment → List Value → Clause) : Except ConversionError Clause :=
    return named [.fixed (" " ++ sign ++ " "), .slot next] [operand]

def nonempty (clauses : List Clause) : List Fragment :=
  (clauses.map (·.fragment)).filter (!·.isEmpty)

def allParams (clauses : List Clause) : List Value := clauses.flatMap (·.params)

def group (connective : String) (clauses : List Clause) : Clause :=
  let fragments := (nonempty clauses).map Fragment.inParens
  let fragment := if fragments.isEmpty then [] else (Fragment.join connective fragments).inParens
  ⟨fragment, allParams clauses⟩

mutual

/-- The predicate of a filter.  Fields are turned into columns by `column`, and
`next` is the number of the first placeholder. -/
def predicate (column : String → String) (next : Int) : Filter → Except ConversionError Clause
  | conjunction parts => do
    let clauses ← predicates column next parts
    return ⟨Fragment.join " AND " (nonempty clauses), allParams clauses⟩
  | allOf parts => return group " AND " (← predicates column next parts)
  | anyOf parts => return group " OR " (← predicates column next parts)
  | negation part => do
    let clause ← predicate column next part
    if clause.fragment.isEmpty then return clause
    return ⟨.fixed "NOT " :: clause.fragment.inParens, clause.params⟩
  | isNull field => return ⟨[.name (column field), .fixed " IS NULL"], []⟩
  | compare field op operand => comparison (column field) next op operand

def predicates (column : String → String) (next : Int) :
    List Filter → Except ConversionError (List Clause)
  | [] => return []
  | part :: rest => do
    let clause ← predicate column next part
    return clause :: (← predicates column (next + clause.params.length) rest)

end

def optionalPredicate (column : String → String) (next : Int) :
    Option Filter → Except ConversionError Clause
  | none => return .empty
  | some filter => filter.predicate column next

end Filter

end TableSearch
