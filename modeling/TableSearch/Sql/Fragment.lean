import TableSearch.Value.Basic

/-!
# SQL fragments

A fragment of SQL is a list of pieces: fixed text, quoted names and numbered
placeholders.  Names that a caller chose occur only as quoted names, and values
only as the parameters of a clause, to which its placeholders point.
-/

namespace TableSearch.Sql

def quoteName (name : String) : String :=
  String.ofList
    ('"' :: name.toList.flatMap (fun c => if c = '"' then ['"', '"'] else [c]) ++ ['"'])

inductive Piece where
  | fixed (s : String)
  | name (s : String)
  /-- The placeholder of the parameter with this number. -/
  | slot (number : Int)
deriving DecidableEq, Repr

namespace Piece

def text : Piece → String
  | fixed s => s
  | name s => quoteName s
  | slot number => "$" ++ toString number

end Piece

abbrev Fragment := List Piece

namespace Fragment

def text (fragment : Fragment) : String := String.join (fragment.map Piece.text)

def join (separator : String) : List Fragment → Fragment
  | [] => []
  | [only] => only
  | first :: rest => first ++ .fixed separator :: join separator rest

def inParens (fragment : Fragment) : Fragment := .fixed "(" :: fragment ++ [.fixed ")"]

def names (columns : List String) : Fragment := join ", " (columns.map fun c => [.name c])

end Fragment

structure TableName where
  schema : String
  table : String
deriving DecidableEq, Repr

namespace TableName

def fragment (name : TableName) : Fragment := [.name name.schema, .fixed ".", .name name.table]

/-- A column by its full name.  Without both parts of the table's name the
column stands alone. -/
def column (name : TableName) (column : String) : Fragment :=
  if name.schema.isEmpty || name.table.isEmpty then [.name column]
  else name.fragment ++ [.fixed ".", .name column]

end TableName

/-- A fragment with the values of its placeholders. -/
structure Clause where
  fragment : Fragment
  params : List Value := []

namespace Clause

def empty : Clause := ⟨[], []⟩

def text (clause : Clause) : String := clause.fragment.text

end Clause

end TableSearch.Sql
