import TableSearch.Session.Execution
import TableSearch.Value.Display
import TableSearch.Vector

/-!
# Search hits

A row that a search selected becomes a hit: the text of its key, its score, and
the document made from its other columns.
-/

namespace TableSearch

structure Hit where
  id : String
  index : String
  score : Binary64
  /-- The projected fields, unless there are none. -/
  document : Option Entries := none

namespace Hit

def documentColumns (row : Row) : Row :=
  row.filter fun entry => entry.1 != Binding.idName && entry.1 != Binding.scoreName

def keyText (row : Row) : Except ConversionError String := do
  return (← row.column Binding.idName).display

def decodeField (field : FieldBinding) (stored : Value) : Except ConversionError Value :=
  if field.isVector then Vector.decode stored
  else if field.isObject then Json.decode stored
  else .ok stored

/-- The entry of one projected field, if the row has its column.  The field of the
primary key is taken from the key of the row. -/
def projectField (binding : Binding) (row : Row) (name : String) :
    Except ConversionError (Option (String × Value)) := do
  if name = binding.keyField then return some (name, .text (← keyText row))
  match binding.field? name with
  | none => return none
  | some field =>
    match (documentColumns row).lookup field.column with
    | none => return none
    | some stored => return some (name, ← decodeField field stored)

def isBracketed (s : String) : Bool :=
  s.toList.head? == some '[' && s.toList.getLast? == some ']'

/-- A column of an index without a binding, where a text in brackets is read as a
vector. -/
def decodeColumn (entry : String × Value) : Except ConversionError (String × Value) :=
  match entry.2 with
  | .text s => if isBracketed s then (entry.1, ·) <$> Vector.decode entry.2 else .ok entry
  | _ => .ok entry

def documentEntries (row : Row) (binding : Option Binding) (included : Option Include) :
    Except ConversionError Entries :=
  match binding with
  | some binding => do
    let found ← (binding.projectedFields included).mapM (projectField binding row)
    return (found.filterMap fun entry => entry).foldl (fun doc (name, value) => insertEntry name value doc) []
  | none => (documentColumns row).mapM decodeColumn

/-- The score in a row; a value that is no plain number counts as zero. -/
def scoreOf (row : Row) : Except ConversionError Binary64 :=
  match row.lookup Binding.scoreName with
  | some (.int n) => (Value.int n).toReal
  | some (.real x) => .ok x
  | _ => .ok .zero

def ofRow (row : Row) (index : String) (binding : Option Binding) (included : Option Include) :
    Except ConversionError Hit := do
  let document ← documentEntries row binding included
  let key ← keyText row
  let score ← scoreOf row
  return { id := key, index, score, document := if document.isEmpty then none else some document }

end Hit

end TableSearch
