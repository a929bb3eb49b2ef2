import TableSearch.Json.Reader
import TableSearch.Json.Writer

/-!
# Vectors

A vector reaches the database as a text in brackets, which a cast turns into a
vector there, and comes back as such a text or as a list of numbers.
-/

namespace TableSearch

namespace Value

def isPlainNumber : Value → Bool
  | int _ => true
  | real _ => true
  | _ => false

/-- Whether a value is a sequence of numbers with at least one member. -/
def isVector (value : Value) : Bool :=
  match value.items? with
  | some items => !items.isEmpty && items.all isPlainNumber
  | none => false

end Value

namespace Vector

def components (items : List Value) : Except ConversionError (List Value) :=
  items.mapM fun item => (item.toReal).map Value.real

/-- The text of a vector.  Whatever can be gone through member by member is taken
for a vector. -/
def encode (value : Value) : Except ConversionError String := do
  let reals ← components (← value.toList)
  Json.write Json.vectorStyle (.list reals)

/-- A stored vector as a list of numbers.  A value that is neither a list nor the
text of one is left as it is. -/
def decode (raw : Value) : Except ConversionError Value :=
  match raw with
  | .text s =>
    if s.toList.head? = some '[' then do
      let value ← Json.decode raw
      return .list (← components (← value.toList))
    else .ok raw
  | .list items => .list <$> components items
  | .tuple items => .list <$> components items
  | other => .ok other

end Vector

end TableSearch
