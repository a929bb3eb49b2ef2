import TableSearch.Value.Conversion

/-!
# Mappings given as pairs

A mapping may also be given as a sequence of pairs, and its keys may then be of
any kind that can serve as a key.
-/

namespace TableSearch.Value

def toPair (value : Value) : Except ConversionError (Value × Value) := do
  match ← value.toList with
  | [key, value] => if key.isKey then .ok (key, value) else .error .wrongKind
  | _ => .error .wrongForm

/-- Gives a key of any kind a value.  A key that equals one present keeps the
latter's place and form. -/
def insertPair (pairs : List (Value × Value)) (new : Value × Value) : List (Value × Value) :=
  match pairs with
  | [] => [new]
  | old :: rest => if old.1.equals new.1 then (old.1, new.2) :: rest else old :: insertPair rest new

/-- The keys and values of a mapping, or of whatever can be gone through pair by
pair. -/
def toPairs : Value → Except ConversionError (List (Value × Value))
  | map entries => .ok (entries.map fun (key, value) => (text key, value))
  | value => do
    let all ← (← value.toList).mapM toPair
    return all.foldl insertPair []

def textEntries (pairs : List (Value × Value)) : Entries :=
  pairs.filterMap fun (key, value) =>
    match key with
    | text key => some (key, value)
    | _ => none

end TableSearch.Value
