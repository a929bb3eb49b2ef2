import TableSearch.Number.Shortest
import TableSearch.Text.Literal
import TableSearch.Value.Conversion

/-!
# Writing JSON

One writer serves three purposes, which differ in the spaces after separators
and in the treatment of characters beyond ASCII.  Tuples are written as lists.
Bytes, timestamps and decimals have no JSON form.
-/

namespace TableSearch.Json

/-- How a JSON text is spaced and escaped. -/
structure Style where
  itemSeparator : String
  keySeparator : String
  /-- Whether characters beyond the visible ASCII are written by their code units. -/
  asciiOnly : Bool
  /-- Whether integers with more digits than are read back are written all the same. -/
  longIntegers : Bool

def documentStyle : Style := ⟨", ", ": ", true, false⟩

def vectorStyle : Style := ⟨",", ":", true, false⟩

/-- Stored bindings: no spaces, characters beyond ASCII as they are. -/
def bindingStyle : Style := ⟨",", ":", false, true⟩

/-- The letter that stands for a character after a backslash. -/
def escapeLetter? : Char → Option Char
  | '"' => some '"'
  | '\\' => some '\\'
  | '\x08' => some 'b'
  | '\x0c' => some 'f'
  | '\n' => some 'n'
  | '\r' => some 'r'
  | '\t' => some 't'
  | _ => none

def escapeUnit (unit : Nat) : List Char := '\\' :: 'u' :: Literal.hex 4 unit

def units (c : Char) : List Nat :=
  if c.toNat < 0x10000 then [c.toNat]
  else [0xD800 + (c.toNat - 0x10000) / 0x400, 0xDC00 + (c.toNat - 0x10000) % 0x400]

def escape (asciiOnly : Bool) (c : Char) : List Char :=
  match escapeLetter? c with
  | some letter => ['\\', letter]
  | none =>
    if c.toNat < 0x20 ∨ (asciiOnly ∧ 0x7F ≤ c.toNat) then (units c).flatMap escapeUnit else [c]

def quote (asciiOnly : Bool) (s : String) : String :=
  String.ofList ('"' :: s.toList.flatMap (escape asciiOnly) ++ ['"'])

def writeInteger (style : Style) (n : Int) : Except ConversionError String :=
  if !style.longIntegers && digitLimit < (toString n.natAbs).length then .error .wrongForm
  else .ok (toString n)

mutual

def write (style : Style) : Value → Except ConversionError String
  | .null => .ok "null"
  | .bool b => .ok (if b then "true" else "false")
  | .int n => writeInteger style n
  | .real x => .ok (jsonNumber.text x)
  | .text s => .ok (quote style.asciiOnly s)
  | .list items => (writeItems style items).map (bracket ·)
  | .tuple items => (writeItems style items).map (bracket ·)
  | .map entries =>
    (writeEntries style entries).map fun parts =>
      "\x7b" ++ style.itemSeparator.intercalate parts ++ "\x7d"
  | .bytes _ => .error .wrongKind
  | .timestamp _ => .error .wrongKind
  | .decimal _ => .error .wrongKind
where
  /-- Items between the brackets of a list. -/
  bracket (parts : List String) : String := "[" ++ style.itemSeparator.intercalate parts ++ "]"

def writeItems (style : Style) : List Value → Except ConversionError (List String)
  | [] => .ok []
  | item :: rest => do
    let text ← write style item
    return text :: (← writeItems style rest)

def writeEntries (style : Style) : List (String × Value) → Except ConversionError (List String)
  | [] => .ok []
  | (key, value) :: rest => do
    let text ← write style value
    return (quote style.asciiOnly key ++ style.keySeparator ++ text) :: (← writeEntries style rest)

end

end TableSearch.Json
