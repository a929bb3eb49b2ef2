import TableSearch.Text.Encoding
import TableSearch.Value.Basic

/-!
# Values as numbers and as lists

Conversions that take a value for a real number, an integer or a list where it
has such a reading, and otherwise say why it has none.
-/

namespace TableSearch

/-- Why a value cannot be taken for something else. -/
inductive ConversionError where
  /-- A value of this kind has no such reading. -/
  | wrongKind
  /-- A text, or a sequence, that has not the form asked for. -/
  | wrongForm
  /-- A number beyond the range of the result. -/
  | outOfRange
  /-- A text that is no JSON. -/
  | notJson
  /-- Bytes that are no text. -/
  | notText
  /-- Entries are asked of something that is no mapping. -/
  | notAMapping
  /-- A row has no column of this name. -/
  | missingColumn (name : String)
deriving DecidableEq, Repr

namespace Value

/-- Bytes as the characters of a numeral.  A byte beyond ASCII belongs to none. -/
def numeralBytes (bytes : List UInt8) : List Char :=
  bytes.map fun b => if b.toNat < 0x80 then Char.ofNat b.toNat else '\uFFFD'

def orElse {α : Type} (error : ConversionError) : Option α → Except ConversionError α
  | some a => .ok a
  | none => .error error

def toReal : Value → Except ConversionError Binary64
  | bool b => orElse .outOfRange (Binary64.ofInt? b.toNat)
  | int n => orElse .outOfRange (Binary64.ofInt? n)
  | real x => .ok x
  | decimal digits => orElse .wrongForm (readReal? digits.toList)
  | text s => orElse .wrongForm (readReal? s.toList)
  | bytes bs => orElse .wrongForm (readReal? (numeralBytes bs))
  | _ => .error .wrongKind

/-- A value as an integer: a number, whose fraction is dropped, or a numeral
without a fraction in text or bytes. -/
def toInteger : Value → Except ConversionError Int
  | bool b => .ok b.toNat
  | int n => .ok n
  | real .notANumber => .error .wrongForm
  | real x => orElse .outOfRange x.truncate?
  | decimal digits =>
    (orElse .wrongForm (Numeral.read? false digits.toList)).map Numeral.truncate
  | text s => orElse .wrongForm (readInteger? s.toList)
  | bytes bs => orElse .wrongForm (readInteger? (numeralBytes bs))
  | _ => .error .wrongKind

def toList (value : Value) : Except ConversionError (List Value) :=
  orElse .wrongKind value.elements?

def toEntries : Value → Except ConversionError Entries
  | map entries => .ok entries
  | _ => .error .notAMapping

/-- One or several things: a text or a mapping is one thing, and everything else
is gone through. -/
def toThings (value : Value) : Except ConversionError (List Value) :=
  match value with
  | text _ => .ok [value]
  | map _ => .ok [value]
  | _ => value.toList

end Value

end TableSearch
