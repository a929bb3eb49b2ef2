import TableSearch.Text.CodePoints

/-!
# Quoted literals

The form in which messages quote a piece of text.  Single quotes surround it,
or double quotes when the text holds a single quote and no double quote.  The
backslash, the surrounding quote, line ends and tabs get a backslash, and a
character without a visible form is written by its code point.
-/

namespace TableSearch.Literal

/-- The lower-case hexadecimal digit for a number below sixteen. -/
def hexDigit (n : Nat) : Char :=
  if n < 10 then Char.ofNat ('0'.toNat + n) else Char.ofNat ('a'.toNat + (n - 10))

def hexValue? (c : Char) : Option Nat :=
  if '0' ≤ c ∧ c ≤ '9' then some (c.toNat - '0'.toNat)
  else if 'a' ≤ c ∧ c ≤ 'f' then some (c.toNat - 'a'.toNat + 10)
  else if 'A' ≤ c ∧ c ≤ 'F' then some (c.toNat - 'A'.toNat + 10)
  else none

/-- The last `width` hexadecimal digits of a number. -/
def hex : Nat → Nat → List Char
  | 0, _ => []
  | width + 1, n => hex width (n / 16) ++ [hexDigit (n % 16)]

/-- A code point in the shortest of the three numbered escapes that holds it. -/
def escapeCode (n : Nat) : List Char :=
  if n < 0x100 then '\\' :: 'x' :: hex 2 n
  else if n < 0x10000 then '\\' :: 'u' :: hex 4 n
  else '\\' :: 'U' :: hex 8 n

def escape (quote c : Char) : List Char :=
  if c = quote ∨ c = '\\' then ['\\', c]
  else if c = '\n' then ['\\', 'n']
  else if c = '\r' then ['\\', 'r']
  else if c = '\t' then ['\\', 't']
  else if isPrintable c then [c]
  else escapeCode c.toNat

def quoteFor (cs : List Char) : Char :=
  if cs.contains '\'' && !cs.contains '"' then '"' else '\''

def ofText (text : String) : String :=
  let quote := quoteFor text.toList
  String.ofList (quote :: text.toList.flatMap (escape quote) ++ [quote])

/-- One byte of a quoted sequence of bytes: only the visible ASCII characters
stand for themselves. -/
def escapeByte (quote : Char) (b : UInt8) : List Char :=
  let c := Char.ofNat b.toNat
  if b.toNat < 0x7F then
    if c = quote ∨ c = '\\' ∨ c = '\n' ∨ c = '\r' ∨ c = '\t' ∨ 0x20 ≤ b.toNat then escape quote c
    else '\\' :: 'x' :: hex 2 b.toNat
  else '\\' :: 'x' :: hex 2 b.toNat

/-- A sequence of bytes between quotes, marked by a leading `b`. -/
def ofBytes (bytes : List UInt8) : String :=
  let quote := quoteFor (bytes.map fun b => Char.ofNat b.toNat)
  String.ofList ('b' :: quote :: bytes.flatMap (escapeByte quote) ++ [quote])

def ofTexts (texts : List String) : String :=
  "[" ++ ", ".intercalate (texts.map ofText) ++ "]"

end TableSearch.Literal
