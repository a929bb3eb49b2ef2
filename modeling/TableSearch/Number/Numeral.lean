import TableSearch.Number.Binary64
import TableSearch.Text.CodePoints

/-!
# Numerals

Numbers written in text.  A free-standing numeral may have white space around
it, digits of any script and single underscores between its digits; the words
for infinity and for the not-a-number count as numerals of a real number.
-/

namespace TableSearch

/-- The longest run of ASCII digits in front of a text, and what follows it.
With `grouped`, one underscore may stand between two digits; `after` says that
a digit has just been read. -/
def takeDigits (grouped after : Bool) : List Char → List Nat × List Char
  | [] => ([], [])
  | c :: rest =>
    match asciiDigitValue? c with
    | some d =>
      let (digits, left) := takeDigits grouped true rest
      (d :: digits, left)
    | none =>
      if grouped && after && c == '_' && (rest.head?.bind asciiDigitValue?).isSome then
        takeDigits grouped false rest
      else ([], c :: rest)

/-- The number with the given decimal digits, the most significant first. -/
def ofDigits (digits : List Nat) : Nat := digits.foldl (fun n d => 10 * n + d) 0

def takeSign : List Char → Bool × List Char
  | '-' :: rest => (true, rest)
  | '+' :: rest => (false, rest)
  | rest => (false, rest)

/-- A number in decimal notation: the digits on both sides of the point, and
the power of ten that follows. -/
structure Numeral where
  negative : Bool
  whole : List Nat
  fraction : List Nat
  exponent : Int
deriving DecidableEq

namespace Numeral

/-- The exponent at the end of a numeral, which must be all that is left. -/
def readExponent? (grouped : Bool) : List Char → Option Int
  | [] => some 0
  | c :: rest =>
    if c = 'e' ∨ c = 'E' then
      let (negative, rest) := takeSign rest
      match takeDigits grouped false rest with
      | (d :: digits, []) =>
        let n : Int := ofDigits (d :: digits)
        some (if negative then -n else n)
      | _ => none
    else none

/-- Reads a whole text as a numeral; one side of the point may be empty. -/
def read? (grouped : Bool) (cs : List Char) : Option Numeral :=
  let (negative, rest) := takeSign cs
  let (whole, rest) := takeDigits grouped false rest
  let (fraction, rest) := match rest with
    | '.' :: rest => takeDigits grouped false rest
    | rest => ([], rest)
  if whole.isEmpty && fraction.isEmpty then none
  else (readExponent? grouped rest).map fun exponent => { negative, whole, fraction, exponent }

def toBinary64 (n : Numeral) : Binary64 :=
  .ofDecimal n.negative (ofDigits (n.whole ++ n.fraction)) (n.exponent - n.fraction.length)

def toRat (n : Numeral) : Rat :=
  let digits : Rat := ofDigits (n.whole ++ n.fraction)
  let exponent := n.exponent - n.fraction.length
  let size := digits * 10 ^ exponent.toNat / 10 ^ (-exponent).toNat
  if n.negative then -size else size

def truncate (n : Numeral) : Int :=
  let value := n.toRat
  Int.tdiv value.num value.den

end Numeral

def wordNumber? (cs : List Char) : Option Binary64 :=
  let (negative, word) := takeSign cs
  match String.ofList (word.map Char.toLower) with
  | "inf" => some (.infinite negative)
  | "infinity" => some (.infinite negative)
  | "nan" => some .notANumber
  | _ => none

def realNumber? (grouped : Bool) (cs : List Char) : Option Binary64 :=
  match wordNumber? cs with
  | some x => some x
  | none => (Numeral.read? grouped cs).map Numeral.toBinary64

def asciiDigit (c : Char) : Char :=
  match digitValue? c with
  | some d => Char.ofNat ('0'.toNat + d)
  | none => c

/-- A free-standing numeral without the white space around it, in ASCII digits. -/
def plainNumeral (cs : List Char) : List Char := (trim isWhiteSpace cs).map asciiDigit

def readReal? (cs : List Char) : Option Binary64 := realNumber? true (plainNumeral cs)

/-- Decimal digits beyond this number are refused where an integer is read. -/
def digitLimit : Nat := 4300

/-- Reads a free-standing numeral without point and exponent. -/
def readInteger? (cs : List Char) : Option Int :=
  let (negative, rest) := takeSign (plainNumeral cs)
  match takeDigits true false rest with
  | (d :: digits, []) =>
    let n : Int := ofDigits (d :: digits)
    if digitLimit ≤ digits.length then none else some (if negative then -n else n)
  | _ => none

end TableSearch
