import TableSearch.Number.Binary64

/-!
# The shortest decimal text of a number

A number is written with the fewest decimal digits that read back to it, and of
several such decimals with the nearest.  `Magnitude.shortest` selects the
digits, `Layout` records how they are laid out, and `Layout.text` joins both.
-/

namespace TableSearch

/-- The value `digits * 10 ^ exponent`. -/
structure Decimal where
  digits : Nat
  exponent : Int
deriving DecidableEq, Repr

namespace Magnitude

def readsBack (m : Magnitude) (d : Decimal) : Bool := ofDecimal? d.digits d.exponent == some m

/-- Compares `2 * m` with the sum of two neighbours on the grid of
`10 ^ exponent`, the lower of which has the given digits. -/
def compareWithMidpoint (m : Magnitude) (lower : Nat) (exponent : Int) : Ordering :=
  compare (2 * m.units * Nat.pow 10 (-exponent).toNat)
    ((2 * lower + 1) * Nat.pow 10 exponent.toNat * Binary64.unitsOfOne)

/-- The nearer one of two neighbours on the grid of `10 ^ exponent`, the lower of which
has the given digits, and at a tie the even one.  The order is that of a magnitude and
the point in the middle. -/
def nearer (order : Ordering) (lower : Nat) (exponent : Int) : Decimal :=
  match order with
  | .lt => ⟨lower, exponent⟩
  | .gt => ⟨lower + 1, exponent⟩
  | .eq => ⟨if lower % 2 = 0 then lower else lower + 1, exponent⟩

/-- The one of two neighbours that reads back to the magnitude, or the nearer one if
both do. -/
def neighbour? (m : Magnitude) (lower : Nat) (exponent : Int) : Option Decimal :=
  let below : Decimal := ⟨lower, exponent⟩
  let above : Decimal := ⟨lower + 1, exponent⟩
  match m.readsBack below, m.readsBack above with
  | false, false => none
  | true, false => some below
  | false, true => some above
  | true, true => some (nearer (m.compareWithMidpoint lower exponent) lower exponent)

/-- The neighbour of the magnitude on the grid of `10 ^ exponent` that reads back to it. -/
def onGrid? (m : Magnitude) (exponent : Int) : Option Decimal :=
  m.neighbour?
    (m.units * Nat.pow 10 (-exponent).toNat / (Nat.pow 10 exponent.toNat * Binary64.unitsOfOne))
    exponent

/-- The least power of ten above a positive magnitude.  The binary logarithm
gives it up to one step. -/
def decade (m : Magnitude) : Int :=
  let guess := binade m.units Binary64.unitsOfOne * 30103 / 100000
  let isAbove (k : Int) : Bool :=
    m.units * Nat.pow 10 (-k).toNat < Nat.pow 10 k.toNat * Binary64.unitsOfOne
  ([guess - 1, guess, guess + 1].find? isAbove).getD (guess + 2)

def exactDecimal (m : Magnitude) : Decimal := ⟨m.units * Nat.pow 5 1074, -1074⟩

/-- The shortest decimal that reads back to the magnitude: the first of the
grids of one to seventeen digits on which a neighbour does. -/
def shortest (m : Magnitude) : Decimal :=
  ((List.range 17).findSome? fun (n : Nat) => m.onGrid? (m.decade - (n + 1))).getD m.exactDecimal

end Magnitude

/-- How selected digits are laid out.  The exponent is that of the first digit. -/
structure Layout where
  /-- From this exponent on the number is written without an exponent. -/
  plainFrom : Int
  /-- From this exponent on the number is written with an exponent again. -/
  plainBelow : Int
  /-- The least number of digits of a written exponent. -/
  exponentWidth : Nat
  notANumber : String
  infinity : String

namespace Layout

def padLeft (width : Nat) (digits : List Char) : List Char :=
  List.replicate (width - digits.length) '0' ++ digits

def plain (digits : List Char) (exponent : Int) : List Char :=
  if exponent < 0 then
    ['0', '.'] ++ List.replicate (-exponent - 1).toNat '0' ++ digits
  else
    let whole := exponent.toNat + 1
    let fraction := digits.drop whole
    digits.take whole ++ List.replicate (whole - digits.length) '0' ++
      '.' :: (if fraction.isEmpty then ['0'] else fraction)

def withExponent (width : Nat) (digits : List Char) (exponent : Int) : List Char :=
  let mantissa := match digits with
    | [] => ['0']
    | [first] => [first]
    | first :: rest => first :: '.' :: rest
  mantissa ++ 'e' :: (if exponent < 0 then '-' else '+') ::
    padLeft width (Nat.toDigits 10 exponent.natAbs)

/-- A positive decimal, without the zeros at the end of its digits. -/
def decimal (layout : Layout) (d : Decimal) : List Char :=
  let written := Nat.toDigits 10 d.digits
  let exponent := d.exponent + written.length - 1
  let digits := (written.reverse.dropWhile (· == '0')).reverse
  if layout.plainFrom ≤ exponent ∧ exponent < layout.plainBelow then plain digits exponent
  else withExponent layout.exponentWidth digits exponent

def text (layout : Layout) : Binary64 → String
  | .notANumber => layout.notANumber
  | .infinite negative => if negative then "-" ++ layout.infinity else layout.infinity
  | .finite negative magnitude =>
    let digits :=
      if magnitude.significand = 0 then ['0', '.', '0'] else layout.decimal magnitude.shortest
    String.ofList (if negative then '-' :: digits else digits)

end Layout

/-- Numbers in messages and in texts made from values: positional from `0.0001`
to below `10 ^ 16`, otherwise with an exponent of at least two digits. -/
def spokenNumber : Layout where
  plainFrom := -4
  plainBelow := 16
  exponentWidth := 2
  notANumber := "nan"
  infinity := "inf"

/-- Numbers in JSON texts, with words for the three values that JSON lacks. -/
def jsonNumber : Layout :=
  { spokenNumber with notANumber := "NaN", infinity := "Infinity" }

end TableSearch
