/-!
# Double-precision numbers

The finite doubles as exact multiples of a power of two, beside the not-a-number
and the two infinities.  Every operation here is exact integer arithmetic with
at most one rounding, to the nearest double and at a tie to the even
significand, so that nothing depends on the machine's floating-point unit.
-/

namespace TableSearch

/-- A significand and an exponent that name a double in its only way: the
significand has 53 bits unless the exponent is the least one. -/
def Canonical (significand : Nat) (exponent : Int) : Prop :=
  significand < Nat.pow 2 53 ∧ -1074 ≤ exponent ∧ exponent ≤ 971 ∧
    (Nat.pow 2 52 ≤ significand ∨ exponent = -1074)

instance (significand : Nat) (exponent : Int) : Decidable (Canonical significand exponent) :=
  inferInstanceAs (Decidable (_ ∧ _ ∧ _ ∧ _))

/-- The absolute value of a finite double, `significand * 2 ^ exponent`. -/
structure Magnitude where
  significand : Nat
  exponent : Int
  canonical : Canonical significand exponent := by decide
deriving DecidableEq

namespace Magnitude

def zero : Magnitude where
  significand := 0
  exponent := -1074

instance : Inhabited Magnitude := ⟨zero⟩

def ofParts? (significand : Nat) (exponent : Int) : Option Magnitude :=
  if canonical : Canonical significand exponent then some { significand, exponent, canonical }
  else none

/-- The value in units of the least positive double, `2 ^ -1074`. -/
def units (m : Magnitude) : Nat := m.significand * Nat.pow 2 (m.exponent + 1074).toNat

/-- The quotient rounded to an integer; a half goes to the even neighbour. -/
def roundedQuotient (numerator denominator : Nat) : Nat :=
  let quotient := numerator / denominator
  let excess := 2 * (numerator % denominator)
  if excess < denominator ∨ (excess = denominator ∧ quotient % 2 = 0) then quotient
  else quotient + 1

/-- The integer part of the binary logarithm of a positive quotient. -/
def binade (numerator denominator : Nat) : Int :=
  let guess : Int := numerator.log2 - denominator.log2
  if denominator * Nat.pow 2 guess.toNat ≤ numerator * Nat.pow 2 (-guess).toNat then guess else guess - 1

/-- The double nearest to a quotient, or nothing when it would exceed every
finite double. -/
def ofQuotient? (numerator denominator : Nat) : Option Magnitude :=
  if numerator = 0 then some zero
  else
    let exponent := max (binade numerator denominator - 52) (-1074)
    let significand :=
      roundedQuotient (numerator * Nat.pow 2 (-exponent).toNat)
        (denominator * Nat.pow 2 exponent.toNat)
    if significand = Nat.pow 2 53 then ofParts? (Nat.pow 2 52) (exponent + 1)
    else ofParts? significand exponent

/-- The double nearest to `digits * 10 ^ exponent`.  The two guards answer for
the powers of ten that are far out of range, before such a power is formed. -/
def ofDecimal? (digits : Nat) (exponent : Int) : Option Magnitude :=
  if digits = 0 then some zero
  else if 400 < exponent then none
  else if exponent < -(digits.log2 + 400 : Int) then some zero
  else ofQuotient? (digits * Nat.pow 10 exponent.toNat) (Nat.pow 10 (-exponent).toNat)

end Magnitude

inductive Binary64 where
  | notANumber
  | infinite (negative : Bool)
  | finite (negative : Bool) (magnitude : Magnitude)
deriving DecidableEq

namespace Binary64

instance : Inhabited Binary64 := ⟨.finite false .zero⟩

def zero : Binary64 := .finite false .zero

def ofMagnitude? (negative : Bool) : Option Magnitude → Binary64
  | some magnitude => .finite negative magnitude
  | none => .infinite negative

def ofDecimal (negative : Bool) (digits : Nat) (exponent : Int) : Binary64 :=
  ofMagnitude? negative (Magnitude.ofDecimal? digits exponent)

/-- The double nearest to an integer, or nothing beyond the range of doubles. -/
def ofInt? (n : Int) : Option Binary64 :=
  (Magnitude.ofQuotient? n.natAbs 1).map (.finite (n < 0))

/-- A finite number in units of `2 ^ -1074`, with its sign. -/
def signedUnits? : Binary64 → Option Int
  | .finite negative magnitude =>
    some (if negative then -(magnitude.units : Int) else magnitude.units)
  | _ => none

def unitsOfOne : Nat := Nat.pow 2 1074

/-- The integer part, toward zero, of a finite number. -/
def truncate? (x : Binary64) : Option Int :=
  x.signedUnits?.map (Int.tdiv · unitsOfOne)

/-- The integer that a finite number is, if it has no fraction. -/
def toInt? (x : Binary64) : Option Int :=
  x.signedUnits?.bind fun units =>
    if units % unitsOfOne = 0 then some (Int.tdiv units unitsOfOne) else none

def isZero : Binary64 → Bool
  | .finite _ magnitude => magnitude.significand == 0
  | _ => false

/-- The order of the numbers.  A not-a-number stands in no order, and the two
zeros are equal. -/
def le : Binary64 → Binary64 → Bool
  | .notANumber, _ => false
  | _, .notANumber => false
  | .infinite negative, y => negative || y == .infinite false
  | .finite _ _, .infinite negative => !negative
  | x@(.finite _ _), y@(.finite _ _) =>
    match x.signedUnits?, y.signedUnits? with
    | some a, some b => a ≤ b
    | _, _ => false

/-- Equality of the numbers: the two zeros are equal, and a not-a-number
equals nothing. -/
def eq (x y : Binary64) : Bool := x.le y && y.le x

/-- A number equals an integer when it is finite and has just that value. -/
def eqInt (x : Binary64) (n : Int) : Bool := x.toInt? == some n

def isNegative : Binary64 → Bool
  | .notANumber => false
  | .infinite negative => negative
  | .finite negative _ => negative

def negate : Binary64 → Binary64
  | .notANumber => .notANumber
  | .infinite negative => .infinite !negative
  | .finite negative magnitude => .finite (!negative) magnitude

/-- The sum of two numbers, rounded once.  It is a negative zero only if both are. -/
def add (x y : Binary64) : Binary64 :=
  match x.signedUnits?, y.signedUnits? with
  | some a, some b =>
    let negative := if a + b = 0 then x.isNegative && y.isNegative else a + b < 0
    ofMagnitude? negative (Magnitude.ofQuotient? (a + b).natAbs unitsOfOne)
  | some _, none => y
  | none, some _ => x
  | none, none => if x = y then x else .notANumber

def mul (x y : Binary64) : Binary64 :=
  let negative := x.isNegative != y.isNegative
  match x.signedUnits?, y.signedUnits? with
  | some a, some b =>
    ofMagnitude? negative (Magnitude.ofQuotient? (a * b).natAbs (unitsOfOne * unitsOfOne))
  | _, _ =>
    if x = .notANumber ∨ y = .notANumber ∨ x.isZero ∨ y.isZero then .notANumber
    else .infinite negative

/-- The product with a natural number, rounded once. -/
def scale (x : Binary64) (factor : Nat) : Binary64 :=
  match x with
  | .finite negative magnitude =>
    ofMagnitude? negative (Magnitude.ofQuotient? (magnitude.units * factor) unitsOfOne)
  | other => other

end Binary64

end TableSearch
