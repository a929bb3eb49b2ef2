import TableSearch.Checked
import TableSearch.Text.Encoding
import TableSearch.Value.Basic

/-!
# Reading fields from values

A decoder reads a value as a field of a certain type.  Decoders are generous:
numbers and flags may come as text, integers as numbers without a fraction, and
texts as bytes.
-/

namespace TableSearch

abbrev Decoder (α : Type) := Value → Checked α

namespace Decoder

open Checked (fault valid)

/-! ## Texts of numbers and flags -/

/-- Drops the zeros in front of an integer, and the underscores among them.  One
character is kept when nothing else follows; a digit other than zero, or a minus
sign behind a zero, keeps everything. -/
def dropLeadingZeros? : List Char → Option (List Char)
  | '0' :: rest => go '0' rest
  | c :: rest => if '1' ≤ c ∧ c ≤ '9' then some (c :: rest) else none
  | [] => none
where
  /-- Reads on behind a zero or an underscore. -/
  go (last : Char) : List Char → Option (List Char)
    | [] => some [last]
    | c :: rest =>
      if c = '0' ∨ c = '_' then go c rest
      else if c = '-' ∨ ('1' ≤ c ∧ c ≤ '9') then some (c :: rest)
      else if c = '.' then some (last :: c :: rest)
      else none

/-- Drops a point that zeros follow, at least one, and nothing else. -/
def dropZeroFraction (cs : List Char) : List Char :=
  let whole := cs.takeWhile (· != '.')
  let fraction := (cs.drop whole.length).drop 1
  if !fraction.isEmpty && fraction.all (· == '0') then whole else cs

def hasDoubleUnderscore : List Char → Bool
  | '_' :: '_' :: _ => true
  | _ :: rest => hasDoubleUnderscore rest
  | [] => false

def dropUnderscores? (cs : List Char) : Option (List Char) :=
  if cs.head? = some '_' ∨ cs.getLast? = some '_' ∨ !cs.contains '_' ∨ hasDoubleUnderscore cs then
    none
  else some (cs.filter (· != '_'))

/-- Whether digits may stand for an integer: there is at least one, and a zero
stands alone. -/
def isWholePart : List Nat → Bool
  | [] => false
  | [_] => true
  | first :: _ => first != 0

/-- An integer without plus sign and leading zeros. -/
def plainInteger (cs : List Char) : Except Cause Int :=
  let (negative, unsigned) := match cs with
    | '-' :: rest => (true, rest)
    | rest => (false, rest)
  let (digits, rest) := takeDigits false false unsigned
  let n : Int := ofDigits digits
  if !isWholePart digits then .error .malformedInteger
  else if digitLimit < digits.length then .error .oversizedInteger
  else if rest.isEmpty then .ok (if negative then -n else n)
  else .error .malformedInteger

/-- What is left of an integer without sign when leading zeros, a zero fraction and
underscores are dropped. -/
def cleanedDigits? (cs : List Char) : Option (List Char) :=
  (dropLeadingZeros? cs).map fun rest =>
    let rest := dropZeroFraction rest
    (dropUnderscores? rest).getD rest

/-- What is left of an integer when white space and a plus sign are dropped too.  A
minus sign stays in front. -/
def cleanedInteger? (cs : List Char) : Option (List Char) :=
  match trim isWhiteSpace cs with
  | '+' :: rest => cleanedDigits? rest
  | '-' :: rest => (cleanedDigits? rest).map ('-' :: ·)
  | rest => cleanedDigits? rest

def integerText (cs : List Char) : Except Cause Int :=
  match plainInteger cs, cleanedInteger? cs with
  | .error .malformedInteger, some cleaned => plainInteger cleaned
  | result, _ => result

def numberText? (cs : List Char) : Option Binary64 :=
  match realNumber? false (trim isWhiteSpace cs) with
  | some x => some x
  | none => (dropUnderscores? cs).bind (realNumber? false)

def flagText? (s : String) : Option Bool :=
  let word := String.ofList (s.toList.map Char.toLower)
  if ["0", "off", "f", "false", "n", "no"].contains word then some false
  else if ["1", "on", "t", "true", "y", "yes"].contains word then some true
  else none

/-! ## Single values -/

def orFault {α : Type} (cause : Cause) : Option α → Checked α
  | some a => valid a
  | none => fault cause

def ofCause {α : Type} : Except Cause α → Checked α
  | .ok a => valid a
  | .error cause => fault cause

def textForm? : Value → Option (Option String)
  | .text s => some (some s)
  | .bytes bytes => some ((Encoding.utf8? false bytes).map String.ofList)
  | _ => none

def text : Decoder String := fun value =>
  match textForm? value with
  | some s? => orFault .undecodableText s?
  | none => fault .notText

/-- The integers of 64 bits lie from minus this number on and below it. -/
def wordBound : Int := 9223372036854775808

def integer : Decoder Int := fun value =>
  match value with
  | .bool b => valid b.toNat
  | .int n => valid n
  | .real x =>
    match x.signedUnits?, x.toInt? with
    | none, _ => fault .notFinite
    | some _, none => fault .fractional
    | some _, some n => if n.natAbs < wordBound then valid n else fault .oversizedInteger
  | .decimal digits =>
    match value.rational? with
    | some q => if q.den = 1 then valid q.num else fault .fractional
    | none => orFault .notInteger (integerText digits.toList).toOption
  | _ =>
    match textForm? value with
    | some (some s) => ofCause (integerText s.toList)
    | some none => fault .malformedInteger
    | none => fault .notInteger

def number : Decoder Binary64 := fun value =>
  match value with
  | .bool b => orFault .notNumber (Binary64.ofInt? b.toNat)
  | .int n => orFault .notNumber (Binary64.ofInt? n)
  | .real x => valid x
  | .decimal digits => orFault .notNumber (readReal? digits.toList)
  | _ =>
    match textForm? value with
    | some s? => orFault .malformedNumber (s?.bind (numberText? ·.toList))
    | none => fault .notNumber

/-- The truth value that an integer stands for. -/
def flagOfInt (n : Int) : Checked Bool :=
  if n = 0 then valid false
  else if n = 1 then valid true
  else if -wordBound ≤ n ∧ n < wordBound then fault .malformedFlag
  else fault .notFlag

def flag : Decoder Bool := fun value =>
  match value with
  | .bool b => valid b
  | .int n => flagOfInt n
  | .real x =>
    match x.toInt? with
    | some n => if n = -wordBound then fault .notFlag else flagOfInt n
    | none => fault .notFlag
  | .decimal _ =>
    match value.rational? with
    | some q => if q.den = 1 then flagOfInt q.num else fault .notFlag
    | none => fault .notFlag
  | _ =>
    match textForm? value with
    | some s? => orFault .malformedFlag (s?.bind flagText?)
    | none => fault .notFlag

def textAmong {α : Type} (cause : Cause) (meaning? : String → Option α) : Decoder α := fun value =>
  match value with
  | .text s => orFault cause (meaning? s)
  | _ => fault cause

def satisfying {α : Type} (decode : Decoder α) (test : α → Bool) (cause : Cause) : Decoder α :=
  fun value => (decode value).andThen fun a => if test a then valid a else fault cause

def natural : Decoder Nat := fun value =>
  Int.toNat <$> satisfying integer (0 ≤ ·) .notAtLeast value

def positive : Decoder Nat := fun value =>
  Int.toNat <$> satisfying integer (0 < ·) .notAbove value

def optional {α : Type} (decode : Decoder α) : Decoder (Option α) := fun value =>
  match value with
  | .null => valid none
  | value => some <$> decode value

/-! ## Containers -/

def listOf {α : Type} (decode : Decoder α) : Decoder (List α) := fun value =>
  match value.items? with
  | some items => Checked.each (fun i item => (decode item).within (.index i)) 0 items
  | none => fault .notList

def entries : Decoder Entries := fun value =>
  match value with
  | .map entries => valid entries
  | _ => fault .notMapping

def mapOf {α : Type} (decode : Decoder α) : Decoder (List (String × α)) := fun value =>
  (entries value).andThen
    (Checked.each (fun _ entry => (Prod.mk entry.1 <$> decode entry.2).within (.key entry.1)) 0)

def record {α : Type} (read : Entries → Checked α) : Decoder α := fun value =>
  match value with
  | .map entries => read entries
  | _ => fault .notRecord

/-- The entry of a field, under the first of its names that is present. -/
def findField? (names : List String) (entries : Entries) : Option (String × Value) :=
  names.findSome? fun name => (entries.lookup name).map (name, ·)

def required {α : Type} (names : List String) (decode : Decoder α) (entries : Entries) :
    Checked α :=
  match findField? names entries with
  | some (name, value) => (decode value).within (.key name)
  | none => (fault .missing).within (.key (names.headD ""))

def withDefault {α : Type} (names : List String) (assumed : α) (decode : Decoder α)
    (entries : Entries) : Checked α :=
  match findField? names entries with
  | some (name, value) => (decode value).within (.key name)
  | none => valid assumed

end Decoder

end TableSearch
