import TableSearch.Number.Numeral
import TableSearch.Text.Base64
import TableSearch.Text.Literal
import TableSearch.Value.Basic
import TableSearch.Yaml.Error
import TableSearch.Yaml.Tag
import TableSearch.Yaml.Token

/-!
# The values of scalars

The value of a scalar with a certain tag.  A tag may be stated for any scalar, so the
text need not have the form that the tag promises, and numbers are read in every
notation that they have elsewhere.
-/

namespace TableSearch.Yaml

def orNoSuchValue {α : Type} : Option α → Except YamlError α
  | some a => .ok a
  | none => .error .noSuchValue

def readSign (cs : List Char) : Except YamlError (Bool × List Char) :=
  if cs.isEmpty then .error .emptyNumber else .ok (takeSign cs)

def parts (cs : List Char) : List (List Char) := cs.splitOn ':'

/-! ## Integers -/

/-- A free-standing integer to some base up to sixteen, which may begin with the mark
of its base. -/
def readBased? (base : Nat) (mark : Char) (cs : List Char) : Option Int :=
  let (negative, rest) := takeSign (plainNumeral cs)
  let digits := match rest with
    | '0' :: c :: rest => if c.toLower = mark then rest else '0' :: c :: rest
    | rest => rest
  if digits.isEmpty then none
  else
    (digits.foldlM (fun (n : Nat) c =>
      match Literal.hexValue? c with
      | some d => if d < base then some (base * n + d) else none
      | none => none) 0).map fun n => if negative then -(n : Int) else n

/-- An integer without its sign: binary, octal, hexadecimal, decimal, or to the base
of sixty. -/
def readUnsignedInteger (cs : List Char) : Except YamlError Int :=
  match cs with
  | [] => .error .emptyNumber
  | ['0'] => .ok 0
  | '0' :: 'b' :: digits => orNoSuchValue (readBased? 2 'b' digits)
  | '0' :: 'x' :: digits => orNoSuchValue (readBased? 16 'x' digits)
  | '0' :: _ => orNoSuchValue (readBased? 8 'o' cs)
  | cs => orNoSuchValue <| ((parts cs).mapM readInteger?).map fun digits =>
      digits.foldl (fun n d => 60 * n + d) 0

/-- An integer.  Underscores are disregarded. -/
def readInteger (s : String) : Except YamlError Int := do
  let (negative, unsigned) ← readSign (s.toList.filter (· != '_'))
  let n ← readUnsignedInteger unsigned
  return if negative then -n else n

/-! ## Real numbers -/

/-- The sum of digits, the least significant one first, times powers of sixty from
`power` on. -/
def sumSixtieths (sum : Binary64) (power : Nat) : List Binary64 → Except YamlError Binary64
  | [] => .ok sum
  | digit :: rest =>
    match Binary64.ofInt? power with
    | some weight => sumSixtieths (sum.add (digit.mul weight)) (60 * power) rest
    | none => .error .outOfRange

def readUnsignedReal (cs : List Char) : Except YamlError Binary64 := do
  match String.ofList cs with
  | ".inf" => return .infinite false
  | ".nan" => return .notANumber
  | _ =>
    match ← orNoSuchValue ((parts cs).mapM readReal?) with
    | [x] => return x
    | digits => sumSixtieths .zero 1 digits.reverse

/-- A real number.  Underscores are disregarded. -/
def readReal (s : String) : Except YamlError Binary64 := do
  let lower := (s.toList.filter (· != '_')).map Char.toLower
  let (negative, unsigned) ← readSign lower
  let x ← readUnsignedReal unsigned
  return if negative then x.negate else x

/-! ## Other scalars -/

def readFlag (s : String) : Except YamlError Bool :=
  match String.ofList (s.toList.map Char.toLower) with
  | "yes" => .ok true
  | "true" => .ok true
  | "on" => .ok true
  | "no" => .ok false
  | "false" => .ok false
  | "off" => .ok false
  | _ => .error .unknownFlag

def readTimestamp (s : String) : Except YamlError Value :=
  match Timestamp.read? (Tag.dropLastBreak s).toList with
  | none => .error .noTimestamp
  | some t => if t.isReal then .ok (.timestamp s) else .error .noSuchValue

def loneSurrogate : List UInt8 := [0xED, 0xA0, 0x80]

/-- The value of a content as a text.  One that is no text becomes bytes that are no
text either. -/
def Content.value (content : Content) : Value :=
  if content.isText then .text content.text else .bytes loneSurrogate

def Tag.read (tag : Tag) (content : Content) : Except YamlError Value :=
  match tag with
  | .null => .ok .null
  | .flag => (readFlag content.text).map .bool
  | .integer => (readInteger content.text).map .int
  | .real => (readReal content.text).map .real
  | .binary =>
    let cs := content.text.toList
    match if cs.all (·.toNat < 0x80) then Base64.decode? cs else none with
    | some bytes => .ok (.bytes bytes)
    | none => .error .malformed
  | .timestamp => readTimestamp content.text
  | .text => .ok content.value
  | _ => .error .malformed

end TableSearch.Yaml
