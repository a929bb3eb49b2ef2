import TableSearch.Number.Numeral
import TableSearch.Text.Encoding
import TableSearch.Text.Literal
import TableSearch.Value.Basic

/-!
# The tokens of a JSON text

A JSON text is cut into brackets, separators, texts and atoms in one pass over
its characters.  The words `NaN` and `Infinity` count as numbers, a number
without point and exponent is an integer of any size, and a control character
inside a text is an error.
-/

namespace TableSearch.Json

/-- A piece of a JSON text that is not divided any further. -/
inductive Token where
  | openList
  | closeList
  | openMap
  | closeMap
  | comma
  | colon
  | text (s : String)
  | atom (value : Value)
  /-- An integer with more digits than are read. -/
  | oversized
  /-- Something that cannot be read as a token.  The text is not read beyond it. -/
  | malformed

/-- Where the pass stands: between tokens, or inside a word or a text.  What has
been read of it stands last character first; a text is kept as code points in
which an escaped character beyond U+FFFF still is a pair of surrogates. -/
inductive Mode where
  | between
  | word (letters : List Char)
  | quoted (points : List Nat)
  | escaped (points : List Nat)
  | coded (points : List Nat) (missing code : Nat)

/-- The only characters that may stand between tokens. -/
def isSpace (c : Char) : Bool := c == ' ' || c == '\t' || c == '\n' || c == '\r'

def isWordChar (c : Char) : Bool := c.isAlphanum || c == '+' || c == '-' || c == '.'

/-- The digits in front of a text behind a minus sign if there is one, as they may
stand before a point, and what follows them. -/
def readWhole? (cs : List Char) : Option (Bool × List Nat × List Char) :=
  let (negative, unsigned) := match cs with
    | '-' :: rest => (true, rest)
    | rest => (false, rest)
  let (digits, rest) := takeDigits false false unsigned
  let (whole, rest) := match digits with
    | 0 :: _ => ([0], unsigned.drop 1)
    | digits => (digits, rest)
  if whole.isEmpty then none else some (negative, whole, rest)

def readFraction? : List Char → Option (List Nat × List Char)
  | '.' :: rest =>
    let (digits, rest) := takeDigits false false rest
    if digits.isEmpty then none else some (digits, rest)
  | _ => none

def beginsExponent : List Char → Bool
  | c :: rest => (c == 'e' || c == 'E') && ((takeSign rest).2.head?.bind asciiDigitValue?).isSome
  | [] => false

/-- The token of a number.  Both sides of a point have digits, and only a minus sign
may stand in front. -/
def number (cs : List Char) : Token :=
  match readWhole? cs with
  | none => .malformed
  | some (negative, whole, rest) =>
    match readFraction? rest, beginsExponent rest with
    | none, false =>
      let n : Int := ofDigits whole
      if digitLimit < whole.length then .oversized
      else if rest.isEmpty then .atom (.int (if negative then -n else n))
      else .malformed
    | fraction?, _ =>
      let (fraction, rest) := fraction?.getD ([], rest)
      match Numeral.readExponent? false rest with
      | some exponent => .atom (.real (Numeral.toBinary64 { negative, whole, fraction, exponent }))
      | none => .malformed

def word (letters : List Char) : Token :=
  match String.ofList letters with
  | "null" => .atom .null
  | "true" => .atom (.bool true)
  | "false" => .atom (.bool false)
  | "NaN" => .atom (.real .notANumber)
  | "Infinity" => .atom (.real (.infinite false))
  | "-Infinity" => .atom (.real (.infinite true))
  | _ => number letters

/-- What a character outside words and texts begins. -/
def start? (c : Char) : Option (List Token × Mode) :=
  if isSpace c then some ([], .between)
  else if isWordChar c then some ([], .word [c])
  else match c with
    | '"' => some ([], .quoted [])
    | '[' => some ([.openList], .between)
    | ']' => some ([.closeList], .between)
    | '\x7b' => some ([.openMap], .between)
    | '\x7d' => some ([.closeMap], .between)
    | ',' => some ([.comma], .between)
    | ':' => some ([.colon], .between)
    | _ => none

/-- The character that a letter after a backslash stands for. -/
def unescape? : Char → Option Char
  | '"' => some '"'
  | '\\' => some '\\'
  | '/' => some '/'
  | 'b' => some '\x08'
  | 'f' => some '\x0c'
  | 'n' => some '\n'
  | 'r' => some '\r'
  | 't' => some '\t'
  | _ => none

def tokensFrom : Mode → List Char → List Token
  | .between, [] => []
  | .word letters, [] => [word letters.reverse]
  | .quoted _, [] => [.malformed]
  | .escaped _, [] => [.malformed]
  | .coded _ _ _, [] => [.malformed]
  | .between, c :: rest =>
    match start? c with
    | none => [.malformed]
    | some (tokens, mode) => tokens ++ tokensFrom mode rest
  | .word letters, c :: rest =>
    if isWordChar c then tokensFrom (.word (c :: letters)) rest
    else
      match start? c with
      | none => [word letters.reverse, .malformed]
      | some (tokens, mode) => word letters.reverse :: tokens ++ tokensFrom mode rest
  | .quoted points, c :: rest =>
    if c = '"' then
      .text (String.ofList (Encoding.joinUnits none points.reverse)) :: tokensFrom .between rest
    else if c = '\\' then tokensFrom (.escaped points) rest
    else if c.toNat < 0x20 then [.malformed]
    else tokensFrom (.quoted (c.toNat :: points)) rest
  | .escaped points, c :: rest =>
    if c = 'u' then tokensFrom (.coded points 4 0) rest
    else
      match unescape? c with
      | some plain => tokensFrom (.quoted (plain.toNat :: points)) rest
      | none => [.malformed]
  | .coded points missing code, c :: rest =>
    match Literal.hexValue? c with
    | none => [.malformed]
    | some digit =>
      let code := 16 * code + digit
      if missing ≤ 1 then tokensFrom (.quoted (code :: points)) rest
      else tokensFrom (.coded points (missing - 1) code) rest

def tokens (cs : List Char) : List Token := tokensFrom .between cs

end TableSearch.Json
