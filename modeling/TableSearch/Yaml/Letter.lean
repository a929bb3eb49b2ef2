import TableSearch.Text.CodePoints

/-!
# The letters of a YAML text

Lines and columns decide on the structure of a YAML text, so each of its letters
comes with its place.  All ends of lines are one letter, and two of them, the line
and the paragraph separator, stay what they are.
-/

namespace TableSearch.Yaml

/-- A place in a text: its line, its column, and the number of letters in front. -/
structure Place where
  line : Nat
  column : Nat
  index : Nat
deriving DecidableEq, Repr

/-- A character at its place. -/
structure Letter where
  char : Char
  place : Place
deriving DecidableEq, Repr

/-! ## Classes of characters -/

def isBreak (c : Char) : Bool := c == '\n' || c == '\u2028' || c == '\u2029'

/-- A character that separates words within a line. -/
def isGap (c : Char) : Bool := c == ' ' || c == '\t'

def separates : List Letter → Bool
  | [] => true
  | next :: _ => isGap next.char || isBreak next.char

/-- Whether the end, an end of line or a space comes next. -/
def endsHere : List Letter → Bool
  | [] => true
  | next :: _ => next.char == ' ' || isBreak next.char

def isBracketing (c : Char) : Bool := [',', '[', ']', '\x7b', '\x7d'].contains c

def isAllowed (c : Char) : Bool :=
  c == '\t' || c == '\n' || c == '\u0085' ||
    inRanges [(0x20, 0x7E), (0xA0, 0xD7FF), (0xE000, 0xFFFD), (0x10000, 0x10FFFF)] c.toNat

/-! ## From characters to letters -/

/-- Writes a carriage return, with or without a line feed behind it, as a line
feed. -/
def unifyReturns : List Char → List Char
  | '\r' :: '\n' :: rest => '\n' :: unifyReturns rest
  | '\r' :: rest => '\n' :: unifyReturns rest
  | c :: rest => c :: unifyReturns rest
  | [] => []

/-- The place behind a character.  A byte order mark has no width. -/
def Place.after (place : Place) (c : Char) : Place :=
  if isBreak c then ⟨place.line + 1, 0, place.index + 1⟩
  else if c = '\uFEFF' then { place with index := place.index + 1 }
  else ⟨place.line, place.column + 1, place.index + 1⟩

/-- Characters with their places, from a place on.  The next-line control is an end
of line like the line feed. -/
def placeFrom (place : Place) : List Char → List Letter
  | [] => []
  | c :: rest =>
    let c := if c = '\u0085' then '\n' else c
    ⟨c, place⟩ :: placeFrom (place.after c) rest

/-- The letters of a text, without the byte order mark in front. -/
def letters? (cs : List Char) : Option (List Letter) :=
  let cs := unifyReturns cs
  let cs := if cs.head? = some '\uFEFF' then cs.drop 1 else cs
  if cs.all isAllowed then some (placeFrom ⟨0, 0, 0⟩ cs) else none

/-! ## Runs of letters -/

/-- The longest run of letters of a class in front, and what follows it. -/
def spanLetters (belongs : Char → Bool) : List Letter → List Char × List Letter
  | [] => ([], [])
  | letter :: rest =>
    if belongs letter.char then
      let (run, left) := spanLetters belongs rest
      (letter.char :: run, left)
    else ([], letter :: rest)

def dropLetters (belongs : Char → Bool) (letters : List Letter) : List Letter :=
  (spanLetters belongs letters).2

/-- Passes over the rest of a line that holds nothing but a comment, and over the
end of the line. -/
def skipLine? (letters : List Letter) : Option (List Letter) :=
  let letters := dropLetters (· == ' ') letters
  let letters := match letters with
    | ⟨'#', _⟩ :: rest => dropLetters (!isBreak ·) rest
    | letters => letters
  match letters with
  | [] => some []
  | letter :: rest => if isBreak letter.char then some rest else none

/-- The first of the three characters that mark the beginning or the end of a
document, if they stand alone at the beginning of a line, and what follows them. -/
def documentMark? : List Letter → Option (Char × List Letter)
  | a :: b :: c :: rest =>
    if a.place.column = 0 ∧ (a.char = '-' ∨ a.char = '.') ∧ b.char = a.char ∧ c.char = a.char ∧
        separates rest then
      some (a.char, rest)
    else none
  | _ => none

end TableSearch.Yaml
