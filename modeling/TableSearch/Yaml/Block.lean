import TableSearch.Yaml.Quoted

/-!
# Scalars in lines

A bar or a greater-than sign begins a scalar that consists of the lines below it,
from a certain column on.  Behind a greater-than sign the end of a line between
two lines that begin without a blank is folded like that between quotes.
-/

namespace TableSearch.Yaml

/-- What becomes of the ends of line at the end of a scalar in lines: the first of
them stays, none does, or all of them do. -/
inductive Chomping where
  | clip
  | strip
  | keep

/-- How a scalar in lines is read: whether its lines are folded, what becomes of the
last ends of line, and how far it is indented, if that is stated. -/
structure BlockStyle where
  folded : Bool
  chomping : Chomping := .clip
  increment : Option Nat := none

def BlockStyle.takeChomping (style : BlockStyle) : List Letter → BlockStyle × List Letter
  | ⟨'+', _⟩ :: rest => ({ style with chomping := .keep }, rest)
  | ⟨'-', _⟩ :: rest => ({ style with chomping := .strip }, rest)
  | letters => (style, letters)

def BlockStyle.takeIncrement? (style : BlockStyle) (letters : List Letter) :
    Option (BlockStyle × List Letter) :=
  match letters with
  | [] => some (style, letters)
  | letter :: rest =>
    match asciiDigitValue? letter.char with
    | none => some (style, letters)
    | some 0 => none
    | some n => some ({ style with increment := some n }, rest)

/-- Reads what stands on the line of the indicator: a sign and a digit in either
order, and a comment. -/
def readBlockStyle? (folded : Bool) (letters : List Letter) : Option (BlockStyle × List Letter) := do
  let (style, letters) := BlockStyle.takeChomping { folded } letters
  let (style, letters) ← style.takeIncrement? letters
  let (style, letters) :=
    if style.chomping matches .clip then style.takeChomping letters else (style, letters)
  if endsHere letters then return (style, ← skipLine? letters) else none

/-- The blank lines in front of the first line, their ends, last one first, and the
widest column that a space among them reaches. -/
def leadIn (breaks : List Char) (widest : Nat) : List Letter → List Char × Nat × List Letter
  | [] => (breaks, widest, [])
  | letter :: rest =>
    if letter.char = ' ' then leadIn breaks (max widest (letter.place.column + 1)) rest
    else if isBreak letter.char then leadIn (letter.char :: breaks) widest rest
    else (breaks, widest, letter :: rest)

/-- Where the reading of a scalar in lines stands: in a line, which begins without a
blank or not, or between two lines.  Between lines the end of the line before is
kept, unless there is no such line or it ends with the text, and the ends of blank
lines behind it, last one first. -/
inductive Lining where
  | line (flush : Bool)
  | between (before : Option (Bool × Char)) (breaks : List Char)

/-- What the ends of line in front of a line stand for. -/
def BlockStyle.joint (style : BlockStyle) (flush : Bool) (breaks : List Char) :
    Option (Bool × Char) → List Char
  | none => breaks
  | some (flushBefore, first) =>
    if style.folded ∧ first = '\n' ∧ flushBefore ∧ flush then
      if breaks.isEmpty then [' '] else breaks
    else breaks ++ [first]

/-- What the ends of line behind the last line stand for. -/
def BlockStyle.tail (style : BlockStyle) : Lining → List Char
  | .line _ => []
  | .between before breaks =>
    let first := (before.map (·.2)).toList
    match style.chomping with
    | .clip => first
    | .strip => []
    | .keep => breaks ++ first

/-- Reads on in a scalar in lines, with the letters before, last one first. -/
def readLines (style : BlockStyle) (column : Nat) (lining : Lining) (letters : List Char) :
    List Letter → String × List Letter
  | [] => (String.ofList (style.tail lining ++ letters).reverse, [])
  | letter :: rest =>
    let c := letter.char
    match lining with
    | .line flush =>
      if isBreak c then readLines style column (.between (some (flush, c)) []) letters rest
      else readLines style column lining (c :: letters) rest
    | .between before breaks =>
      if c = ' ' ∧ letter.place.column < column then readLines style column lining letters rest
      else if isBreak c then readLines style column (.between before (c :: breaks)) letters rest
      else if letter.place.column = column then
        let flush := !isGap c
        readLines style column (.line flush) (c :: (style.joint flush breaks before ++ letters)) rest
      else (String.ofList (style.tail lining ++ letters).reverse, letter :: rest)

/-- Reads a scalar in lines behind its indicator, inside of a collection whose
column is given. -/
def readBlock? (folded : Bool) (indent : Int) (letters : List Letter) :
    Option (String × List Letter) := do
  let (style, letters) ← readBlockStyle? folded letters
  let least := (max 1 (indent + 1)).toNat
  match style.increment with
  | some n => return readLines style (least + n - 1) (.between none []) [] letters
  | none =>
    let (breaks, widest, letters) := leadIn [] 0 letters
    return readLines style (max least widest) (.between none breaks) [] letters

end TableSearch.Yaml
