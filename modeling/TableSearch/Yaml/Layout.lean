import TableSearch.Yaml.Block
import TableSearch.Yaml.Plain
import TableSearch.Yaml.Property

/-!
# The layout of a YAML text

One pass over the letters of a text yields its tokens.  Columns decide where a
collection in lines begins and ends, and a colon decides that the node in front of
it is a key: so the pass keeps the columns of the open collections, and the tokens
that may still turn out to begin a key.
-/

namespace TableSearch.Yaml

/-- A token that may turn out to begin a key: how many brackets are open, how many
tokens are in front of it, and where it is.  A required key stands where the
collection in lines around it allows for nothing else. -/
structure Candidate where
  depth : Nat
  position : Nat
  required : Bool
  place : Place

/-- The pass between two tokens: the tokens so far, last one first, and their number,
the number of open brackets, the columns of the open collections in lines, whether a
key may begin, and what may turn out to be one, deepest first.  Outside of all
collections the column is -1. -/
structure Layout where
  tokens : List Token := []
  count : Nat := 0
  depth : Nat := 0
  indent : Int := -1
  outer : List Int := []
  keyAllowed : Bool := true
  candidates : List Candidate := []

namespace Layout

/-- Adds a token in front of which so many others stand. -/
def insert (position : Nat) (token : Token) (layout : Layout) : Layout :=
  { layout with
    tokens := layout.tokens.insertIdx (layout.count - position) token
    count := layout.count + 1 }

def emit (token : Token) (layout : Layout) : Layout := layout.insert layout.count token

/-! ## Columns -/

/-- The columns of the collections in lines that stand further to the right than a
column are given up: how many there are, the innermost column that stays, and those
around it. -/
def endBlocks (column indent : Int) : List Int → Nat × Int × List Int
  | [] => (0, indent, [])
  | next :: outer =>
    if column < indent then
      let (ended, indent, outer) := endBlocks column next outer
      (ended + 1, indent, outer)
    else (0, indent, next :: outer)

/-- Ends the collections that a column ends.  Between brackets columns mean nothing. -/
def unwind (column : Int) (layout : Layout) : Layout :=
  if layout.depth > 0 then layout
  else
    let (ended, indent, outer) := endBlocks column layout.indent layout.outer
    { layout with
      tokens := List.replicate ended .blockEnd ++ layout.tokens
      count := layout.count + ended
      indent
      outer }

/-- Begins a collection at a column in front of the token at a position, unless one
has begun there or between brackets. -/
def beginBlock (column : Nat) (token : Token) (position : Nat) (layout : Layout) : Layout :=
  if layout.depth = 0 ∧ layout.indent < column then
    { layout with indent := column, outer := layout.indent :: layout.outer }.insert position token
  else layout

/-! ## Keys -/

def Candidate.drop (candidate : Candidate) : Except YamlError (List Candidate) :=
  if candidate.required then .error .malformed else .ok []

def keyLength : Nat := 1024

/-- Drops the candidates that begin on another line, or too far ahead. -/
def dropStale (here : Place) (layout : Layout) : Except YamlError Layout := do
  let kept ← layout.candidates.mapM fun candidate =>
    if candidate.place.line ≠ here.line ∨ candidate.place.index + keyLength < here.index then
      Candidate.drop candidate
    else .ok [candidate]
  return { layout with candidates := kept.flatten }

def dropCandidate (layout : Layout) : Except YamlError Layout :=
  match layout.candidates with
  | [] => .ok layout
  | candidate :: rest =>
    if candidate.depth = layout.depth then
      (Candidate.drop candidate).map fun _ => { layout with candidates := rest }
    else .ok layout

/-- Takes the next token for a candidate, if a key may begin. -/
def addCandidate (place : Place) (layout : Layout) : Except YamlError Layout :=
  if layout.keyAllowed then
    layout.dropCandidate.map fun layout =>
      { layout with candidates :=
          { depth := layout.depth
            position := layout.count
            required := layout.depth = 0 && layout.indent == (place.column : Int)
            place } :: layout.candidates }
  else .ok layout

def candidate? (layout : Layout) : Option (Candidate × Layout) :=
  match layout.candidates with
  | [] => none
  | candidate :: rest =>
    if candidate.depth = layout.depth then some (candidate, { layout with candidates := rest })
    else none

/-! ## Indicators -/

/-- A mark or a line that belongs to no node ends all collections in lines. -/
def outside (token : Token) (layout : Layout) : Except YamlError Layout :=
  (layout.unwind (-1)).dropCandidate.map fun layout =>
    { layout with keyAllowed := false }.emit token

def openBracket (token : Token) (place : Place) (layout : Layout) : Except YamlError Layout :=
  (layout.addCandidate place).map fun layout =>
    { layout with depth := layout.depth + 1, keyAllowed := true }.emit token

def closeBracket (token : Token) (layout : Layout) : Except YamlError Layout :=
  layout.dropCandidate.map fun layout =>
    { layout with depth := layout.depth - 1, keyAllowed := false }.emit token

def comma (layout : Layout) : Except YamlError Layout :=
  layout.dropCandidate.map fun layout => { layout with keyAllowed := true }.emit .comma

/-- A dash or a question mark, which in lines stands where a key may begin. -/
def lineMark (token start : Token) (place : Place) (keyAllowed : Bool) (layout : Layout) :
    Except YamlError Layout :=
  if layout.depth = 0 ∧ !layout.keyAllowed then .error .malformed
  else
    ((layout.beginBlock place.column start layout.count).dropCandidate).map fun layout =>
      { layout with keyAllowed }.emit token

/-- A colon.  It makes a key of the candidate, and otherwise it belongs to a key that
a question mark has announced. -/
def colon (place : Place) (layout : Layout) : Except YamlError Layout :=
  match layout.candidate? with
  | some (key, layout) =>
    let keyed := { layout with keyAllowed := false }.insert key.position .key
    .ok ((keyed.beginBlock key.place.column .blockMap key.position).emit .value)
  | none => layout.lineMark .value .blockMap place (layout.depth = 0)

/-! ## Tokens -/

def node (token : Token) (place : Place) (layout : Layout) : Except YamlError Layout :=
  (layout.addCandidate place).map fun layout => { layout with keyAllowed := false }.emit token

/-- A plain scalar.  A key may follow if it ended behind an end of line. -/
def plain (place : Place) (letters : List Letter) (layout : Layout) :
    Except YamlError (Layout × List Letter) :=
  let scalar := readPlain ⟨layout.depth > 0, layout.indent⟩ .word [] letters
  (layout.node (.scalar true ⟨scalar.text, true⟩) place).map fun layout =>
    ({ layout with keyAllowed := scalar.crossed }, scalar.rest)

def block (folded : Bool) (letters : List Letter) (layout : Layout) :
    Except YamlError (Layout × List Letter) := do
  let layout ← layout.dropCandidate
  let (text, rest) ← orMalformed (readBlock? folded layout.indent letters)
  return ({ layout with keyAllowed := true }.emit (.scalar false ⟨text, true⟩), rest)

/-- The characters that cannot begin a plain scalar. -/
def isReserved (c : Char) : Bool :=
  isGap c || isBreak c || isBracketing c ||
    ['-', '?', ':', '#', '&', '*', '!', '|', '>', '\'', '"', '%', '@', '\x60'].contains c

/-- Whether a character, with letters behind it, begins a plain scalar. -/
def beginsPlain (c : Char) (rest : List Letter) (layout : Layout) : Bool :=
  !isReserved c ||
    (!separates rest && (c == '-' || (layout.depth == 0 && (c == '?' || c == ':'))))

def readToken (letter : Letter) (rest : List Letter) (layout : Layout) :
    Except YamlError (Layout × List Letter) := do
  let place := letter.place
  let letters := letter :: rest
  if let some (c, rest) := documentMark? letters then
    return (← layout.outside (if c = '-' then .documentStart else .documentEnd), rest)
  if letter.char = '%' ∧ place.column = 0 then
    let (token, rest) ← readDirective rest
    return (← layout.outside token, rest)
  let marks := layout.depth > 0 || separates rest
  match letter.char with
  | '[' => return (← layout.openBracket .openList place, rest)
  | '\x7b' => return (← layout.openBracket .openMap place, rest)
  | ']' => return (← layout.closeBracket .closeList, rest)
  | '\x7d' => return (← layout.closeBracket .closeMap, rest)
  | ',' => return (← layout.comma, rest)
  | '*' =>
    let (name, rest) ← orMalformed (readName? rest)
    return (← layout.node (.alias name) place, rest)
  | '&' =>
    let (name, rest) ← orMalformed (readName? rest)
    return (← layout.node (.anchor name) place, rest)
  | '!' =>
    let (tag, rest) ← orMalformed (readTag? letters)
    return (← layout.node tag place, rest)
  | '\'' =>
    let (content, rest) ← readQuoted '\'' .text {} rest
    return (← layout.node (.scalar false content) place, rest)
  | '"' =>
    let (content, rest) ← readQuoted '"' .text {} rest
    return (← layout.node (.scalar false content) place, rest)
  | c =>
    if c = '-' ∧ separates rest then return (← layout.lineMark .item .blockList place true, rest)
    else if c = '?' ∧ marks then
      return (← layout.lineMark .key .blockMap place (layout.depth = 0), rest)
    else if c = ':' ∧ marks then return (← layout.colon place, rest)
    else if c = '|' ∧ layout.depth = 0 then layout.block false rest
    else if c = '>' ∧ layout.depth = 0 then layout.block true rest
    else if layout.beginsPlain c rest then layout.plain place letters
    else throw .malformed

/-! ## The whole text -/

/-- Drops blanks, comments and ends of line in front of a token.  Outside of brackets
a key may begin behind an end of line. -/
def skipBlank (comment : Bool) (layout : Layout) : List Letter → Layout × List Letter
  | [] => (layout, [])
  | letter :: rest =>
    let c := letter.char
    if isBreak c then
      skipBlank false { layout with keyAllowed := layout.keyAllowed || layout.depth = 0 } rest
    else if comment then skipBlank true layout rest
    else if c = ' ' then skipBlank false layout rest
    else if c = '#' then skipBlank true layout rest
    else (layout, letter :: rest)

/-- Reads what stands in front of the next token, and the token.  At the end of the
text there is none. -/
def next (letters : List Letter) (layout : Layout) :
    Except YamlError (Layout × Option (List Letter)) := do
  let (layout, letters) := skipBlank false layout letters
  match letters with
  | [] => return (← (layout.unwind (-1)).dropCandidate, none)
  | letter :: rest =>
    let layout ← layout.dropStale letter.place
    let (layout, rest) ← (layout.unwind letter.place.column).readToken letter rest
    return (layout, some rest)

end Layout

/-- The tokens of a text as far as it can be read, and the reason if it cannot be
read to its end. -/
structure TokenStream where
  tokens : List Token
  failure : Option YamlError

namespace Layout

/-- The tokens that are certain when the text cannot be read any further: those in
front of the first one that might still have become a key. -/
def certain (layout : Layout) : List Token :=
  match layout.candidates.getLast? with
  | none => layout.tokens.reverse
  | some candidate => (layout.tokens.drop (layout.count - candidate.position)).reverse

/-- Reads token after token.  Each has a letter of its own, so the number of letters
bounds the number of steps. -/
def run (fuel : Nat) (letters : List Letter) (layout : Layout) : TokenStream :=
  match fuel with
  | 0 => ⟨layout.certain, some .malformed⟩
  | fuel + 1 =>
    let checked : Except YamlError Layout := match letters with
      | [] => .ok layout
      | letter :: _ => layout.dropStale letter.place
    match checked with
    | .error error => ⟨layout.certain, some error⟩
    | .ok layout =>
      match layout.next letters with
      | .error error => ⟨layout.certain, some error⟩
      | .ok (layout, none) => ⟨layout.tokens.reverse, none⟩
      | .ok (layout, some rest) => run fuel rest layout

end Layout

def TokenStream.ofLetters (letters : List Letter) : TokenStream :=
  Layout.run (letters.length + 1) letters {}

end TableSearch.Yaml
