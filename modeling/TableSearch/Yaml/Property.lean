import TableSearch.Number.Numeral
import TableSearch.Text.Encoding
import TableSearch.Text.Literal
import TableSearch.Yaml.Error
import TableSearch.Yaml.Letter
import TableSearch.Yaml.Token

/-!
# Names, tags and directives

What may stand in front of a node, and what may stand in front of a document: names
that mark a node and refer back to it, tags that say what a node is, and lines that
state the version or declare a short form of tags.
-/

namespace TableSearch.Yaml

/-! ## Names -/

def isNameChar (c : Char) : Bool := c.isAlphanum || c == '-' || c == '_'

/-- Whether what comes next may stand behind the name of a node. -/
def endsName (letters : List Letter) : Bool :=
  separates letters || letters.head?.any fun next =>
    ['?', ':', ',', ']', '\x7d', '%', '@', '\x60'].contains next.char

def readName? (letters : List Letter) : Option (String × List Letter) :=
  let (name, rest) := spanLetters isNameChar letters
  if name.isEmpty || !endsName rest then none else some (String.ofList name, rest)

/-! ## Tags -/

def isUriChar (c : Char) : Bool :=
  c.isAlphanum || "-;/?:@&=+$,_.!~*'()[]%".toList.contains c

/-- The characters that a URI stands for.  A percent sign and two digits stand for a
byte, and bytes in a row for characters in UTF-8; `bytes` are those before, last one
first. -/
def decodeUri? (bytes : List UInt8) : List Char → Option (List Char)
  | [] => Encoding.utf8? false bytes.reverse
  | '%' :: a :: b :: rest =>
    match Literal.hexValue? a, Literal.hexValue? b with
    | some high, some low => decodeUri? (UInt8.ofNat (16 * high + low) :: bytes) rest
    | _, _ => none
  | c :: rest =>
    if c = '%' then none
    else
      match Encoding.utf8? false bytes.reverse, decodeUri? [] rest with
      | some before, some behind => some (before ++ c :: behind)
      | _, _ => none

def readUri? (letters : List Letter) : Option (String × List Letter) :=
  let (uri, rest) := spanLetters isUriChar letters
  if uri.isEmpty then none else (decodeUri? [] uri).map fun uri => (String.ofList uri, rest)

/-- The handle of tags: one exclamation mark, or a name between two of them. -/
def readHandle? : List Letter → Option (String × List Letter)
  | ⟨'!', _⟩ :: rest =>
    if rest.head?.any (·.char == ' ') then some ("!", rest)
    else
      match spanLetters isNameChar rest with
      | (name, ⟨'!', _⟩ :: rest) => some ("!" ++ String.ofList name ++ "!", rest)
      | _ => none
  | _ => none

/-- A tag behind an opening angle bracket: a URI up to the closing one. -/
def readVerbatim? (letters : List Letter) : Option (Token × List Letter) :=
  match readUri? letters with
  | some (uri, ⟨'>', _⟩ :: rest) => some (.tag none uri, rest)
  | _ => none

/-- A tag, from its exclamation mark on, of a handle and what follows it. -/
def readShorthand? (letters : List Letter) : Option (Token × List Letter) := do
  let (run, _) := spanLetters (fun c => c != ' ' && !isBreak c) (letters.drop 1)
  let (handle, rest) ← if run.contains '!' then readHandle? letters else some ("!", letters.drop 1)
  let (suffix, rest) ← readUri? rest
  return (.tag (some handle) suffix, rest)

/-- A tag, from its exclamation mark on.  The mark alone is a tag too. -/
def readTag? (letters : List Letter) : Option (Token × List Letter) :=
  let tag? := match letters.drop 1 with
    | ⟨'<', _⟩ :: rest => readVerbatim? rest
    | rest => if separates rest then some (.tag none "!", rest) else readShorthand? letters
  tag?.filter fun (_, rest) => endsHere rest

/-! ## Directives -/

def orMalformed {α : Type} : Option α → Except YamlError α
  | some a => .ok a
  | none => .error .malformed

def readVersionNumber (letters : List Letter) : Except YamlError (Nat × List Letter) :=
  let (digits, rest) := spanLetters (fun c => (asciiDigitValue? c).isSome) letters
  if digits.isEmpty then .error .malformed
  else if digitLimit < digits.length then .error .noSuchValue
  else .ok (ofDigits (digits.filterMap asciiDigitValue?), rest)

/-- What follows the name of the directive that states the version. -/
def readVersion (letters : List Letter) : Except YamlError (Token × List Letter) := do
  match ← readVersionNumber (dropLetters (· == ' ') letters) with
  | (major, ⟨'.', _⟩ :: rest) =>
    let (_, rest) ← readVersionNumber rest
    if endsHere rest then return (.version major, rest) else throw .malformed
  | _ => throw .malformed

def readDeclaration? (letters : List Letter) : Option (Token × List Letter) := do
  let (name, rest) ← readHandle? (dropLetters (· == ' ') letters)
  if rest.head?.any (·.char == ' ') then
    let (start, rest) ← readUri? (dropLetters (· == ' ') rest)
    if endsHere rest then return (.handle name start, rest) else none
  else none

/-- A directive, behind its percent sign, with the line that it stands on. -/
def readDirective (letters : List Letter) : Except YamlError (Token × List Letter) := do
  let (name, rest) := spanLetters isNameChar letters
  if name.isEmpty || !endsHere rest then throw .malformed
  let (token, rest) ← match String.ofList name with
    | "YAML" => readVersion rest
    | "TAG" => orMalformed (readDeclaration? rest)
    | _ => pure (.directive, dropLetters (!isBreak ·) rest)
  return (token, ← orMalformed (skipLine? rest))

end TableSearch.Yaml
