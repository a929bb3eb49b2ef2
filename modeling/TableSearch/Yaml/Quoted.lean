import TableSearch.Text.Literal
import TableSearch.Yaml.Error
import TableSearch.Yaml.Letter
import TableSearch.Yaml.Token

/-!
# Quoted scalars

A scalar between quotes may go on over several lines.  The blanks around the end
of a line are dropped, a single end of line stands for a space, and of several the
first is dropped.  Double quotes allow for escapes, and an escaped end of line
stands for nothing.
-/

namespace TableSearch.Yaml

/-- What the ends of line between two parts of a scalar stand for: the first of
them, and those behind it, last one first. -/
def foldBreaks (first : Char) (more : List Char) : List Char :=
  if first ≠ '\n' then more ++ [first] else if more.isEmpty then [' '] else more

/-- A content under way, last character first. -/
structure Draft where
  letters : List Char := []
  isText : Bool := true

def Draft.content (draft : Draft) : Content :=
  ⟨String.ofList draft.letters.reverse, draft.isText⟩

def Draft.add (draft : Draft) (letters : List Char) : Draft :=
  { draft with letters := letters ++ draft.letters }

def Draft.addCode (draft : Draft) (code : Nat) : Except YamlError Draft :=
  if code.isValidChar then .ok (draft.add [Char.ofNat code])
  else if code < 0x110000 then .ok { letters := '\uFFFD' :: draft.letters, isText := false }
  else if code < 0x80000000 then .error .noSuchValue
  else .error .outOfRange

/-- Where the reading of a quoted scalar stands.  Characters that may still be
dropped are kept apart, last one first. -/
inductive Quoting where
  | text
  | blanks (gaps : List Char)
  /-- Behind ends of line. -/
  | folded (first : Char) (more : List Char)
  /-- Behind ends of line of which the first is escaped. -/
  | joined (more : List Char)
  | escape
  | code (missing code : Nat)

/-- The character that a letter after a backslash stands for. -/
def unescape? : Char → Option Char
  | '0' => some '\x00'
  | 'a' => some '\x07'
  | 'b' => some '\x08'
  | 't' => some '\t'
  | '\t' => some '\t'
  | 'n' => some '\n'
  | 'v' => some '\x0b'
  | 'f' => some '\x0c'
  | 'r' => some '\x0d'
  | 'e' => some '\x1b'
  | ' ' => some ' '
  | '"' => some '"'
  | '/' => some '/'
  | '\\' => some '\\'
  | 'N' => some '\u0085'
  | '_' => some '\u00a0'
  | 'L' => some '\u2028'
  | 'P' => some '\u2029'
  | _ => none

/-- The number of digits behind a letter that begins a numbered escape. -/
def codeLength? : Char → Option Nat
  | 'x' => some 2
  | 'u' => some 4
  | 'U' => some 8
  | _ => none

def Quoting.afterBackslash (draft : Draft) (c : Char) : Except YamlError (Quoting × Draft) :=
  match codeLength? c, unescape? c with
  | some length, _ => .ok (.code length 0, draft)
  | none, some plain => .ok (.text, draft.add [plain])
  | none, none => if isBreak c then .ok (.joined [], draft) else .error .malformed

/-- The step on a character of a numbered escape. -/
def Quoting.afterDigit (draft : Draft) (missing code : Nat) (c : Char) :
    Except YamlError (Quoting × Draft) :=
  match Literal.hexValue? c with
  | none => .error .malformed
  | some digit =>
    let code := 16 * code + digit
    if missing ≤ 1 then (draft.addCode code).map (.text, ·) else .ok (.code (missing - 1) code, draft)

def Quoting.afterGap (c : Char) : Quoting → Quoting
  | .blanks gaps => .blanks (c :: gaps)
  | .folded first more => .folded first more
  | .joined more => .joined more
  | _ => .blanks [c]

def Quoting.afterBreak (c : Char) : Quoting → Quoting
  | .folded first more => .folded first (c :: more)
  | .joined more => .joined (c :: more)
  | _ => .folded c []

/-- What was kept apart and turns out to belong to the scalar. -/
def Quoting.kept : Quoting → List Char
  | .blanks gaps => gaps
  | .folded first more => foldBreaks first more
  | .joined more => more
  | _ => []

/-- Whether ends of line have just been passed. -/
def Quoting.isBehindBreak : Quoting → Bool
  | .folded _ _ => true
  | .joined _ => true
  | _ => false

/-- Reads on inside of quotes.  No document may begin or end there. -/
def readQuoted (quote : Char) (quoting : Quoting) (draft : Draft) :
    List Letter → Except YamlError (Content × List Letter)
  | [] => .error .malformed
  | letter :: rest =>
    let c := letter.char
    match quoting with
    | .escape =>
      match Quoting.afterBackslash draft c with
      | .ok (quoting, draft) => readQuoted quote quoting draft rest
      | .error error => .error error
    | .code missing code =>
      match Quoting.afterDigit draft missing code c with
      | .ok (quoting, draft) => readQuoted quote quoting draft rest
      | .error error => .error error
    | quoting =>
      if quoting.isBehindBreak ∧ (documentMark? (letter :: rest)).isSome then .error .malformed
      else if isGap c then readQuoted quote (quoting.afterGap c) draft rest
      else if isBreak c then readQuoted quote (quoting.afterBreak c) draft rest
      else
        let draft := draft.add quoting.kept
        if c = quote then
          match quote, rest with
          | '\'', ⟨'\'', _⟩ :: rest => readQuoted quote .text (draft.add ['\'']) rest
          | _, rest => .ok (draft.content, rest)
        else if c = '\\' ∧ quote = '"' then readQuoted quote .escape draft rest
        else readQuoted quote .text (draft.add [c]) rest

end TableSearch.Yaml
