import TableSearch.Yaml.Quoted

/-!
# Plain scalars

A scalar without quotes is a sequence of words.  It goes on over several lines as
long as these stand further to the right than the collection around it, and ends
of line stand for the same as between quotes.
-/

namespace TableSearch.Yaml

/-- Where a plain scalar stands: whether between brackets, and in which column the
collection around it. -/
structure Setting where
  bracketed : Bool
  indent : Int

def Setting.endsWord (setting : Setting) (c : Char) (rest : List Letter) : Bool :=
  isGap c || isBreak c ||
    (c == ':' && (separates rest || (setting.bracketed && rest.head?.any (isBracketing ·.char)))) ||
    (setting.bracketed && (isBracketing c || c == '?'))

/-- Whether a letter behind blanks or ends of line continues a plain scalar. -/
def Setting.continues (setting : Setting) (letter : Letter) (rest : List Letter) : Bool :=
  letter.char != '#' && (setting.bracketed || setting.indent < letter.place.column) &&
    !setting.endsWord letter.char rest

/-- Where the reading of a plain scalar stands: in a word, or behind blanks or ends
of line, of which the last comes first. -/
inductive Wording where
  | word
  | blanks (gaps : List Char)
  | folded (first : Char) (more : List Char)

/-- A plain scalar: its text, whether ends of line behind it have been passed over,
and what follows. -/
structure PlainScalar where
  text : String
  crossed : Bool
  rest : List Letter

/-- Reads on in a plain scalar, with the letters before, last one first. -/
def readPlain (setting : Setting) (wording : Wording) (letters : List Char) :
    List Letter → PlainScalar
  | [] => ⟨String.ofList letters.reverse, wording matches .folded _ _, []⟩
  | letter :: rest =>
    let c := letter.char
    let ended (crossed : Bool) : PlainScalar :=
      ⟨String.ofList letters.reverse, crossed, letter :: rest⟩
    match wording with
    | .word =>
      if c = ' ' then readPlain setting (.blanks [c]) letters rest
      else if isBreak c then readPlain setting (.folded c []) letters rest
      else if setting.endsWord c rest then ended false
      else readPlain setting .word (c :: letters) rest
    | .blanks gaps =>
      if c = ' ' then readPlain setting (.blanks (c :: gaps)) letters rest
      else if isBreak c then readPlain setting (.folded c []) letters rest
      else if setting.continues letter rest then
        readPlain setting .word (c :: (gaps ++ letters)) rest
      else ended false
    | .folded first more =>
      if (documentMark? (letter :: rest)).isSome then ended true
      else if c = ' ' then readPlain setting (.folded first more) letters rest
      else if isBreak c then readPlain setting (.folded first (c :: more)) letters rest
      else if setting.continues letter rest then
        readPlain setting .word (c :: (foldBreaks first more ++ letters)) rest
      else ended true

end TableSearch.Yaml
