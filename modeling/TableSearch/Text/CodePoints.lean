import TableSearch.Text.Hidden
import TableSearch.Text.Words

/-!
# Classes of characters

The character classes that text handling needs, as ascending tables of closed
ranges of code points: white space, the wider class of blanks that also holds
the four information separators, characters that have no visible form, the
characters of words, and decimal digits.  The tables follow Unicode 14.0.
-/

namespace TableSearch

def inRanges (ranges : List (Nat × Nat)) (codePoint : Nat) : Bool :=
  ranges.any fun range => range.1 ≤ codePoint && codePoint ≤ range.2

/-- Whether a code point lies in one of the closed ranges, which ascend. -/
def inAscending (codePoint : Nat) : List (Nat × Nat) → Bool
  | [] => false
  | (first, last) :: rest =>
    first ≤ codePoint && (codePoint ≤ last || inAscending codePoint rest)

def whiteSpaceRanges : List (Nat × Nat) :=
  [(0x09, 0x0D), (0x20, 0x20), (0x85, 0x85), (0xA0, 0xA0), (0x1680, 0x1680),
   (0x2000, 0x200A), (0x2028, 0x2029), (0x202F, 0x202F), (0x205F, 0x205F),
   (0x3000, 0x3000)]

def isWhiteSpace (c : Char) : Bool := inRanges whiteSpaceRanges c.toNat

/-- Blanks separate the words of a logged statement: white space and the four
information separators U+001C to U+001F. -/
def isBlank (c : Char) : Bool := isWhiteSpace c || inRanges [(0x1C, 0x1F)] c.toNat

/-- A character that a quoted literal shows as it is. -/
def isPrintable (c : Char) : Bool := !inAscending c.toNat hiddenRanges

/-- A character of words: a letter, a digit or an underscore. -/
def isWordChar (c : Char) : Bool := inAscending c.toNat wordRanges

/-- The code points of the digit zero in every script; the other nine digits
of the script follow each of them. -/
def zeroDigits : List Nat :=
  [0x30, 0x660, 0x6F0, 0x7C0, 0x966, 0x9E6, 0xA66, 0xAE6, 0xB66, 0xBE6, 0xC66,
   0xCE6, 0xD66, 0xDE6, 0xE50, 0xED0, 0xF20, 0x1040, 0x1090, 0x17E0, 0x1810,
   0x1946, 0x19D0, 0x1A80, 0x1A90, 0x1B50, 0x1BB0, 0x1C40, 0x1C50, 0xA620,
   0xA8D0, 0xA900, 0xA9D0, 0xA9F0, 0xAA50, 0xABF0, 0xFF10, 0x104A0, 0x10D30,
   0x11066, 0x110F0, 0x11136, 0x111D0, 0x112F0, 0x11450, 0x114D0, 0x11650,
   0x116C0, 0x11730, 0x118E0, 0x11950, 0x11C50, 0x11D50, 0x11DA0,
   0x16A60, 0x16AC0, 0x16B50, 0x1D7CE, 0x1D7D8, 0x1D7E2, 0x1D7EC, 0x1D7F6,
   0x1E140, 0x1E2F0, 0x1E950, 0x1FBF0]

def digitValue? (c : Char) : Option Nat :=
  (zeroDigits.find? fun start => start ≤ c.toNat && c.toNat < start + 10).map (c.toNat - ·)

def asciiDigitValue? (c : Char) : Option Nat :=
  if '0' ≤ c ∧ c ≤ '9' then some (c.toNat - '0'.toNat) else none

def trim (drops : Char → Bool) (cs : List Char) : List Char :=
  ((cs.dropWhile drops).reverse.dropWhile drops).reverse

/-- The maximal runs of characters outside a class. -/
def wordsBy (separates : Char → Bool) (cs : List Char) : List (List Char) :=
  go [] cs
where
  /-- Reads on with the letters of the current word, last letter first. -/
  go (word : List Char) : List Char → List (List Char)
    | [] => if word.isEmpty then [] else [word.reverse]
    | c :: rest =>
      if separates c then
        if word.isEmpty then go [] rest else word.reverse :: go [] rest
      else go (c :: word) rest

/-- Puts the words of a text on one line, with one space between two words. -/
def onOneLine (text : String) : String :=
  " ".intercalate ((wordsBy isBlank text.toList).map String.ofList)

end TableSearch
