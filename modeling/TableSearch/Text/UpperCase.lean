/-!
# Upper case, as far as it reaches ASCII

A name made of ASCII capitals can be written in any case.  Beyond the ASCII
letters only ten characters have an upper-case form made of ASCII letters, so
these ten are all that a comparison with such a name has to know.
-/

namespace TableSearch

/-- The characters beyond ASCII whose upper-case form is ASCII. -/
def asciiCapitals : List (Char × List Char) :=
  [('ß', ['S', 'S']), ('ı', ['I']), ('ſ', ['S']),
   ('\ufb00', ['F', 'F']), ('\ufb01', ['F', 'I']), ('\ufb02', ['F', 'L']),
   ('\ufb03', ['F', 'F', 'I']), ('\ufb04', ['F', 'F', 'L']),
   ('\ufb05', ['S', 'T']), ('\ufb06', ['S', 'T'])]

/-- The upper-case form of a character if that form is ASCII, and otherwise
the character itself. -/
def capitals (c : Char) : List Char :=
  (asciiCapitals.lookup c).getD [c.toUpper]

def raiseCase (text : String) : String :=
  String.ofList (text.toList.flatMap capitals)

end TableSearch
