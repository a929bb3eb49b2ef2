import TableSearch.Yaml.Timestamp

/-!
# Tags

The tag of a node says what it stands for.  A node without a tag has one all the same:
collections are lists and mappings, quoted scalars are texts, and the form of a plain
scalar decides what it is.
-/

namespace TableSearch.Yaml

inductive Tag where
  | null
  | flag
  | integer
  | real
  | binary
  | timestamp
  | text
  | list
  | map
  /-- A mapping of which only the keys count. -/
  | set
  /-- A list of mappings with one entry each. -/
  | pairs
  /-- A key that takes over the entries of another mapping. -/
  | merge
  /-- A key for the scalar that a mapping may stand for. -/
  | standIn
  /-- Any other tag. -/
  | unknown
deriving DecidableEq, Repr

namespace Tag

def standard : String := "tag:yaml.org,2002:"

def ofUri (uri : String) : Tag :=
  if !standard.toList.isPrefixOf uri.toList then unknown
  else
    match String.ofList (uri.toList.drop standard.length) with
    | "null" => null
    | "bool" => flag
    | "int" => integer
    | "float" => real
    | "binary" => binary
    | "timestamp" => timestamp
    | "str" => text
    | "seq" => list
    | "map" => map
    | "set" => set
    | "omap" => pairs
    | "pairs" => pairs
    | "merge" => merge
    | "value" => standIn
    | _ => unknown

/-- Whether what a node with the tag stands for can serve as a key. -/
def isKey (tag : Tag) : Bool := !([list, map, set, pairs].contains tag)

/-! ## The forms of plain scalars -/

def nullWords : List String := ["", "~", "null", "Null", "NULL"]

def flagWords : List String :=
  ["yes", "Yes", "YES", "no", "No", "NO", "true", "True", "TRUE", "false", "False", "FALSE",
   "on", "On", "ON", "off", "Off", "OFF"]

def isGrouped (isDigit : Char → Bool) (c : Char) : Bool := isDigit c || c == '_'

/-- Whether a text consists of parts below sixty, each behind a colon, and ends with
what `ends` allows. -/
def areSixtieths (ends : List Char → Bool) : List Char → Bool
  | ':' :: a :: b :: rest =>
    if b.isDigit then '0' ≤ a && a ≤ '5' && (ends rest || areSixtieths ends rest)
    else a.isDigit && (ends (b :: rest) || areSixtieths ends (b :: rest))
  | [':', a] => a.isDigit && ends []
  | _ => false

/-- Whether a text without sign is an integer: binary, octal, hexadecimal, decimal, or
to the base of sixty. -/
def isUnsignedInteger : List Char → Bool
  | '0' :: 'b' :: digits => !digits.isEmpty && digits.all (isGrouped fun c => c == '0' || c == '1')
  | '0' :: 'x' :: digits =>
    !digits.isEmpty &&
      digits.all (isGrouped fun c => c.isDigit || ('a' ≤ c && c ≤ 'f') || ('A' ≤ c && c ≤ 'F'))
  | '0' :: digits => digits.all (isGrouped fun c => '0' ≤ c && c ≤ '7')
  | c :: rest =>
    let behind := rest.dropWhile (isGrouped Char.isDigit)
    '1' ≤ c && c ≤ '9' && (behind.isEmpty || areSixtieths List.isEmpty behind)
  | [] => false

def isInteger (cs : List Char) : Bool := isUnsignedInteger (takeSign cs).2

def isExponent : List Char → Bool
  | [] => true
  | c :: sign :: digits =>
    (c == 'e' || c == 'E') && (sign == '+' || sign == '-') && !digits.isEmpty &&
      digits.all Char.isDigit
  | _ => false

def isFraction : List Char → Bool
  | '.' :: rest => isExponent (rest.dropWhile (isGrouped Char.isDigit))
  | _ => false

def isShortFraction : List Char → Bool
  | '.' :: rest => rest.all (isGrouped Char.isDigit)
  | _ => false

/-- Whether a text is a real number, which always has a point. -/
def isReal (cs : List Char) : Bool :=
  let unsigned := (takeSign cs).2
  let behind := unsigned.dropWhile (isGrouped Char.isDigit)
  [".inf", ".Inf", ".INF"].contains (String.ofList unsigned) ||
    [".nan", ".NaN", ".NAN"].contains (String.ofList cs) ||
    (unsigned.head?.any Char.isDigit && (isFraction behind || areSixtieths isShortFraction behind)) ||
    ((cs.drop 1).head?.any Char.isDigit && isFraction cs)

/-- Whether a text is a timestamp.  A date alone is written in full. -/
def isTimestamp (cs : List Char) : Bool :=
  (Timestamp.read? cs).any fun t => t.full || t.time.isSome

/-- The text without the one end of line that may stand behind a scalar. -/
def dropLastBreak (s : String) : String :=
  if s.toList.getLast? = some '\n' then String.ofList s.toList.dropLast else s

def ofForm (s : String) : Tag :=
  if nullWords.contains s then null
  else
    let s := dropLastBreak s
    let cs := s.toList
    if s.isEmpty then text
    else if flagWords.contains s then flag
    else if isReal cs then real
    else if isInteger cs then integer
    else if s = "<<" then merge
    else if nullWords.contains s then null
    else if isTimestamp cs then timestamp
    else if s = "=" then standIn
    else text

end Tag

end TableSearch.Yaml
