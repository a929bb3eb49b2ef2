/-!
# The tokens of a YAML text

A YAML text is a sequence of scalars, names and indicators.  The structure that
the columns of a text convey is made explicit by tokens of its own, for the
beginning of a collection, for its end and for a key.
-/

namespace TableSearch.Yaml

/-- What a scalar says.  An escape may name one half of a surrogate pair, which no
text can hold: the replacement character stands in its place, and the content is
no text. -/
structure Content where
  text : String
  isText : Bool := true
deriving DecidableEq, Repr

/-- A piece of a YAML text. -/
inductive Token where
  /-- The directive that states the version. -/
  | version (major : Nat)
  /-- The directive that declares a handle of tags. -/
  | handle (name start : String)
  /-- Any other directive. -/
  | directive
  | documentStart
  | documentEnd
  /-- A list begins whose items stand in lines. -/
  | blockList
  /-- A mapping begins whose entries stand in lines. -/
  | blockMap
  /-- A list or a mapping in lines ends. -/
  | blockEnd
  | openList
  | closeList
  | openMap
  | closeMap
  /-- The dash in front of an item. -/
  | item
  /-- What follows is a key. -/
  | key
  /-- What follows is the value of a key. -/
  | value
  | comma
  | alias (name : String)
  | anchor (name : String)
  /-- A tag, whose handle may be missing. -/
  | tag (handle : Option String) (suffix : String)
  | scalar (plain : Bool) (content : Content)
deriving DecidableEq, Repr

end TableSearch.Yaml
