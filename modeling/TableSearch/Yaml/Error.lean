/-!
# Why a YAML text has no value

Most texts that have no value break the notation.  A text that keeps to it can
still hold a scalar that does not denote what its tag promises.
-/

namespace TableSearch

inductive YamlError where
  /-- The text breaks the notation, or a node is not of the kind that is needed at
  its place. -/
  | malformed
  /-- A number without number form, a date that no calendar has, or an escape
  beyond the last character. -/
  | noSuchValue
  /-- A number beyond the range of its kind. -/
  | outOfRange
  /-- A truth value is asked for, and the scalar is none of the words for one. -/
  | unknownFlag
  /-- A number is asked for, and nothing is there to begin with. -/
  | emptyNumber
  /-- A timestamp is asked for, and the scalar has not the form of one. -/
  | noTimestamp
  /-- A timestamp is asked for, and the node is a mapping. -/
  | structuredTimestamp
deriving DecidableEq, Repr

end TableSearch
