import TableSearch.Value.Basic

/-!
# Filters

A filter is a tree of conditions on the fields of a document.  Its leaves
compare one field with one operand; its inner nodes join, offer as alternatives
or negate what stands below them.
-/

namespace TableSearch

/-- The operators between a field and an operand, in the order in which the
conditions on one field are evaluated. -/
inductive FieldOp where
  | equal
  | notEqual
  | greater
  | atLeast
  | less
  | atMost
  | among
  | notAmong
  | contains
  | startsWith
  | endsWith
  | present
deriving DecidableEq, Repr

namespace FieldOp

def all : List FieldOp :=
  [equal, notEqual, greater, atLeast, less, atMost, among, notAmong, contains, startsWith,
   endsWith, present]

/-- The key that stands for an operator in a filter mapping. -/
def key : FieldOp → String
  | equal => "$eq"
  | notEqual => "$neq"
  | greater => "$gt"
  | atLeast => "$gte"
  | less => "$lt"
  | atMost => "$lte"
  | among => "$in"
  | notAmong => "$nin"
  | contains => "$contains"
  | startsWith => "$startsWith"
  | endsWith => "$endsWith"
  | present => "$exists"

def ofKey? (key : String) : Option FieldOp := all.find? (·.key == key)

@[simp] theorem ofKey?_key (op : FieldOp) : ofKey? op.key = some op := by
  cases op <;> decide

theorem mem_all (op : FieldOp) : op ∈ all := by cases op <;> decide

end FieldOp

inductive Filter where
  /-- Conditions listed side by side; all of them must hold. -/
  | conjunction (parts : List Filter)
  /-- All of the filters must hold. -/
  | allOf (parts : List Filter)
  /-- One of the filters must hold. -/
  | anyOf (parts : List Filter)
  | negation (part : Filter)
  /-- The field has no value. -/
  | isNull (field : String)
  | compare (field : String) (op : FieldOp) (operand : Value)

namespace Filter

instance : Inhabited Filter := ⟨.conjunction []⟩

mutual

/-- Whether two filters have the same shape and equal operands. -/
def equals : Filter → Filter → Bool
  | conjunction xs, conjunction ys => equalParts xs ys
  | allOf xs, allOf ys => equalParts xs ys
  | anyOf xs, anyOf ys => equalParts xs ys
  | negation x, negation y => x.equals y
  | isNull f, isNull g => f == g
  | compare f op x, compare g op' y => f == g && op == op' && x.equals y
  | _, _ => false

def equalParts : List Filter → List Filter → Bool
  | [], [] => true
  | x :: xs, y :: ys => x.equals y && equalParts xs ys
  | _, _ => false

end

end Filter

end TableSearch
