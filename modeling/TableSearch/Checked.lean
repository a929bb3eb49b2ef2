import TableSearch.Text.Literal

/-!
# Checked results

Reading a record checks every field and reports all faults together, each with
the way to the part at fault and its cause.  `Checked` collects them: where two
parts are combined, the faults of the first come before those of the second.
-/

namespace TableSearch

/-- One step on the way into a value: to the entry of a key, into one of several
alternatives, or to an item. -/
inductive Step where
  | key (name : String)
  | index (position : Int)
deriving DecidableEq, Repr

/-- A rule of the domain that a well-formed field can still break. -/
inductive Rule where
  | knownFieldType (name : String)
  | knownLogLevel (name : String)
  | databaseUrl
deriving DecidableEq, Repr

def Rule.message : Rule → String
  | knownFieldType name => "Unknown field type: " ++ Literal.ofText name
  | knownLogLevel name => "Unknown log level: " ++ name
  | databaseUrl => "database_url must be a postgresql URL"

/-- What is wrong with a part of a value. -/
inductive Cause where
  | missing
  | notText
  | undecodableText
  | notInteger
  | malformedInteger
  /-- An integer beyond the range that its notation allows. -/
  | oversizedInteger
  | fractional
  | notFinite
  | notNumber
  | malformedNumber
  | notFlag
  | malformedFlag
  /-- No member of an enumeration. -/
  | notMember
  /-- Not one of the texts that are allowed here. -/
  | notChoice
  | notAbove
  | notAtLeast
  | notRecord
  | notMapping
  | notList
  | notEngine
  | notCallable
  | broken (rule : Rule)
deriving DecidableEq, Repr

/-- A part of a value that cannot be used, and why. -/
structure Fault where
  path : List Step
  cause : Cause
deriving DecidableEq, Repr

/-- A result, or the faults that stand against it. -/
inductive Checked (α : Type) where
  | valid (a : α)
  | invalid (faults : List Fault)

namespace Checked

def faults {α : Type} : Checked α → List Fault
  | valid _ => []
  | invalid faults => faults

instance : Functor Checked where
  map f
    | valid a => valid (f a)
    | invalid faults => invalid faults

instance : Applicative Checked where
  pure := valid
  seq
    | valid f, a => f <$> a ()
    | invalid faults, a => invalid (faults ++ (a ()).faults)

def fault {α : Type} (cause : Cause) : Checked α := invalid [⟨[], cause⟩]

def within {α : Type} (step : Step) : Checked α → Checked α
  | valid a => valid a
  | invalid faults => invalid (faults.map fun f => { f with path := step :: f.path })

def andThen {α β : Type} (checked : Checked α) (next : α → Checked β) : Checked β :=
  match checked with
  | valid a => next a
  | invalid faults => invalid faults

/-- Two alternatives: the first that is valid, or the faults of both. -/
def orElse {α : Type} : Checked α → Checked α → Checked α
  | valid a, _ => valid a
  | invalid _, valid a => valid a
  | invalid first, invalid second => invalid (first ++ second)

def each {α β : Type} (check : Nat → α → Checked β) (position : Nat) : List α → Checked (List β)
  | [] => valid []
  | a :: rest => List.cons <$> check position a <*> each check (position + 1) rest

end Checked

end TableSearch
