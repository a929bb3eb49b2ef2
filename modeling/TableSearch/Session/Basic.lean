import TableSearch.Failure
import TableSearch.Session.Log
import TableSearch.Sql.Statement

/-!
# Sessions

A session is the state in which operations run: the world outside, the bindings
known so far, and the record of what happened.  The world is any type that
answers statements; the library learns about it through `World` alone.
-/

namespace TableSearch

open Sql

/-- What the database answers to a statement.  Only a statement that yields rows
has columns, and a negative number of affected rows is an unknown one. -/
structure ResultSet where
  columns : Option (List String) := none
  rows : List (List Value) := []
  affected : Int := 0

/-- The world in which a session runs. -/
class World (σ : Type) where
  /-- Executes a statement; a refusal has a message. -/
  execute : Statement → σ → Except String ResultSet × σ
  /-- Runs the user's initialization hook, and tells whether it succeeds. -/
  runHook : σ → Bool × σ
  /-- The time in seconds. -/
  now : σ → Binary64

/-- What happened, as seen from outside. -/
inductive Event where
  | statement (statement : Statement)
  | hook
  /-- The owner of a handle is asked to initialize itself. -/
  | ensureReady
  | dispose

/-- The state in which operations run. -/
structure Session (σ : Type) where
  world : σ
  /-- Whether the registry is initialized. -/
  ready : Bool := false
  /-- The bindings known so far. -/
  bindings : List (String × Binding) := []
  events : List Event := []
  log : List LogEntry := []

/-- An operation on a session.  What it did before a failure stays done. -/
abbrev Operation (σ α : Type) := ExceptT Failure (StateM (Session σ)) α

namespace Operation

variable {σ : Type}

def record (event : Event) : Operation σ Unit :=
  modify fun session => { session with events := session.events ++ [event] }

def log (entry : LogEntry) : Operation σ Unit :=
  modify fun session => { session with log := session.log ++ [entry] }

def ofConversion {α : Type} (result : Except ConversionError α) : Operation σ α :=
  ofExcept (Failure.ofConversion result)

def ofChecked {α : Type} (result : Checked α) : Operation σ α := ofExcept (Failure.ofChecked result)

def perform {α : Type} (action : Operation σ α) (session : Session σ) :
    Except Failure α × Session σ :=
  StateT.run (ExceptT.run action) session

end Operation

end TableSearch
