import TableSearch.Session.Basic

/-!
# Execution

Runs a statement and turns the answer of the database into rows.  When a column
name repeats, the first of the columns wins.
-/

namespace TableSearch

open Sql

abbrev Row := Entries

namespace Row

def ofValues (columns : List String) (values : List Value) : Except ConversionError Row :=
  if columns.length = values.length then
    .ok <| (columns.zip values).foldl
      (fun row entry => if hasEntry entry.1 row then row else row ++ [entry]) []
  else .error .wrongForm

def column (row : Row) (name : String) : Except ConversionError Value :=
  Value.orElse (.missingColumn name) (row.lookup name)

end Row

structure Outcome where
  rows : List Row := []
  affected : Int := 0

namespace Outcome

/-- Reads the answer of the database.  An unknown number of affected rows is taken
to be that of the rows. -/
def ofResult (result : ResultSet) : Except ConversionError Outcome := do
  let rows ← match result.columns with
    | none => pure []
    | some columns => result.rows.mapM (Row.ofValues columns)
  return { rows, affected := if result.affected < 0 then rows.length else result.affected }

end Outcome

namespace Operation

variable {σ : Type} [World σ]

def send (statement : Statement) : Operation σ ResultSet := do
  record (.statement statement)
  let session ← get
  let (answer, world) := World.execute statement session.world
  set { session with world }
  match answer with
  | .ok result => pure result
  | .error message => throw (.database message)

def run (statement : Statement) : Operation σ Outcome := do
  log (.executing (onOneLine statement.text))
  let result ← send statement
  ofConversion (Outcome.ofResult result)

def run_ (statement : Statement) : Operation σ Unit := do
  let _ ← run statement

end Operation

end TableSearch
