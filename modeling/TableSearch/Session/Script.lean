import TableSearch.Index.Page
import TableSearch.Session.Execution

/-!
# Scripted worlds

A world that answers from a script, for running operations without a database.
Each statement is given the first answer left whose mark occurs in the text of the
statement, and nothing when there is none.
-/

namespace TableSearch

open Sql

def occursIn (part : List Char) : List Char → Bool
  | [] => part.isEmpty
  | c :: rest => part.isPrefixOf (c :: rest) || occursIn part rest

structure ScriptedAnswer where
  /-- The text that must occur in a statement. -/
  mark : String := ""
  result : Except String ResultSet

structure Script where
  answers : List ScriptedAnswer := []
  /-- For each run of the hook whether it succeeds; later runs do. -/
  hookRuns : List Bool := []
  clock : Binary64 := .zero

namespace Script

def isFor (statement : Statement) (answer : ScriptedAnswer) : Bool :=
  occursIn answer.mark.toList statement.text.toList

def execute (statement : Statement) (script : Script) : Except String ResultSet × Script :=
  match script.answers.find? (isFor statement) with
  | none => (.ok {}, script)
  | some answer =>
    (answer.result, { script with answers := script.answers.eraseP (isFor statement) })

instance : World Script where
  execute := execute
  runHook script := (script.hookRuns.headD true, { script with hookRuns := script.hookRuns.drop 1 })
  now script := script.clock

def append (script : Script) (answers : List ScriptedAnswer) : Script :=
  { script with answers := script.answers ++ answers }

end Script

/-- A listing that yields given pages in turn and empty ones after them, and that
keeps the parameters of every call. -/
structure ScriptedListing (α : Type) where
  responses : List (PageResponse α)
  calls : List PageParams := []

def ScriptedListing.loader {α : Type} (params : PageParams) :
    StateM (ScriptedListing α) (PageResponse α) := fun listing =>
  (listing.responses.headD {},
    { responses := listing.responses.drop 1, calls := listing.calls ++ [params] })

end TableSearch
