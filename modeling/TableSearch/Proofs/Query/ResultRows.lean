import TableSearch.Proofs.Index.Projection
import TableSearch.Proofs.Query.Scoring

/-!
# The rows of a result

What a statement yields for a row of its table is read off its text: the items between the commas
of its selection say under which names, and of which columns, the values are yielded.
-/

namespace TableSearch

open Sql

namespace Sql

/-- The name under which an item of a selection is yielded: its alias, or else the name of the
column that it is. -/
def outputName? (item : List Token) : Option String :=
  match item.reverse with
  | .word given :: .word "as" :: _ => some given
  | [.name column] => some column
  | _ => none

/-- What an item yields for a row whose columns hold some values.  An item that is no column is the
expression of the score. -/
def outputValue (stored : String → Value) (score : Value) : List Token → Value
  | [.name column] => stored column
  | [.name column, .word "as", .word _] => stored column
  | _ => score

def resultRow (statement : List Token) (stored : String → Value) (score : Value) :
    Except ConversionError Row :=
  let items := (clauseAt "SELECT" statement).splitOn (.mark ',')
  match items.mapM outputName? with
  | some names => Row.ofValues names (items.map (outputValue stored score))
  | none => .error .wrongForm

end Sql

namespace Output

theorem outputName?_tokens (output : Output) : outputName? output.tokens = some output.name := by
  cases output with
  | key | stored => rfl
  | score ranking =>
    cases ranking with
    | none => rfl
    | some ranking => simp [outputName?, tokens, name, Binding.scoreName]

theorem outputValue_tokens (output : Output) (stored : String → Value) (score : Value) :
    outputValue stored score output.tokens = output.value stored score := by
  cases output with
  | key | stored => rfl
  | score ranking =>
    cases ranking with
    | none => rfl
    | some ranking =>
      obtain ⟨column, metric, vector⟩ := ranking
      cases metric <;> rfl

theorem mapM_outputName? (outputs : List Output) :
    (outputs.map tokens).mapM outputName? = some (outputs.map name) := by
  induction outputs with
  | nil => rfl
  | cons output rest ih =>
    rw [List.map_cons, List.mapM_cons, outputName?_tokens, ih]
    rfl

end Output

namespace Search

theorem resultRow_tokens (search : Search) (stored : String → Value) (score : Value) :
    resultRow search.tokens stored score = search.row stored score := by
  rw [resultRow, clauseAt_selection, splitOn_selectionTokens, row, outputs]
  simp only [Output.mapM_outputName?, List.map_map, Function.comp_def, Output.outputValue_tokens]

/-- The row that a search makes of a stored row is the one that its statement yields. -/
theorem resultRow_text {search : Search} {clause : Clause} (written : search.clause = .ok clause)
    (stored : String → Value) (score : Value) :
    resultRow (Sql.tokens clause.text) stored score = search.row stored score := by
  rw [tokens_text written, resultRow_tokens]

end Search

end TableSearch
