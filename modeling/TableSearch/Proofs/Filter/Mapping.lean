import Mathlib.Tactic.SplitIfs
import TableSearch.Filter.Reader
import TableSearch.Proofs.Results

/-!
# The entries of a filter mapping

A filter mapping is read entry by entry, and each entry is read in one of five ways.
`EntryRead` lists them, so that a fact about filters that were read is shown for these
five and not along the branches of the reader.
-/

namespace TableSearch.Filter

def readEntry (key : String) (value : Value) : Except FilterError (List Filter) :=
  if key = "$and" then
    match value with
    | .list items => do pure [.allOf (← readAll items)]
    | .tuple items => do pure [.allOf (← readAll items)]
    | _ => throw (.notAListOfFilters key)
  else if key = "$or" then
    match value with
    | .list items => do pure [.anyOf (← readAll items)]
    | .tuple items => do pure [.anyOf (← readAll items)]
    | _ => throw (.notAListOfFilters key)
  else if key = "$not" then
    match value with
    | .map entries => do pure [.negation (.conjunction (← readEntries entries))]
    | _ => throw .notAFilter
  else if isOperatorKey key then throw (.unknownLogicalOperator key)
  else
    match value with
    | .map operators =>
      if operators.isEmpty || hasOperators value then readOperators key operators
      else pure [readShorthand key value]
    | _ => pure [readShorthand key value]

theorem readEntries_cons (key : String) (value : Value) (rest : Entries) :
    readEntries ((key, value) :: rest) = do
      let parts ← readEntry key value
      return parts ++ (← readEntries rest) := by
  cases value <;> rw [readEntries] <;> try (intro _ same; cases same)
  all_goals
    simp only [readEntry]
    split_ifs <;> simp only [bind_assoc, pure_bind]

/-- How an entry is read, if it is. -/
inductive EntryRead : String → Value → List Filter → Prop where
  | allOf {value : Value} {items : List Value} {parts : List Filter}
      (listed : value.items? = some items) (each : readAll items = .ok parts) :
      EntryRead "$and" value [.allOf parts]
  | anyOf {value : Value} {items : List Value} {parts : List Filter}
      (listed : value.items? = some items) (each : readAll items = .ok parts) :
      EntryRead "$or" value [.anyOf parts]
  | negation {value : Value} {entries : Entries} {parts : List Filter}
      (mapping : value = .map entries) (each : readEntries entries = .ok parts) :
      EntryRead "$not" value [.negation (.conjunction parts)]
  | operators {key : String} {value : Value} {entries : Entries} {parts : List Filter}
      (isField : isOperatorKey key = false) (mapping : value = .map entries)
      (chosen : entries.isEmpty = true ∨ hasOperators value = true)
      (each : readOperators key entries = .ok parts) : EntryRead key value parts
  | shorthand {key : String} {value : Value} (isField : isOperatorKey key = false)
      (plain : ∀ entries, value = .map entries →
        entries.isEmpty = false ∧ hasOperators value = false) :
      EntryRead key value [readShorthand key value]

theorem entryRead_of_readEntry {key : String} {value : Value} {parts : List Filter}
    (accepted : readEntry key value = .ok parts) : EntryRead key value parts := by
  unfold readEntry at accepted
  split_ifs at accepted with isAnd isOr isNot isOther
  · subst isAnd
    cases value with
    | list items | tuple items =>
      simp only [bind_eq_ok, pure_eq_ok] at accepted
      obtain ⟨inner, each, rfl⟩ := accepted
      exact .allOf rfl each
    | _ => cases accepted
  · subst isOr
    cases value with
    | list items | tuple items =>
      simp only [bind_eq_ok, pure_eq_ok] at accepted
      obtain ⟨inner, each, rfl⟩ := accepted
      exact .anyOf rfl each
    | _ => cases accepted
  · subst isNot
    cases value with
    | map entries =>
      simp only [bind_eq_ok, pure_eq_ok] at accepted
      obtain ⟨inner, each, rfl⟩ := accepted
      exact .negation rfl each
    | _ => cases accepted
  · have isField : isOperatorKey key = false := by simpa using isOther
    cases value with
    | map entries =>
      simp only at accepted
      split_ifs at accepted with chosen
      · exact .operators isField rfl (by simpa using chosen) accepted
      · obtain rfl : [readShorthand key (.map entries)] = parts := pure_eq_ok.mp accepted
        -- A mapping that holds no operators is an operand like any other value.
        refine .shorthand isField fun others same => ?_
        obtain rfl : entries = others := by simpa using same
        simpa using chosen
    | _ =>
      obtain rfl := pure_eq_ok.mp accepted
      exact .shorthand isField (by simp)

end TableSearch.Filter
