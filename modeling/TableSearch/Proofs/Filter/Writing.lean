import TableSearch.Filter.Predicate
import TableSearch.Proofs.Filter.Mapping

/-!
# When the predicate of a filter is written

A predicate is written exactly when every operand that stands for several values can
be gone through (`predicate_succeeds`).  This is so for every filter that was read
from a mapping (`isListed_of_read`), so the predicate of such a filter is never
refused.
-/

namespace TableSearch.Filter

open Sql

/-! ## When a predicate is written -/

mutual

/-- Whether each operand that stands for several values can be gone through. -/
def isListed : Filter → Bool
  | conjunction parts => areListed parts
  | allOf parts => areListed parts
  | anyOf parts => areListed parts
  | negation part => isListed part
  | isNull _ => true
  | compare _ op operand =>
    match op with
    | .among | .notAmong => operand.elements?.isSome
    | _ => true

def areListed : List Filter → Bool
  | [] => true
  | part :: rest => isListed part && areListed rest

end

theorem toList_succeeds {value : Value} :
    (∃ items, value.toList = .ok items) ↔ value.elements?.isSome = true := by
  unfold Value.toList
  cases value.elements? <;> simp [Value.orElse]

theorem comparison_succeeds {column : String} {next : Int} {field : String} {op : FieldOp}
    {operand : Value} :
    (∃ clause, comparison column next op operand = .ok clause) ↔
      isListed (.compare field op operand) = true := by
  cases op with
  | among | notAmong =>
    simp only [comparison, isListed, bind_eq_ok, pure_eq_ok, ← toList_succeeds]
    constructor
    · rintro ⟨_, items, listed, -⟩
      exact ⟨items, listed⟩
    · rintro ⟨items, listed⟩
      exact ⟨_, items, listed, rfl⟩
  | _ => simp [comparison, comparison.plain, isListed, pure, Except.pure]

mutual

/-- A predicate is written exactly when each list of members can be gone through. -/
theorem predicate_succeeds (column : String → String) (next : Int) (filter : Filter) :
    (∃ clause, predicate column next filter = .ok clause) ↔ isListed filter = true := by
  cases filter with
  | conjunction parts | allOf parts | anyOf parts =>
    simp only [predicate, isListed, bind_eq_ok, pure_eq_ok, ← predicates_succeed column next parts]
    constructor
    · rintro ⟨_, clauses, each, -⟩
      exact ⟨clauses, each⟩
    · rintro ⟨clauses, each⟩
      exact ⟨_, clauses, each, rfl⟩
  | negation part =>
    simp only [predicate, isListed, bind_eq_ok, ← predicate_succeeds column next part]
    constructor
    · rintro ⟨_, inner, compiled, -⟩
      exact ⟨inner, compiled⟩
    · rintro ⟨inner, compiled⟩
      cases empty : inner.fragment.isEmpty with
      | true => exact ⟨inner, inner, compiled, by simp [empty, pure, Except.pure]⟩
      | false => exact ⟨_, inner, compiled, by simp [empty]; rfl⟩
  | isNull field => simp [predicate, isListed, pure, Except.pure]
  | compare field op operand => exact comparison_succeeds

theorem predicates_succeed (column : String → String) (next : Int) (parts : List Filter) :
    (∃ clauses, predicates column next parts = .ok clauses) ↔ areListed parts = true := by
  cases parts with
  | nil => simp [predicates, areListed, pure, Except.pure]
  | cons part rest =>
    simp only [predicates, areListed, Bool.and_eq_true, bind_eq_ok, pure_eq_ok]
    rw [← predicate_succeeds column next part]
    constructor
    · rintro ⟨_, clause, compiled, others, compiledRest, -⟩
      exact ⟨⟨clause, compiled⟩, (predicates_succeed column _ rest).mp ⟨others, compiledRest⟩⟩
    · rintro ⟨⟨clause, compiled⟩, listed⟩
      obtain ⟨others, compiledRest⟩ :=
        (predicates_succeed column (next + clause.params.length) rest).mpr listed
      exact ⟨_, clause, compiled, others, compiledRest, rfl⟩

end

/-! ## Filters that are read -/

@[simp] theorem areListed_append (front rest : List Filter) :
    areListed (front ++ rest) = (areListed front && areListed rest) := by
  induction front with
  | nil => rfl
  | cons part front ih => simp [areListed, ih, Bool.and_assoc]

theorem isListed_of_checkOperand {field : String} {op : FieldOp} {operand : Value}
    (checked : checkOperand field op operand = .ok ()) :
    isListed (.compare field op operand) = true := by
  have listed : operand.items?.isSome = true → operand.elements?.isSome = true := by
    cases operand <;> simp [Value.items?, Value.elements?]
  cases op with
  | among | notAmong =>
    simp only [checkOperand] at checked
    split at checked
    next items => exact listed items
    next => cases checked
  | _ => rfl

theorem areListed_of_readOperators {field : String} {operators : Entries} {parts : List Filter}
    (accepted : readOperators field operators = .ok parts) : areListed parts = true := by
  unfold readOperators at accepted
  split at accepted
  next => cases accepted
  next =>
    simp only [bind_eq_ok, pure_eq_ok, mapM_eq_ok] at accepted
    obtain ⟨lists, each, rfl⟩ := accepted
    -- That the operators are all of them does not matter here, and the induction needs any list.
    generalize FieldOp.all = ops at each
    induction each with
    | nil => rfl
    | cons first others ih =>
      rw [List.flatten_cons, areListed_append, ih, Bool.and_true]
      unfold readOperator at first
      split at first
      next => cases first; rfl
      next =>
        simp only [bind_eq_ok, pure_eq_ok] at first
        obtain ⟨⟨⟩, checked, rfl⟩ := first
        simp [areListed, isListed_of_checkOperand checked]

theorem isListed_readShorthand (field : String) (value : Value) :
    isListed (readShorthand field value) = true := by
  cases value <;> rfl

theorem sizeOf_items {value : Value} {items : List Value} (listed : value.items? = some items) :
    sizeOf items < sizeOf value := by
  cases value with
  | list | tuple =>
    obtain rfl := Option.some.inj listed
    simp
  | _ => cases listed

mutual

/-- A filter that was read from a mapping lists its members wherever it has to. -/
theorem isListed_of_read (value : Value) {filter : Filter} (accepted : read value = .ok filter) :
    isListed filter = true := by
  cases value with
  | map entries =>
    simp only [read, bind_eq_ok, pure_eq_ok] at accepted
    obtain ⟨parts, accepted, rfl⟩ := accepted
    exact areListed_of_readEntries entries accepted
  | _ => cases accepted
termination_by sizeOf value

theorem areListed_of_readAll (values : List Value) {parts : List Filter}
    (accepted : readAll values = .ok parts) : areListed parts = true := by
  cases values with
  | nil =>
    simp only [readAll, pure_eq_ok] at accepted
    subst accepted
    rfl
  | cons value rest =>
    simp only [readAll, bind_eq_ok, pure_eq_ok] at accepted
    obtain ⟨part, first, others, accepted, rfl⟩ := accepted
    simp [areListed, isListed_of_read value first, areListed_of_readAll rest accepted]
termination_by sizeOf values

theorem areListed_of_readEntries (entries : List (String × Value)) {parts : List Filter}
    (accepted : readEntries entries = .ok parts) : areListed parts = true := by
  match entries, accepted with
  | [], accepted =>
    simp only [readEntries, pure_eq_ok] at accepted
    subst accepted
    rfl
  | (key, value) :: rest, accepted =>
    simp only [readEntries_cons, bind_eq_ok, pure_eq_ok] at accepted
    obtain ⟨front, first, others, behind, rfl⟩ := accepted
    rw [areListed_append, areListed_of_readEntries rest behind, Bool.and_true]
    cases entryRead_of_readEntry first with
    | allOf listed each | anyOf listed each =>
      have smaller := sizeOf_items listed
      simp [areListed, isListed, areListed_of_readAll _ each]
    | @negation _ entries _ mapping each =>
      -- The recursion goes to the entries below the value, past the filter that they make up.
      have smaller : sizeOf entries < sizeOf value := by simp [mapping]
      simp [areListed, isListed, areListed_of_readEntries _ each]
    | operators _ _ _ each => exact areListed_of_readOperators each
    | shorthand => simp [areListed, isListed_readShorthand]
termination_by sizeOf entries
decreasing_by all_goals (simp only [List.cons.sizeOf_spec, Prod.mk.sizeOf_spec]; omega)

end

end TableSearch.Filter
