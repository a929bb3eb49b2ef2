import TableSearch.Proofs.Filter.Reading
import TableSearch.Proofs.Filter.Writing
import TableSearch.Proofs.Sql.Condition

/-!
# The meaning of a filter

The truth of a filter for a row is given by recursion on the filter; parts without
conditions have none and are passed over.  `predicate_means` is the main fact: a
database that reads the text of the predicate, with its parameters, finds a condition
of this truth for every row.

A conjunction adds no parentheses of its own, so its tokens extend the operands in
front of them; every other node ends as one operand.
-/

namespace TableSearch

open Sql

/-! ## Evaluation -/

/-- The test that an operator and its operand make of a column. -/
def FieldOp.condition (column : String) (operand : Value) : FieldOp → Condition
  | equal => .compares column .equal operand
  | notEqual => .compares column .notEqual operand
  | greater => .compares column .greater operand
  | atLeast => .compares column .atLeast operand
  | less => .compares column .less operand
  | atMost => .compares column .atMost operand
  | among => .equalsAny column (.list (operand.elements?.getD []))
  | notAmong => .differsFromAll column (.list (operand.elements?.getD []))
  | contains => .matchesPattern column (.text ("%" ++ operand.display ++ "%"))
  | startsWith => .matchesPattern column (.text (operand.display ++ "%"))
  | endsWith => .matchesPattern column (.text ("%" ++ operand.display))
  | present => if operand.truthy then .isNotNull column else .isNull column

namespace Filter

def given (joined : List Truth → Truth) (truths : List Truth) : Option Truth :=
  if truths.isEmpty then none else some (joined truths)

mutual

/-- The truth of a filter for a row, given that of each test of a column.  A filter without
conditions has none. -/
def truth? (column : String → String) (row : Condition → Truth) : Filter → Option Truth
  | conjunction parts => given Truth.all (truths column row parts)
  | allOf parts => given Truth.all (truths column row parts)
  | anyOf parts => given Truth.any (truths column row parts)
  | negation part => (truth? column row part).map Truth.not
  | isNull field => some (row (.isNull (column field)))
  | compare field op operand => some (row (op.condition (column field) operand))

def truths (column : String → String) (row : Condition → Truth) : List Filter → List Truth
  | [] => []
  | part :: rest => (truth? column row part).toList ++ truths column row rest

end

mutual

def hasCondition : Filter → Bool
  | conjunction parts => haveCondition parts
  | allOf parts => haveCondition parts
  | anyOf parts => haveCondition parts
  | negation part => hasCondition part
  | isNull _ => true
  | compare _ _ _ => true

def haveCondition : List Filter → Bool
  | [] => false
  | part :: rest => hasCondition part || haveCondition rest

end

/-! ## Parameters -/

/-- The value of a placeholder, when the first parameter has the number `start`. -/
def paramAt (start : Int) (params : List Value) (number : Int) : Option Value :=
  if number < start then none else params[(number - start).toNat]?

/-- Placeholders from `next` on that have the values of some parameters. -/
def Supplies (valueOf : Int → Option Value) (next : Int) (params : List Value) : Prop :=
  ∀ i value, params[i]? = some value → valueOf (next + (i : Nat)) = some value

theorem supplies_paramAt (start : Int) (params : List Value) :
    Supplies (paramAt start params) start params := by
  intro i value found
  have natural : ¬ start + (i : Int) < start := by omega
  have index : (start + (i : Int) - start).toNat = i := by omega
  rw [paramAt, if_neg natural, index, found]

variable {valueOf : Int → Option Value} {next : Int}

theorem Supplies.front {front rest : List Value} (supplies : Supplies valueOf next (front ++ rest)) :
    Supplies valueOf next front := by
  intro i value found
  apply supplies
  rw [List.getElem?_append_left, found]
  exact (List.getElem?_eq_some_iff.mp found).1

theorem Supplies.rest {front rest : List Value} (supplies : Supplies valueOf next (front ++ rest)) :
    Supplies valueOf (next + front.length) rest := by
  intro i value found
  have supplied := supplies (front.length + i) value
    (by rw [List.getElem?_append_right (by omega)]; simpa using found)
  simpa [Int.add_assoc] using supplied

theorem Supplies.head {value : Value} (supplies : Supplies valueOf next [value]) :
    valueOf next = some value := by
  simpa using supplies 0 value rfl

/-! ## Reading the predicate -/

variable {column : String → String} {row : Condition → Truth}

theorem comparison_holds {name : String} {op : FieldOp} {operand : Value}
    (supplies : Supplies valueOf next (op.parameter? operand).toList) :
    Holds valueOf row (.name name :: op.tokens next operand)
      (row (op.condition name operand)) := by
  cases op with
  | present =>
    simp only [FieldOp.tokens, FieldOp.condition]
    cases operand.truthy with
    | false => exact Holds.isNull name
    | true => exact Holds.isNotNull name
  | among => exact Holds.equalsAny supplies.head name
  | notAmong => exact Holds.differsFromAll supplies.head name
  | contains | startsWith | endsWith => exact Holds.matchesPattern supplies.head name
  | equal | notEqual | greater | atLeast | less | atMost =>
    exact Holds.compares supplies.head name rfl

/-- Tokens of a filter with a given truth; without any, there are no tokens. -/
def Means (valueOf : Int → Option Value) (row : Condition → Truth) (tokens : List Token) :
    Option Truth → Prop
  | none => tokens = []
  | some truth => tokens ≠ [] ∧ Holds valueOf row tokens truth

theorem means_connected {parts : List (List Token)} {truths : List Truth}
    (each : List.Forall₂ (Holds valueOf row) parts truths)
    (nonempty : ∀ part ∈ parts, part.isEmpty = false) :
    Means valueOf row (connected "AND" parts) (given Truth.all truths) := by
  have notEmpty : (connected "AND" parts).isEmpty = parts.isEmpty := connected_isEmpty nonempty
  cases parts with
  | nil =>
    cases each
    rfl
  | cons part rest =>
    have holds := Holds.intercalate each (by simp)
    cases each with
    | cons => exact ⟨by simpa using notEmpty, holds⟩

theorem holds_inParens {part : List Token} {truth : Truth} (holds : Holds valueOf row part truth) :
    Holds valueOf row (inParens part) truth := holds.offers.parens

theorem means_grouped_all {parts : List (List Token)} {truths : List Truth}
    (each : List.Forall₂ (Holds valueOf row) parts truths) :
    Means valueOf row (grouped "AND" parts) (given Truth.all truths) := by
  have inside : List.Forall₂ (Holds valueOf row) (parts.map inParens) truths :=
    List.forall₂_map_left_iff.mpr (each.imp fun _ _ => holds_inParens)
  cases each with
  | nil => rfl
  | cons => exact ⟨by simp [grouped, inParens], holds_inParens (.intercalate inside (by simp))⟩

theorem means_grouped_any {parts : List (List Token)} {truths : List Truth}
    (each : List.Forall₂ (Holds valueOf row) parts truths) :
    Means valueOf row (grouped "OR" parts) (given Truth.any truths) := by
  have inside : List.Forall₂ (Offers valueOf row) (parts.map inParens) truths :=
    List.forall₂_map_left_iff.mpr (each.imp fun _ _ holds => (holds_inParens holds).offers)
  cases each with
  | nil => rfl
  | cons =>
    exact ⟨by simp [grouped, inParens], (Offers.intercalate inside (by simp)).parens⟩

mutual

/-- The tokens of a predicate are read as a condition with the truth of the filter. -/
theorem tokens_mean (column : String → String) (next : Int) (filter : Filter)
    (supplies : Supplies valueOf next (operands filter)) :
    Means valueOf row (tokens column next filter) (truth? column row filter) := by
  cases filter with
  | conjunction parts =>
    exact means_connected (partTokens_hold column next parts supplies)
      (partTokens_nonempty column next parts)
  | allOf parts => exact means_grouped_all (partTokens_hold column next parts supplies)
  | anyOf parts => exact means_grouped_any (partTokens_hold column next parts supplies)
  | negation part =>
    have inner := tokens_mean column next part supplies
    simp only [tokens, truth?]
    cases truth : truth? column row part with
    -- A negation of nothing is nothing, and not the constant no.
    | none =>
      have none : tokens column next part = [] := by simpa [truth, Means] using inner
      simp [none, Means]
    | some t =>
      simp only [truth, Means] at inner
      obtain ⟨some, holds⟩ := inner
      have notEmpty : (tokens column next part).isEmpty = false := by simpa using some
      simp only [notEmpty, Option.map_some]
      exact ⟨by simp, holds.offers.not⟩
  | isNull field => exact ⟨by simp [tokens], Holds.isNull (column field)⟩
  | compare field op operand => exact ⟨by simp [tokens], comparison_holds supplies⟩

theorem partTokens_hold (column : String → String) (next : Int) (parts : List Filter)
    (supplies : Supplies valueOf next (operandsOf parts)) :
    List.Forall₂ (Holds valueOf row) (partTokens column next parts) (truths column row parts) := by
  cases parts with
  | nil => exact .nil
  | cons part rest =>
    have first : Means valueOf row _ (truth? column row part) :=
      tokens_mean column next part supplies.front
    have others : List.Forall₂ (Holds valueOf row) _ (truths column row rest) :=
      partTokens_hold column _ rest supplies.rest
    simp only [partTokens, truths]
    cases truth : truth? column row part with
    -- A part without tokens is passed over on both sides, so that the two lists stay in step.
    | none =>
      have none : tokens column next part = [] := by simpa [truth, Means] using first
      simpa [none, kept] using others
    | some t =>
      simp only [truth, Means] at first
      have notEmpty : kept (tokens column next part) = [tokens column next part] := by
        simp [kept, first.1]
      simpa [notEmpty] using List.Forall₂.cons first.2 others

end

/-! ## The main fact -/

mutual

theorem tokens_isEmpty (column : String → String) (next : Int) (filter : Filter) :
    (tokens column next filter).isEmpty = !hasCondition filter := by
  cases filter with
  | conjunction parts =>
    rw [tokens, connected_isEmpty (partTokens_nonempty column next parts), partTokens_isEmpty]
    rfl
  | allOf parts | anyOf parts =>
    rw [tokens, grouped_isEmpty, partTokens_isEmpty]
    rfl
  | negation part =>
    rw [tokens, tokens_isEmpty column next part]
    cases found : hasCondition part <;> simp [hasCondition, found]
  | isNull field => rfl
  | compare field op operand => rfl

theorem partTokens_isEmpty (column : String → String) (next : Int) (parts : List Filter) :
    (partTokens column next parts).isEmpty = !haveCondition parts := by
  cases parts with
  | nil => rfl
  | cons part rest =>
    have first := tokens_isEmpty column next part
    have others := partTokens_isEmpty column (next + (operands part).length) rest
    simp only [partTokens, haveCondition]
    cases found : hasCondition part with
    | false =>
      have none : tokens column next part = [] := by simpa [found] using first
      simpa [none, kept] using others
    | true =>
      have some : (tokens column next part).isEmpty = false := by simpa [found] using first
      simp [kept, some]

end

/-- A text is empty when its fragment is, since a fragment with pieces has tokens. -/
theorem text_eq_empty {clause : Clause} {tokens : List Token} {params : List Value}
    (read : Reads clause tokens params) : clause.text = "" ↔ tokens = [] := by
  have same : Sql.tokens clause.text = tokens := read.spells.read
  constructor
  · intro empty
    rw [← same, empty]
    rfl
  · intro none
    have noPieces : clause.fragment = [] := by simpa [none] using read.isEmpty
    rw [Clause.text, noPieces]
    rfl

mutual

theorem operands_eq_nil (filter : Filter) (none : hasCondition filter = false) :
    operands filter = [] := by
  cases filter with
  | conjunction parts | allOf parts | anyOf parts => exact operandsOf_eq_nil parts none
  | negation part => exact operands_eq_nil part none
  | isNull field => rfl
  | compare field op operand => cases none

theorem operandsOf_eq_nil (parts : List Filter) (none : haveCondition parts = false) :
    operandsOf parts = [] := by
  cases parts with
  | nil => rfl
  | cons part rest =>
    simp only [haveCondition, Bool.or_eq_false_iff] at none
    rw [operandsOf, operands_eq_nil part none.1, operandsOf_eq_nil rest none.2]
    rfl

end

/-- The text of a predicate, read with its parameters, is a condition with the truth of the
filter for every row.  There is a predicate whenever operands that are listed can be gone
through, and it is empty, without parameters, just when the filter has no conditions. -/
theorem predicate_means (column : String → String) (start : Int) (filter : Filter) :
    ((∃ clause, predicate column start filter = .ok clause) ↔ isListed filter = true) ∧
      ∀ clause, predicate column start filter = .ok clause →
        (clause.text ≠ "" →
          ∃ e, expr? (paramAt start clause.params) (Sql.tokens clause.text) = some e ∧
            ∀ row, truth? column row filter = some (e.truth row)) ∧
        (clause.text = "" ↔ hasCondition filter = false) ∧
        (clause.text = "" → clause.params = []) := by
  refine ⟨predicate_succeeds column start filter, fun clause compiled => ?_⟩
  have read := predicate_reads column start filter compiled
  have sameTokens : Sql.tokens clause.text = tokens column start filter := read.spells.read
  have isEmpty := tokens_isEmpty column start filter
  have textEmpty : clause.text = "" ↔ hasCondition filter = false := by
    rw [text_eq_empty read, ← List.isEmpty_iff, isEmpty, Bool.not_eq_true']
  refine ⟨fun nonempty => ?_, textEmpty, fun empty => ?_⟩
  · have supplies : Supplies (paramAt start clause.params) start (operands filter) := by
      rw [read.params]
      exact supplies_paramAt start (operands filter)
    have someTokens : tokens column start filter ≠ [] := fun none =>
      nonempty ((text_eq_empty read).mpr none)
    have meaning (row : Condition → Truth) : ∃ e,
        expr? (paramAt start clause.params) (Sql.tokens clause.text) = some e ∧
          truth? column row filter = some (e.truth row) := by
      have means : Means _ row _ _ := tokens_mean column start filter supplies
      cases truth : truth? column row filter with
      | none => exact absurd (by simpa [truth, Means] using means) someTokens
      | some t =>
        simp only [truth, Means] at means
        obtain ⟨e, found, rfl⟩ := means.2.expr?
        exact ⟨e, sameTokens ▸ found, rfl⟩
    -- reading does not depend on the row, so it is one condition for all of them
    obtain ⟨e, found, -⟩ := meaning fun _ => .unknown
    refine ⟨e, found, fun row => ?_⟩
    obtain ⟨other, found', truth⟩ := meaning row
    obtain rfl : e = other := Option.some.inj (found.symm.trans found')
    exact truth
  · rw [read.params, operands_eq_nil filter (textEmpty.mp empty)]

/-- For example, a negated group that loses a part keeps its place in the conjunction. -/
theorem predicate_means_nested :
    let filter : Filter := .conjunction
      [.compare "a" .greater (.int 1), .negation (.anyOf [.isNull "b", .conjunction []]),
       .compare "c" .among (.tuple [.int 2])]
    ∃ clause e, predicate id 5 filter = .ok clause ∧ clause.text ≠ "" ∧
      expr? (paramAt 5 clause.params) (Sql.tokens clause.text) = some e ∧
      ∀ row, truth? id row filter = some (e.truth row) := by
  intro filter
  obtain ⟨written, means⟩ := predicate_means id 5 filter
  obtain ⟨clause, compiled⟩ := written.mpr rfl
  obtain ⟨reads, isEmpty, -⟩ := means clause compiled
  have nonempty : clause.text ≠ "" := fun empty => absurd (isEmpty.mp empty) (by decide)
  obtain ⟨e, found, truth⟩ := reads nonempty
  exact ⟨clause, e, compiled, nonempty, found, truth⟩

end Filter

end TableSearch
