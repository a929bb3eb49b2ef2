import TableSearch.Proofs.Filter.Reading
import TableSearch.Proofs.Sql.Placeholders

/-!
# The numbers in the predicate of a filter

The placeholders of a predicate are numbered one after the other from the given
start, and there are as many as parameters: `numbers_tokens` follows the numbering
through every nesting of groups, and past the parts that vanish.
-/

namespace TableSearch

open Sql

theorem body_inParens {inner : List Token} {found : List (Int × Bool)} (body : Body inner found) :
    Body (inParens inner) found := by
  have closed : Body (inner ++ [.mark ')']) (found ++ []) :=
    body.append (Body.nil.cons (by decide) (by decide)) (by decide)
  rw [List.append_nil] at closed
  exact closed.cons (by decide) (by decide)

namespace Filter

/-- The tokens of a predicate whose placeholders are numbered from `next` on. -/
abbrev Numbers (next : Int) (count : Nat) (tokens : List Token) : Prop :=
  Body tokens (plainNumbers next count)

/-- Parts whose placeholders are numbered throughout. -/
structure NumberParts (next : Int) (count : Nat) (parts : List (List Token)) : Prop where
  placeholders : parts.flatMap Sql.placeholders = plainNumbers next count
  inside : ∀ part ∈ parts, ∀ token ∈ part, beginsClause token = false

theorem NumberParts.nil (next : Int) : NumberParts next 0 [] := ⟨rfl, by simp⟩

/-- Behind one part the numbering goes on; a part without tokens has no number. -/
theorem NumberParts.cons {next : Int} {own count : Nat} {part : List Token}
    {parts : List (List Token)} (first : Numbers next own part)
    (rest : NumberParts (next + own) count parts) :
    NumberParts next (own + count) (kept part ++ parts) where
  placeholders := by
    have keeps : (kept part).flatMap Sql.placeholders = Sql.placeholders part := by
      cases part with
      | nil => rfl
      | cons => simp [kept]
    rw [List.flatMap_append, keeps, first.placeholders, rest.placeholders, plainNumbers_add]
  inside := by
    intro tokens member
    rcases List.mem_append.mp member with member | member
    · obtain ⟨-, rfl⟩ : _ ∧ tokens = part := by simpa [kept] using member
      exact first.inside
    · exact rest.inside tokens member

theorem NumberParts.connected {next : Int} {count : Nat} {parts : List (List Token)}
    {connective : String} (numbers : NumberParts next count parts)
    (known : connective = "AND" ∨ connective = "OR") :
    Numbers next count (connected connective parts) := by
  have plain : isJoint (.word connective) = true ∧ beginsClause (.word connective) = false := by
    rcases known with rfl | rfl <;> decide
  rw [Numbers, ← numbers.placeholders]
  exact Body.intercalate plain.1 plain.2 numbers.inside

theorem NumberParts.inParens {next : Int} {count : Nat} {parts : List (List Token)}
    (numbers : NumberParts next count parts) :
    NumberParts next count (parts.map TableSearch.inParens) where
  placeholders := by
    rw [List.flatMap_map, ← numbers.placeholders, List.flatMap_congr]
    intro part member
    exact (body_inParens ⟨rfl, numbers.inside part member⟩).placeholders
  inside := by
    intro part member
    obtain ⟨bare, among, rfl⟩ := List.mem_map.mp member
    exact (body_inParens ⟨rfl, numbers.inside bare among⟩).inside

theorem NumberParts.grouped {next : Int} {count : Nat} {parts : List (List Token)}
    {connective : String} (numbers : NumberParts next count parts)
    (known : connective = "AND" ∨ connective = "OR") :
    Numbers next count (grouped connective parts) := by
  have joined := numbers.inParens.connected known
  cases parts with
  | nil => exact joined
  | cons part rest => exact body_inParens joined

theorem numbers_comparison (column : String) (next : Int) (op : FieldOp) (operand : Value) :
    Numbers next (op.parameter? operand).toList.length (.name column :: op.tokens next operand) := by
  cases op with
  | present =>
    cases truth : operand.truthy <;>
      exact ⟨by simp [FieldOp.tokens, FieldOp.parameter?, truth, placeholders],
        by simp [FieldOp.tokens, truth, beginsClause, clauseWords]⟩
  | _ =>
    exact ⟨by simp [FieldOp.tokens, FieldOp.parameter?, placeholders, vectorCast, List.isPrefixOf],
      by simp [FieldOp.tokens, beginsClause, clauseWords]⟩

mutual

/-- The placeholders of a predicate are numbered from `next` on, one for each parameter. -/
theorem numbers_tokens (column : String → String) (next : Int) (filter : Filter) :
    Numbers next (operands filter).length (tokens column next filter) := by
  cases filter with
  | conjunction parts => exact (numbers_partTokens column next parts).connected (.inl rfl)
  | allOf parts => exact (numbers_partTokens column next parts).grouped (.inl rfl)
  | anyOf parts => exact (numbers_partTokens column next parts).grouped (.inr rfl)
  | negation part =>
    have inner := numbers_tokens column next part
    simp only [tokens, operands]
    cases empty : (tokens column next part).isEmpty with
    | true =>
      obtain none : tokens column next part = [] := by simpa using empty
      exact none ▸ inner
    | false =>
      exact (body_inParens inner).cons (by decide) (by decide)
  | isNull field => exact ⟨rfl, by simp [tokens, beginsClause, clauseWords]⟩
  | compare field op operand => exact numbers_comparison (column field) next op operand

theorem numbers_partTokens (column : String → String) (next : Int) (parts : List Filter) :
    NumberParts next (operandsOf parts).length (partTokens column next parts) := by
  cases parts with
  | nil => exact .nil next
  | cons part rest =>
    have first := numbers_tokens column next part
    have others := numbers_partTokens column (next + (operands part).length) rest
    simpa only [operandsOf, List.length_append, partTokens] using others.cons first

end

end Filter

end TableSearch
