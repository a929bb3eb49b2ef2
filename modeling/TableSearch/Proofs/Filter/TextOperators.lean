import TableSearch.Proofs.Filter.Grammar
import TableSearch.Proofs.Filter.Meaning
import TableSearch.Proofs.Sql.Pattern

/-!
# The operators on texts

A filter looks for a text in a field, at its beginning or at its end by a pattern that is made of
the text.  The text is not changed for this, and so a filter finds what the text means as a pattern.
-/

namespace TableSearch

open Sql

theorem Sql.expr?_matchesPattern {valueOf : Int → Option Value} {number : Int} {pattern : Value}
    (supplied : valueOf number = some pattern) (column : String) :
    expr? valueOf [.name column, .word "ILIKE", .slot number] =
      some (.test (.matchesPattern column pattern)) := by
  have complete : Reader.run valueOf (.awaiting [] {})
      [.name column, .word "ILIKE", .slot number] =
        some (.take [] {} (.test (.matchesPattern column pattern))) := by
    simp [Reader.run, Reader.step, condition?, supplied]
  rw [expr?, complete]
  rfl

def Sql.Occurrence.operator : Occurrence → FieldOp
  | anywhere => .contains
  | atFront => .startsWith
  | atEnd => .endsWith

namespace Filter

def textFilter (occurrence : Occurrence) (field operand : String) : Value :=
  .map [(field, .map [(occurrence.operator.key, .text operand)])]

def textTree (occurrence : Occurrence) (field operand : String) : Filter :=
  .conjunction [.compare field occurrence.operator (.text operand)]

theorem read_textFilter (occurrence : Occurrence) {field : String} (operand : String)
    (isField : isOperatorKey field = false) :
    read (textFilter occurrence field operand) = .ok (textTree occurrence field operand) := by
  have operators : readOperators field [(occurrence.operator.key, .text operand)] =
      .ok [.compare field occurrence.operator (.text operand)] := by
    cases occurrence <;> rfl
  have entry : readEntry field (.map [(occurrence.operator.key, .text operand)]) =
      .ok [.compare field occurrence.operator (.text operand)] := by
    refine readEntry_eq_ok.mpr (.operators isField rfl (.inr ?_) operators)
    exact List.any_eq_true.mpr ⟨_, List.mem_singleton_self _, isOperatorKey_key _⟩
  rw [textFilter, read, readEntries_cons, entry]
  rfl

/-- The predicate of this filter is a test of the column by a pattern, which the text is put into
as it is. -/
theorem predicate_textTree (column : String → String) (start : Int) (occurrence : Occurrence)
    (field operand : String) :
    ∃ clause, predicate column start (textTree occurrence field operand) = .ok clause ∧
      expr? (paramAt start clause.params) (Sql.tokens clause.text) =
        some (.test (.matchesPattern (column field) (.text (occurrence.wrap operand)))) := by
  have listed : isListed (textTree occurrence field operand) = true := by
    cases occurrence <;> rfl
  obtain ⟨clause, written⟩ := (predicate_succeeds column start _).mpr listed
  have reads := predicate_reads column start _ written
  have read : Sql.tokens clause.text = [.name (column field), .word "ILIKE", .slot start] := by
    have tokens : Sql.tokens clause.text = tokens column start _ := reads.spells.read
    rw [tokens]
    cases occurrence <;> rfl
  -- Each of the three operators binds its operand with the wildcards already around it.
  have params : clause.params = [.text (occurrence.wrap operand)] := by
    rw [reads.params]
    cases occurrence <;> rfl
  have supplied : paramAt start clause.params start = some (.text (occurrence.wrap operand)) := by
    rw [params]
    exact Supplies.head (supplies_paramAt start _)
  exact ⟨clause, written, read ▸ expr?_matchesPattern supplied (column field)⟩

/-- Every text is accepted as an operand.  It is looked for as the pattern that it spells, and a
backslash at its end takes the percent sign that follows for itself.  So the texts that are found
just where they occur, whatever rule there is for case, are those without percent sign, underscore
and backslash. -/
theorem looksFor_pattern (case : CaseFold) (column : String → String) (start : Int)
    (occurrence : Occurrence) {field : String} (operand : String)
    (isField : isOperatorKey field = false) :
    let own := Pattern.read false operand.toList
    let found (text : String) : Option Bool := iLike case (occurrence.wrap operand) text
    (∃ filter clause, read (textFilter occurrence field operand) = .ok filter ∧
      predicate column start filter = .ok clause ∧
      expr? (paramAt start clause.params) (Sql.tokens clause.text) =
        some (.test (.matchesPattern (column field) (.text (occurrence.wrap operand))))) ∧
      ((∀ text, Answers (found text)
          (occurrence.Occurs (operand.toList.map case.fold) (text.toList.map case.fold))) ↔
        ∀ c ∈ operand.toList, c ∉ patternSigns) ∧
      (own.isOpen = false → ∀ text, Answers (found text)
        (∃ part, occurrence.Occurs part text.toList ∧ Pattern.isMatch case own.parts part = true)) ∧
      (own.isOpen = true → ∀ text, occurrence.AnswersOpen case operand text) := by
  intro own found
  refine ⟨?_, occurrence.foundLiterally_iff case operand, fun closed text => ?_,
    fun isOpen text => ?_⟩
  · obtain ⟨clause, written, test⟩ := predicate_textTree column start occurrence field operand
    exact ⟨_, clause, read_textFilter occurrence operand isField, written, test⟩
  · exact occurrence.answers_closed case operand text closed
  · exact occurrence.answers_open case operand text isOpen

/-- For example, letters are found in any case. -/
theorem looksFor_pattern_letters :
    isOperatorKey "title" = false ∧ ∀ text, Answers (iLike .ascii "%Pg%" text)
      (['p', 'g'] <:+: text.toList.map Char.toLower) := by
  have isField : isOperatorKey "title" = false := by decide
  have plain : ∀ c ∈ "Pg".toList, c ∉ patternSigns := by simp [patternSigns]
  obtain ⟨-, literally, -, -⟩ := looksFor_pattern .ascii id 1 .anywhere "Pg" isField
  exact ⟨isField, literally.mpr plain⟩

/-- A percent sign in a text stands for any characters behind it, so the text is found where it does
not occur; and a backslash at the end of a pattern makes it malformed. -/
theorem percent_found_elsewhere :
    (∃ filter clause, read (textFilter .anywhere "title" "100%") = .ok filter ∧
      predicate id 1 filter = .ok clause ∧
      expr? (paramAt 1 clause.params) (Sql.tokens clause.text) =
        some (.test (.matchesPattern "title" (.text "%100%%")))) ∧
      iLike .ascii "%100%%" "1000" = some true ∧
      ¬ "100%".toList.map Char.toLower <:+: "1000".toList.map Char.toLower ∧
      iLike .ascii (Occurrence.wrap .atEnd "\\") "a" = none := by
  refine ⟨?_, by decide, by decide, by decide⟩
  obtain ⟨clause, written, test⟩ := predicate_textTree id 1 .anywhere "title" "100%"
  exact ⟨_, clause, read_textFilter .anywhere "100%" (by decide), written, test⟩

end Filter

end TableSearch
