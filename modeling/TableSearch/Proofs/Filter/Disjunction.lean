import TableSearch.Proofs.Filter.Meaning

/-!
# Disjunctions and their branches

Which rows a filter mapping accepts, and what a disjunction accepts in terms of its branches.  A
branch without conditions accepts every row by itself, but as a branch it is dropped from the
predicate, so it counts only while no other branch has a condition.
-/

namespace TableSearch

open Sql

theorem Sql.Truth.any_eq_yes {truths : List Truth} : Truth.any truths = .yes ↔ .yes ∈ truths := by
  induction truths with
  | nil => simp [Truth.any]
  | cons truth truths ih =>
    change truth.or (Truth.any truths) = .yes ↔ _
    rw [List.mem_cons, ← ih]
    cases truth <;> cases Truth.any truths <;> decide

namespace Filter

/-! ## Filters with a truth -/

section

variable (column : String → String) (row : Condition → Truth)

theorem isSome_given (joined : List Truth → Truth) (truths : List Truth) :
    (given joined truths).isSome = !truths.isEmpty := by
  cases truths <;> rfl

mutual

/-- A filter has a truth for every row as soon as it contains a condition. -/
theorem isSome_truth? (filter : Filter) :
    (truth? column row filter).isSome = hasCondition filter := by
  cases filter with
  | conjunction parts | allOf parts | anyOf parts =>
    rw [truth?, isSome_given, truths_isEmpty parts, Bool.not_not]
    rfl
  | negation part =>
    rw [truth?, Option.isSome_map, isSome_truth? part]
    rfl
  | isNull field => rfl
  | compare field op operand => rfl

theorem truths_isEmpty (parts : List Filter) :
    (truths column row parts).isEmpty = !haveCondition parts := by
  cases parts with
  | nil => rfl
  | cons part rest =>
    have first := isSome_truth? part
    rw [truths, haveCondition, Bool.not_or, ← truths_isEmpty rest, ← first]
    cases truth? column row part <;> simp

end

theorem mem_truths {parts : List Filter} {truth : Truth} :
    truth ∈ truths column row parts ↔ ∃ part ∈ parts, truth? column row part = some truth := by
  induction parts with
  | nil => simp [truths]
  | cons part rest ih => simp [truths, ih]

theorem haveCondition_iff {parts : List Filter} :
    haveCondition parts = true ↔ ∃ part ∈ parts, hasCondition part = true := by
  induction parts with
  | nil => simp [haveCondition]
  | cons part rest ih => simp [haveCondition, ih]

end

/-! ## Accepted rows -/

section

variable (column : String → String) (start : Int) (row : Condition → Truth)

/-- A row is accepted by a filter mapping when the mapping has a predicate, and this is empty or
true for the row. -/
def Accepts (value : Value) : Prop :=
  ∃ filter clause, read value = .ok filter ∧ predicate column start filter = .ok clause ∧
    (clause.text = "" ∨
      ∃ e, expr? (paramAt start clause.params) (Sql.tokens clause.text) = some e ∧
        e.truth row = .yes)

/-- A predicate is empty when its filter has no truth, and is a condition of this truth
otherwise. -/
theorem predicate_cases {filter : Filter} {clause : Clause}
    (written : predicate column start filter = .ok clause) :
    (truth? column row filter = none ∧ clause.text = "") ∨
      ∃ e, truth? column row filter = some (e.truth row) ∧ clause.text ≠ "" ∧
        expr? (paramAt start clause.params) (Sql.tokens clause.text) = some e := by
  have reads := predicate_reads column start filter written
  have supplies : Supplies (paramAt start clause.params) start (operands filter) := by
    rw [reads.params]
    exact supplies_paramAt start (operands filter)
  have means : Means (paramAt start clause.params) row (tokens column start filter)
      (truth? column row filter) := tokens_mean column start filter supplies
  -- A filter without a condition has no truth value, and just then nothing is written for it.
  cases truth : truth? column row filter with
  | none =>
    rw [truth] at means
    exact .inl ⟨rfl, (text_eq_empty reads).mpr means⟩
  | some t =>
    rw [truth] at means
    obtain ⟨someTokens, holds⟩ := means
    obtain ⟨e, found, rfl⟩ := holds.expr?
    have sameTokens : Sql.tokens clause.text = tokens column start filter := reads.spells.read
    exact .inr ⟨e, rfl, fun empty => someTokens ((text_eq_empty reads).mp empty),
      sameTokens ▸ found⟩

theorem accepts_iff {value : Value} {filter : Filter} (wellFormed : read value = .ok filter) :
    Accepts column start row value ↔ ∀ truth ∈ truth? column row filter, truth = .yes := by
  obtain ⟨clause, written⟩ :=
    (predicate_succeeds column start filter).mpr (isListed_of_read value wellFormed)
  have unique : Accepts column start row value ↔
      (clause.text = "" ∨
        ∃ e, expr? (paramAt start clause.params) (Sql.tokens clause.text) = some e ∧
          e.truth row = .yes) := by
    constructor
    · rintro ⟨other, otherClause, read', written', accepted⟩
      obtain rfl : filter = other := Except.ok.inj (wellFormed.symm.trans read')
      obtain rfl : clause = otherClause := Except.ok.inj (written.symm.trans written')
      exact accepted
    · intro accepted
      exact ⟨filter, clause, wellFormed, written, accepted⟩
  -- The tree and the clause are determined, so only the one clause has to be looked at.
  rw [unique]
  obtain ⟨truth, empty⟩ | ⟨e, truth, nonempty, found⟩ := predicate_cases column start row written
  · simp [truth, empty]
  · simp [truth, nonempty, found]

/-! ## Disjunctions -/

/-- The mapping that offers filters as alternatives. -/
def either (branches : List Value) : Value := .map [("$or", .list branches)]

/-- Whether a mapping is a filter with a condition in it, however deep. -/
def Restricts (value : Value) : Prop :=
  ∃ filter, read value = .ok filter ∧ hasCondition filter = true

theorem restricts_iff {value : Value} {filter : Filter} (wellFormed : read value = .ok filter) :
    Restricts value ↔ hasCondition filter = true := by
  simp [Restricts, wellFormed]

theorem readAll_eq_mapM (values : List Value) : readAll values = values.mapM read := by
  induction values with
  | nil => rfl
  | cons value rest ih => rw [readAll, List.mapM_cons, ih]

theorem read_either {branches : List Value} {parts : List Filter}
    (each : branches.mapM read = .ok parts) :
    read (either branches) = .ok (.conjunction [.anyOf parts]) := by
  have entry : readEntry "$or" (.list branches) = .ok [.anyOf parts] := by
    rw [readEntry, if_neg (by decide), if_pos rfl]
    simp only [readAll_eq_mapM, each]
    rfl
  rw [either, read, readEntries_cons, entry]
  rfl

theorem truth?_either (parts : List Filter) :
    truth? column row (.conjunction [.anyOf parts]) =
      given Truth.any (truths column row parts) := by
  simp only [truth?, truths, List.append_nil]
  cases given Truth.any (truths column row parts) with
  | none => rfl
  | some t => simp [given, Truth.all]

theorem given_any_iff {truths : List Truth} :
    (∀ truth ∈ given Truth.any truths, truth = .yes) ↔ truths = [] ∨ .yes ∈ truths := by
  rw [← Truth.any_eq_yes]
  cases truths with
  | nil => simp [given]
  | cons truth rest => simp [given]

/-- A disjunction accepts what a branch with conditions accepts, and everything when there is no
such branch. -/
theorem accepts_either_iff {branches : List Value}
    (wellFormed : ∀ branch ∈ branches, ∃ filter, read branch = .ok filter) :
    Accepts column start row (either branches) ↔
      (¬ ∃ branch ∈ branches, Restricts branch) ∨
        ∃ branch ∈ branches, Restricts branch ∧ Accepts column start row branch := by
  obtain ⟨parts, each⟩ := exists_forall₂ wellFormed
  have restricted : (∃ branch ∈ branches, Restricts branch) ↔ truths column row parts ≠ [] := by
    rw [exists_mem_iff_of_forall₂ each fun _ _ => restricts_iff, ← haveCondition_iff, ne_eq,
      ← List.isEmpty_iff, truths_isEmpty]
    simp
  have accepted : (∃ branch ∈ branches, Restricts branch ∧ Accepts column start row branch) ↔
      .yes ∈ truths column row parts := by
    rw [mem_truths]
    refine exists_mem_iff_of_forall₂ each fun branch part readBranch => ?_
    rw [restricts_iff readBranch, accepts_iff column start row readBranch,
      ← isSome_truth? column row part]
    cases truth? column row part <;> simp
  -- A disjunction is yes where one of its parts is, and where none of them has a truth value.
  rw [accepts_iff column start row (read_either (mapM_eq_ok.mpr each)), truth?_either,
    given_any_iff, restricted, accepted, not_not]

end

/-- A disjunction accepts each row that a branch accepts, if this branch has a condition or no
branch has one; and it goes on to do so with one more branch, if it already had a branch with a
condition or the new one has none. -/
theorem either_widens (column : String → String) (start : Int) (row : Condition → Truth)
    {branches : List Value} {other : Value}
    (wellFormed : ∀ branch ∈ branches ++ [other], ∃ filter, read branch = .ok filter) :
    (Accepts column start row (either branches) ↔
      (¬ ∃ branch ∈ branches, Restricts branch) ∨
        ∃ branch ∈ branches, Restricts branch ∧ Accepts column start row branch) ∧
      (∀ branch ∈ branches, Accepts column start row branch →
        (Restricts branch ∨ ¬ ∃ branch ∈ branches, Restricts branch) →
        Accepts column start row (either branches)) ∧
      (Accepts column start row (either branches) →
        ((∃ branch ∈ branches, Restricts branch) ∨ ¬ Restricts other) →
        Accepts column start row (either (branches ++ [other]))) := by
  obtain ⟨own, -⟩ := List.forall_mem_append.mp wellFormed
  have before := accepts_either_iff column start row own
  have after := accepts_either_iff column start row wellFormed
  refine ⟨before, fun branch among accepted unlessDropped => ?_, fun accepted unlessNarrowed => ?_⟩
  · rw [before]
    exact unlessDropped.symm.imp id fun restricts => ⟨branch, among, restricts, accepted⟩
  · rw [after]
    rcases before.mp accepted with unrestricted | ⟨branch, among, restricts, accepts⟩
    -- Had the added branch a condition of its own, an empty disjunction would be narrowed by it.
    · have free : ¬ Restricts other := unlessNarrowed.resolve_left unrestricted
      refine .inl fun ⟨branch, among, restricts⟩ => ?_
      rcases List.mem_append.mp among with isOwn | isOther
      · exact unrestricted ⟨branch, isOwn, restricts⟩
      · exact free (List.mem_singleton.mp isOther ▸ restricts)
    · exact .inr ⟨branch, List.mem_append_left _ among, restricts, accepts⟩

/-- For example, a negated empty filter beside a condition. -/
theorem either_widens_negation :
    let row : Condition → Truth := fun condition =>
      match condition with
      | .compares "a" .equal (.int n) => if n = 2 then .yes else .no
      | _ => .unknown
    let branches := [.map [("$not", .map [])], .map [("a", .int 2)]]
    Accepts id 1 row (either branches) ∧
      Accepts id 1 row (either (branches ++ [.map [("b", .null)]])) := by
  intro row branches
  have wellFormed : ∀ branch ∈ branches ++ [.map [("b", .null)]],
      ∃ filter, read branch = .ok filter := by
    simp only [branches, List.cons_append, List.nil_append, List.forall_mem_cons]
    exact ⟨⟨_, rfl⟩, ⟨_, rfl⟩, ⟨_, rfl⟩, by simp⟩
  have restricts : Restricts (.map [("a", .int 2)]) := ⟨_, rfl, rfl⟩
  have second : Accepts id 1 row (.map [("a", .int 2)]) :=
    (accepts_iff id 1 row rfl).mpr (by simp [truth?, truths, readShorthand, given]; rfl)
  obtain ⟨-, widens, grows⟩ := either_widens id 1 row wellFormed
  have accepted := widens _ (by simp [branches]) second (.inl restricts)
  exact ⟨accepted, grows accepted (.inl ⟨_, by simp [branches], restricts⟩)⟩

/-- The empty filter accepts every row, but a disjunction drops it as soon as there is a condition:
then a row may be accepted by a branch and not by the disjunction, and lost by adding a branch. -/
theorem either_drops_empty :
    let row : Condition → Truth := fun _ => .no
    let empty : Value := .map []
    let restricted : Value := .map [("a", .int 1)]
    (∀ branch ∈ [empty, restricted], ∃ filter, read branch = .ok filter) ∧
      Accepts id 1 row empty ∧ ¬ Accepts id 1 row (either [empty, restricted]) ∧
      Accepts id 1 row (either [empty]) := by
  intro row empty restricted
  refine ⟨?_, ?_, ?_, ?_⟩
  · simp only [List.forall_mem_cons]
    exact ⟨⟨_, rfl⟩, ⟨_, rfl⟩, by simp⟩
  · exact (accepts_iff id 1 row rfl).mpr (by simp [truth?, truths, given])
  · intro accepted
    exact absurd ((accepts_iff id 1 row rfl).mp accepted .no rfl) (by decide)
  · exact (accepts_iff id 1 row rfl).mpr (by simp [truth?, truths, given])

end Filter

end TableSearch
