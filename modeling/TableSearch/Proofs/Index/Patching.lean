import Mathlib.Data.List.ReduceOption
import TableSearch.Proofs.Index.Assignments

/-!
# Patches that cannot be applied

The keys of all patches of a call are looked at before anything is changed.  But each patch is
written only when its turn comes, behind the statements of the patches in front of it.  So a patch
without its key leaves everything as it is, and a patch with a value that has no form for its column
leaves the changes of those in front of it.
-/

namespace TableSearch

open Sql Operation

variable {σ : Type} [World σ]

/-! ## Patches that are not written -/

namespace Document

variable {binding : Binding} {document : Value}

def ChangesNothing (binding : Binding) (document : Value) : Prop :=
  ∃ entries, document = .map entries ∧ changed binding entries = []

/-- A patch with an entry that cannot be written to its column. -/
def Unwritable (binding : Binding) (document : Value) (error : ConversionError) : Prop :=
  ∃ entries entry, document = .map entries ∧ entry ∈ changed binding entries ∧
    Cell.ofField binding entry.1 entry.2 = .error error

/-- A written patch updates a row, unless it changes nothing. -/
theorem patch_eq_ok {change : Option Statement} (written : patch binding document = .ok change) :
    (ChangesNothing binding document ∧ change = none) ∨
      (¬ ChangesNothing binding document ∧
        ∃ changes key,
          change = some (.update binding.tableName binding.keyColumn changes key)) := by
  simp only [patch, bind_eq_ok, Failure.ofConversion, mapError_eq_ok] at written
  obtain ⟨key, keyed, entries, read, changes, made, written⟩ := written
  obtain ⟨_, rfl, -⟩ := key_eq_ok.mp keyed
  cases read
  have alike : (changed binding entries).length = changes.length := (mapM_eq_ok.mp made).length_eq
  -- There are as many changes as entries that become changes.
  cases changes with
  | nil =>
    cases written
    exact .inl ⟨⟨entries, rfl, List.eq_nil_of_length_eq_zero alike⟩, rfl⟩
  | cons change changes =>
    cases written
    refine .inr ⟨?_, change :: changes, key, rfl⟩
    rintro ⟨_, ⟨⟩, unchanged⟩
    rw [unchanged] at alike
    cases alike

/-- A patch with its key is only refused for one of its values. -/
theorem patch_eq_error {key : String} {failure : Failure}
    (keyed : Document.key .patch binding.keyField document = .ok key)
    (refused : patch binding document = .error failure) :
    ∃ error, failure = .conversion error ∧ Unwritable binding document error := by
  obtain ⟨entries, rfl, -⟩ := key_eq_ok.mp keyed
  obtain unkeyed | ⟨_, -, refused⟩ := bind_eq_error.mp refused
  · cases keyed.symm.trans unkeyed
  obtain unread | ⟨_, ⟨⟩, refused⟩ := bind_eq_error.mp refused
  · cases unread
  obtain unmade | ⟨changes, -, refused⟩ := bind_eq_error.mp refused
  · obtain ⟨error, made, rfl⟩ := mapError_eq_error.mp unmade
    obtain ⟨front, entry, rest, -, split, -, bad⟩ := mapM_eq_error made
    have inside : entry ∈ changed binding entries := by
      rw [changed, split]
      exact List.mem_append_right _ List.mem_cons_self
    obtain bad | ⟨_, -, ⟨⟩⟩ := bind_eq_error.mp bad
    exact ⟨error, rfl, entries, entry, rfl, inside, bad⟩
  · split at refused <;> cases refused

end Document

/-! ## Counted rows -/

/-- How many rows a statement has changed.  One that failed has changed none. -/
def Answer.rowCount (answer : Answer) : Int :=
  match answer.outcome with
  | .ok outcome => outcome.affected
  | .error _ => 0

/-- How many rows several statements change that are sent one after the other. -/
def countRows (statements : List Statement) (world : σ) : Int :=
  ((answers (statements.map .statement) world).map fun entry => entry.2.rowCount).sum

theorem countRows_cons (statement : Statement) (rest : List Statement) (world : σ) :
    countRows (statement :: rest) world =
      Answer.rowCount (World.execute statement world).1 +
        countRows rest (World.execute statement world).2 := by
  simp [countRows, answers, Event.answer, Event.advance]

/-- A statement that succeeds has an outcome, with the number of rows that it has changed. -/
theorem exists_counted_run {statement : Statement} {session : Session σ}
    (succeeds : statement.succeeds session.world = true) :
    ∃ outcome, perform (run statement) session = (.ok outcome, session.executed statement) ∧
      outcome.affected = Answer.rowCount (World.execute statement session.world).1 := by
  obtain ⟨outcome, sent⟩ := exists_run_of_succeeds succeeds
  refine ⟨outcome, sent, ?_⟩
  rw [perform_run] at sent
  rw [Answer.rowCount, (Prod.mk.inj sent).1]

/-! ## Plans that stop -/

/-- Patches that can be written stand in front of those that follow them. -/
theorem Plan.ofChanges_append {binding : Binding} {front : List Value}
    {written : List (Option Statement)}
    (writable : front.mapM (Document.patch binding) = .ok written) (rest : List Value) :
    ofChanges binding (front ++ rest) =
      { ofChanges binding rest with
        statements := written.reduceOption ++ (ofChanges binding rest).statements } := by
  rw [mapM_eq_ok] at writable
  induction writable with
  | nil => rfl
  | @cons patch change front written made _ ih =>
    rw [List.cons_append, ofChanges, made, after]
    cases change with
    | none => exact ih
    | some statement => rw [ih, List.reduceOption_cons_of_some, List.cons_append]

namespace Handle

/-- Patches that can all be written count the rows that their statements change. -/
theorem count_of_applyPatches (binding : Binding) (patches : List Value) (session : Session σ)
    (writable : (Plan.ofChanges binding patches).failure = none)
    (succeed : AllSucceed (Plan.ofChanges binding patches).statements session.world) :
    ∃ after, perform (applyPatches binding patches) session =
      (.ok (countRows (Plan.ofChanges binding patches).statements session.world), after) := by
  induction patches generalizing session with
  | nil => exact ⟨session, rfl⟩
  | cons patch rest ih =>
    rw [Plan.ofChanges] at writable succeed ⊢
    rw [applyPatches, perform_bind, perform_ofExcept]
    cases written : Document.patch binding patch with
    | error failure =>
      rw [written] at writable
      cases writable
    | ok change =>
      rw [written] at writable succeed
      -- A patch without changes sends nothing and counts nothing.
      cases change with
      | none => exact ih session writable succeed
      | some statement =>
        obtain ⟨outcome, sent, counted⟩ := exists_counted_run succeed.1
        obtain ⟨after, applied⟩ := ih (session.executed statement) writable succeed.2
        refine ⟨after, perform_bind_eq_ok.mpr ⟨outcome, _, sent, ?_⟩⟩
        rw [Plan.after, countRows_cons, ← counted]
        exact perform_bind_eq_ok.mpr ⟨_, after, applied, rfl⟩

/-- When patches are not applied although no statement has failed, then one of them cannot be
written, and exactly those in front of it have been applied. -/
theorem stops_of_applyPatches {binding : Binding} {patches : List Value} {before after : Session σ}
    {failure : Failure}
    (failed : perform (applyPatches binding patches) before = (.error failure, after)) :
    ∃ sent : List Statement, Records (sent.map .statement) before after ∧
      (AllSucceed sent before.world → ∃ front bad rest written, patches = front ++ bad :: rest ∧
        front.mapM (Document.patch binding) = .ok written ∧
        Document.patch binding bad = .error failure ∧ sent = written.reduceOption) := by
  have done := done_applyPatches binding patches before
  rw [failed] at done
  refine ⟨_, done.records, fun succeed => ?_⟩
  have succeed := allSucceed_of_issued succeed
  rw [issued_of_allSucceed succeed]
  cases writable : patches.mapM (Document.patch binding) with
  | ok written =>
    have plan := Plan.ofChanges_append writable []
    rw [List.append_nil] at plan
    have unfailing : (Plan.ofChanges binding patches).failure = none := by rw [plan]; rfl
    obtain ⟨_, applied⟩ := count_of_applyPatches binding patches before unfailing succeed
    cases failed.symm.trans applied
  | error other =>
    obtain ⟨front, bad, rest, written, rfl, front_writable, refused⟩ := mapM_eq_error writable
    -- The plan ends at the first patch that cannot be written, whatever stands behind it.
    have stop : Plan.ofChanges binding (bad :: rest) = { failure := some other } := by
      rw [Plan.ofChanges, refused, Plan.after]
    have plan := Plan.ofChanges_append front_writable (bad :: rest)
    rw [stop, List.append_nil] at plan
    have same := done.stops succeed other (by rw [plan]; rfl)
    cases same
    exact ⟨front, bad, rest, written, rfl, front_writable, refused, by rw [plan]⟩

/-- Nothing has been applied exactly if nothing was to be changed. -/
theorem reduceOption_eq_nil_iff {binding : Binding} {front : List Value}
    {written : List (Option Statement)}
    (writable : front.mapM (Document.patch binding) = .ok written) :
    written.reduceOption = [] ↔ ∀ patch ∈ front, Document.ChangesNothing binding patch := by
  rw [mapM_eq_ok] at writable
  induction writable with
  | nil => exact iff_of_true rfl nofun
  | cons first _ ih =>
    rw [List.forall_mem_cons, ← ih]
    obtain ⟨unchanged, rfl⟩ | ⟨other, _, _, rfl⟩ := Document.patch_eq_ok first
    · rw [List.reduceOption_cons_of_none]
      exact (and_iff_right unchanged).symm
    · rw [List.reduceOption_cons_of_some]
      exact iff_of_false (List.cons_ne_nil _ _) fun both => other both.1

/-- Let a call with patches fail.  Either the binding of the index could not be found, or the call
has executed some statements.  If none of these has failed, then there are two cases.  A patch may
lack its key; then nothing has been executed.  Or all patches have keys, and one of them has a value
that cannot be written to its column; then exactly the changes of those in front of it have been
executed.  So nothing has been executed only if all of those change nothing. -/
theorem patch_failed {handle : Handle σ} {input : Value} {patches : List Value}
    {before after : Session σ} {failure : Failure} (things : input.toThings = .ok patches)
    (failed : perform (handle.patch input) before = (.error failure, after)) :
    perform handle.binding before = (.error failure, after) ∨
      ∃ binding middle sent, perform handle.binding before = (.ok binding, middle) ∧
        Records (sent.map .statement) middle after ∧
        ((∀ entry ∈ answers (sent.map .statement) middle.world, entry.2.isSuccess = true) →
          (patches.mapM (Document.key .patch binding.keyField) = .error failure ∧ sent = []) ∨
          ∃ keys front bad rest error written,
            patches.mapM (Document.key .patch binding.keyField) = .ok keys ∧
            patches = front ++ bad :: rest ∧ failure = .conversion error ∧
            Document.Unwritable binding bad error ∧
            front.mapM (Document.patch binding) = .ok written ∧ sent = written.reduceOption ∧
            (sent = [] ↔ ∀ patch ∈ front, Document.ChangesNothing binding patch)) := by
  have nonempty : patches ≠ [] := by
    rintro rfl
    unfold patch at failed
    rw [perform_bind_things things] at failed
    cases failed
  cases looked : perform handle.binding before with
  | mk result middle =>
    cases result with
    | error other =>
      left
      rw [perform_patch_things things nonempty, perform_bind, looked] at failed
      cases failed
      rfl
    | ok binding =>
      right
      rw [perform_patch looked things nonempty, perform_bind, perform_ofExcept] at failed
      -- Without one of the keys nothing is sent; with all of them it is a patch that cannot be
      -- written.
      cases keyed : patches.mapM (Document.key .patch binding.keyField) with
      | error other =>
        rw [keyed] at failed
        cases failed
        exact ⟨binding, _, [], rfl, .refl _, fun _ => .inl ⟨keyed, rfl⟩⟩
      | ok keys =>
        rw [keyed] at failed
        obtain ⟨sent, records, stopped⟩ := stops_of_applyPatches failed
        refine ⟨binding, middle, sent, rfl, records, fun succeed => .inr ?_⟩
        obtain ⟨front, bad, rest, written, split, writable, refused, rfl⟩ :=
          stopped (allSucceed_iff.mpr succeed)
        obtain ⟨key, -, named⟩ := exists_mem_of_forall₂ (mapM_eq_ok.mp keyed)
          (split ▸ List.mem_append_right front List.mem_cons_self : bad ∈ patches)
        obtain ⟨error, rfl, unwritable⟩ := Document.patch_eq_error named refused
        exact ⟨keys, front, bad, rest, error, written, keyed, split, rfl, unwritable, writable, rfl,
          reduceOption_eq_nil_iff writable⟩

/-- For example, a patch with a vector of a text is only found out behind the change of the patch
in front of it. -/
theorem patch_failed_second :
    let binding : Binding :=
      { table := "docs", fields := [("vec", { column := "vec", type := "vector" })] }
    let handle : Handle Script := { indexId := "docs", resolve := pure (some binding) }
    let first : Value := .map [("id", .text "a"), ("title", .text "x")]
    let second : Value := .map [("id", .text "b"), ("vec", .list [.text "bad"])]
    let made := perform (handle.patch (.list [first, second])) { world := {} }
    made.1 = .error (.conversion .wrongForm) ∧
      ∃ front bad rest, [first, second] = front ++ bad :: rest ∧
        Document.Unwritable binding bad .wrongForm ∧
        ¬ ∀ patch ∈ front, Document.ChangesNothing binding patch := by
  intro binding handle first second made
  have failed : made = (.error (.conversion .wrongForm), made.2) := rfl
  obtain unfound | ⟨_, _, sent, found, records, stopped⟩ := patch_failed rfl failed
  · cases unfound
  · cases found
    have whole : Records ([Statement.update ⟨"public", "docs"⟩ "id"
        [("title", { value := .text "x" })] "a"].map .statement) { world := {} } made.2 :=
      ⟨rfl, rfl⟩
    have same := List.map_injective_iff.mpr (fun _ _ => Event.statement.inj) (records.unique whole)
    subst same
    refine ⟨rfl, ?_⟩
    obtain ⟨-, none⟩ | ⟨keys, front, bad, rest, error, written, -, split, same, unwritable, -, -,
      nothing⟩ := stopped (by simp [Answer.isSuccess]; rfl)
    · cases none
    · cases same
      exact ⟨front, bad, rest, split, unwritable, fun all => List.cons_ne_nil _ _ (nothing.mpr all)⟩

/-- A call that fails for a value in its second patch has executed the statement of the first. -/
theorem failed_patch_leaves_changes :
    let binding : Binding :=
      { table := "docs", fields := [("vec", { column := "vec", type := "vector" })] }
    let handle : Handle Script := { indexId := "docs", resolve := pure (some binding) }
    let patches : Value :=
      .list [.map [("id", .text "a"), ("title", .text "x")],
        .map [("id", .text "b"), ("vec", .list [.text "bad"])]]
    let made := perform (handle.patch patches) { world := {} }
    made.1 = .error (.conversion .wrongForm) ∧
      made.2.events =
        [.statement (.update ⟨"public", "docs"⟩ "id" [("title", { value := .text "x" })] "a")] ∧
      ∀ entry ∈ answers made.2.events ({} : Script), entry.2.isSuccess = true := by
  refine ⟨rfl, rfl, fun entry mem => ?_⟩
  cases List.mem_singleton.mp mem
  rfl

end Handle

end TableSearch
