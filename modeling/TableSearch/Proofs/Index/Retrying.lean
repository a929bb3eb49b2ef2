import TableSearch.Proofs.Index.Preparation

/-!
# Initialization after failed attempts

A registry whose attempts to initialize itself have failed tries again, and the table of bindings
may have changed in the meantime.  Of the rows that a failed attempt has read, those stay known
whose ids the successful attempt is not shown again.
-/

namespace TableSearch

open Sql Operation

/-! ## The last entry wins -/

theorem lookup_remembered (found before : List (String × Binding)) (indexId : String) :
    (remembered found before).lookup indexId =
      (found.reverse.lookup indexId).or (before.lookup indexId) := by
  induction found generalizing before with
  | nil => rfl
  | cons entry found ih =>
    obtain ⟨name, binding⟩ := entry
    rw [remembered, List.foldl_cons, ← remembered, ih, List.reverse_cons, List.lookup_append,
      Option.or_assoc]
    congr 1
    by_cases same : indexId = name
    · subst same
      simp
    · rw [lookup_insertEntry_of_ne _ same]
      rw [List.lookup_cons, beq_false_of_ne same, List.lookup_nil, Option.none_or]

theorem isSome_lookup_reverse_iff {found : List (String × Binding)} {indexId : String} :
    (found.reverse.lookup indexId).isSome = true ↔ indexId ∈ found.map (·.1) := by
  rw [isSome_lookup_iff, List.map_reverse, List.mem_reverse]

/-! ## Attempts -/

variable {σ : Type} [World σ]

/-- Attempts of a registry to initialize itself that all fail, each of them in a world of its own,
and the rows that their loads have shown. -/
inductive Registry.FailedAttempts (registry : Registry) :
    Session σ → List (List Row) → Session σ → Prop where
  | none (session : Session σ) : FailedAttempts registry session [] session
  | another {before middle after : Session σ} {shown : List (List Row)} {world : σ}
      {failure : Failure} {added : List Event}
      (earlier : FailedAttempts registry before shown middle)
      (failed : perform registry.ensureReady { middle with world } = (.error failure, after))
      (records : Records added { middle with world } after) :
      FailedAttempts registry before (shown ++ loads (answers added world)) after

namespace Registry

variable {registry : Registry}

/-- What is known after an attempt is what was known before it and the bindings that it has read. -/
theorem bindings_of_attempt {before after : Session σ} {result : Except Failure Unit}
    {added : List Event} (fresh : before.ready = false)
    (attempt : perform registry.ensureReady before = (result, after))
    (records : Records added before after) :
    after.ready = result.isOk ∧
      after.bindings =
        remembered ((loads (answers added before.world)).flatMap readable) before.bindings ∧
      (result.isOk = true → added = registry.preparation ∧
        ReadAs (loads (answers added before.world)).flatten
          ((loads (answers added before.world)).flatMap readable)) := by
  have stage := registry.stages_ensureReady fresh
  rw [attempt] at stage
  obtain ⟨⟨other, records', -, bindings, complete⟩, ready⟩ := stage
  cases records.unique records'
  exact ⟨by rw [ready, fresh, Bool.false_or, Bool.true_and], bindings, complete⟩

/-- Failed attempts do not make a registry ready, and what they have read is known. -/
theorem FailedAttempts.bindings {before after : Session σ} {shown : List (List Row)}
    (failed : FailedAttempts registry before shown after) (fresh : before.ready = false) :
    after.ready = false ∧
      after.bindings = remembered (shown.flatMap readable) before.bindings := by
  induction failed with
  | none => exact ⟨fresh, rfl⟩
  | @another middle after shown world failure added _ failed records ih =>
    obtain ⟨unready, bindings⟩ := ih
    have unready : ({ middle with world } : Session σ).ready = false := unready
    obtain ⟨ready, known, -⟩ := bindings_of_attempt unready failed records
    refine ⟨ready, ?_⟩
    rw [known, bindings, List.flatMap_append, remembered_append]

/-- Let any number of attempts to initialize a registry fail, and let the next one succeed.  Then
every row that its own load has shown could be read, and an index has the binding of its last row
there.  An index that is not shown there has the last binding that a failed attempt has read for it.
So the known bindings are those of the successful attempt exactly if it is shown every index that a
failed one has read. -/
theorem lookup_after_retries {start middle after : Session σ} {shown : List (List Row)} {world : σ}
    {added : List Event} (fresh : start.ready = false) (unbound : start.bindings = [])
    (failed : FailedAttempts registry start shown middle)
    (done : perform registry.ensureReady { middle with world } = (.ok (), after))
    (records : Records added { middle with world } after) :
    ∃ found, added = registry.preparation ∧ ReadAs (loads (answers added world)).flatten found ∧
      (∀ indexId, after.bindings.lookup indexId =
        (found.reverse.lookup indexId).or
          ((shown.flatMap readable).reverse.lookup indexId)) ∧
      ((∀ indexId, after.bindings.lookup indexId = found.reverse.lookup indexId) ↔
        ∀ indexId ∈ (shown.flatMap readable).map (·.1), indexId ∈ found.map (·.1)) := by
  obtain ⟨unready, left⟩ := failed.bindings fresh
  have unready : ({ middle with world } : Session σ).ready = false := unready
  obtain ⟨-, known, complete⟩ := bindings_of_attempt unready done records
  obtain ⟨whole, read⟩ := complete rfl
  have lookup (indexId : String) : after.bindings.lookup indexId =
      (((loads (answers added world)).flatMap readable).reverse.lookup indexId).or
        ((shown.flatMap readable).reverse.lookup indexId) := by
    have before : middle.bindings.lookup indexId =
        (shown.flatMap readable).reverse.lookup indexId := by
      rw [left, unbound, lookup_remembered, List.lookup_nil, Option.or_none]
    rw [known, lookup_remembered, before]
  refine ⟨_, whole, read, lookup, fun same indexId mem => ?_, fun again indexId => ?_⟩
  · -- What a failed attempt has read is known, and so it was found again.
    rw [← isSome_lookup_reverse_iff] at mem ⊢
    rw [← same, lookup, Option.isSome_or, mem, Bool.or_true]
  · rw [lookup]
    cases found : ((loads (answers added world)).flatMap readable).reverse.lookup indexId with
    | some binding => rfl
    -- What the last attempt has not found must not be known from an earlier one either.
    | none =>
      rw [Option.none_or, ← Option.not_isSome_iff_eq_none, isSome_lookup_reverse_iff]
      intro mem
      have there := isSome_lookup_reverse_iff.mpr (again indexId mem)
      rw [found] at there
      cases there

end Registry

/-! ## Attempts on a database -/

namespace Database

theorem loads_preparation (rows : List BindingRow) :
    loads (answers (Registry.preparation {}) ({ bindings := some rows } : Database)) =
      [(rows.filter (·.isOwn)).map (BindingRow.listed .text)] := by
  let result : ResultSet :=
    { columns := some ["id", "config"]
      rows := (rows.filter (·.isOwn)).map fun row => [.text row.id, .text row.config] }
  have answered : answers (Registry.preparation {}) ({ bindings := some rows } : Database) =
      [(.createSchema "pgsearch", .ok {}), (.createRegistry registryTable, .ok {}),
        (.loadBindings registryTable, .ok result)] := rfl
  have columns : result.columns = some ["id", "config"] := rfl
  obtain ⟨outcome, read, shown⟩ := BindingRow.ofResult_listed columns rfl
  have accepted : Answer.outcome (.ok result) = .ok outcome := by
    rw [Answer.outcome_ok, read]
    rfl
  have load : loadOf (.loadBindings registryTable, .ok result) = some outcome.rows := by
    rw [loadOf, accepted]
    rfl
  rw [answered, ← shown]
  simp only [loads, List.filterMap_cons, load]
  rfl

theorem exists_failure (database : Database) {bindings : List (String × Binding)}
    (fails : (perform (Registry.ensureReady {}) { world := database }).1.isOk = false)
    (left : database.opened.bindings = bindings) :
    ∃ failure middle added,
      perform (Registry.ensureReady {}) { world := database } = (.error failure, middle) ∧
        Records added { world := database } middle ∧ middle.ready = false ∧
        middle.bindings = bindings := by
  have stage := Registry.stages_ensureReady {}
    (rfl : ({ world := database } : Session Database).ready = false)
  unfold opened at left
  cases attempt : perform (Registry.ensureReady {}) ({ world := database } : Session Database) with
  | mk result middle =>
    rw [attempt] at fails stage left
    obtain ⟨⟨added, records, -⟩, ready⟩ := stage
    cases result with
    | error failure => exact ⟨failure, middle, added, rfl, records, ready, left⟩
    | ok _ => cases fails

/-- An attempt on a database whose rows can be read succeeds, whatever is known before it. -/
theorem exists_success {rows : List BindingRow} (readable : Readable .text rows)
    {middle : Session Database} (unready : middle.ready = false) :
    let again : Session Database := { middle with world := { bindings := some rows } }
    ∃ after, perform (Registry.ensureReady {}) again = (.ok (), after) ∧
      Records (Registry.preparation {}) again after ∧
      after.bindings = remembered
        (Registry.readable ((rows.filter (·.isOwn)).map (BindingRow.listed .text)))
        middle.bindings := by
  intro again
  obtain ⟨after, done⟩ : ∃ after, perform (Registry.ensureReady {}) again = (.ok (), after) :=
    bindingTable.initializes admitted readable
  have fresh : again.ready = false := unready
  have stage := Registry.stages_ensureReady {} fresh
  rw [done] at stage
  obtain ⟨⟨added, records, -, bindings, complete⟩, -⟩ := stage
  obtain ⟨rfl, -⟩ := complete rfl
  rw [loads_preparation, List.flatMap_singleton] at bindings
  exact ⟨after, done, records, bindings⟩

end Database

namespace Registry

/-- For example, an index whose row has been changed between two attempts has its new binding. -/
theorem lookup_after_retries_changed_row :
    let first : Database :=
      { bindings := some [⟨"a", backendId, "\x7b\"table\":\"t\"\x7d"⟩, ⟨"b", backendId, "\x7b"⟩] }
    let second : Database := { bindings := some [⟨"a", backendId, "\x7b\"table\":\"u\"\x7d"⟩] }
    ∃ failure middle after,
      perform (ensureReady {}) { world := first } = (.error failure, middle) ∧
      perform (ensureReady {}) { middle with world := second } = (.ok (), after) ∧
      middle.bindings = [("a", { table := "t" })] ∧
      ∀ indexId, after.bindings.lookup indexId =
        List.lookup indexId [("a", ({ table := "u" } : Binding))] := by
  intro first second
  obtain ⟨failure, middle, added, failed, records, unready, left⟩ :=
    first.exists_failure (by decide +kernel) (by decide +kernel :
      first.opened.bindings = [("a", { table := "t" })])
  let row : BindingRow := ⟨"a", backendId, "\x7b\"table\":\"u\"\x7d"⟩
  have read : bindingOfRow (row.listed .text) = .ok ("a", { table := "u" }) := by decide +kernel
  have readable : Readable .text [row] := List.forall_mem_singleton.mpr fun _ =>
    ⟨_, (BindingRow.bindingOfRow_listed.mp read).2⟩
  obtain ⟨after, done, records', -⟩ := Database.exists_success readable unready
  have attempts : FailedAttempts {} { world := first } ([] ++ loads (answers added first)) middle :=
    .another (.none _) failed records
  obtain ⟨found, -, shown, -, traceless⟩ := lookup_after_retries rfl rfl attempts done records'
  obtain rfl : found = [("a", { table := "u" })] := by
    rw [Database.loads_preparation, List.flatten_singleton] at shown
    rw [← shown.readable]
    decide +kernel
  refine ⟨failure, middle, after, failed, done, left, traceless.mpr fun indexId mem => ?_⟩
  -- What the failed attempt has read is what was known after it.
  have known := (attempts.bindings rfl).2
  have same := lookup_remembered (([] ++ loads (answers added first)).flatMap Registry.readable) []
    indexId
  rw [← known, left, List.lookup_nil, Option.or_none] at same
  rw [← isSome_lookup_reverse_iff, ← same, isSome_lookup_iff] at mem
  exact mem

/-- An index whose row a failed attempt has read stays known, although its row is no longer there
when the next attempt succeeds. -/
theorem abandoned_row_stays_known :
    let first : Database :=
      { bindings := some [⟨"a", backendId, "\x7b\"table\":\"t\"\x7d"⟩, ⟨"b", backendId, "\x7b"⟩] }
    let second : Database := { bindings := some [] }
    ∃ failure middle after,
      perform (ensureReady {}) { world := first } = (.error failure, middle) ∧
      perform (ensureReady {}) { middle with world := second } = (.ok (), after) ∧
      loads (answers (preparation {}) second) = [[]] ∧
      after.bindings = [("a", { table := "t" })] := by
  intro first second
  obtain ⟨failure, middle, added, failed, -, unready, left⟩ :=
    first.exists_failure (by decide +kernel) (by decide +kernel :
      first.opened.bindings = [("a", { table := "t" })])
  obtain ⟨after, done, -, bindings⟩ :=
    Database.exists_success (List.forall_mem_nil _) unready
  exact ⟨failure, middle, after, failed, done, Database.loads_preparation [], bindings.trans left⟩

end Registry

end TableSearch
