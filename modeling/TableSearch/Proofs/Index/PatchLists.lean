import TableSearch.Proofs.Index.Patching
import TableSearch.Proofs.Sql.Writes

/-!
# Lists of patches

Patches are applied one after the other, and nothing passes from one to the next: each patch that
changes something has an UPDATE of its own, whose placeholders are numbered from one on, and the
changed rows are added up.  So a list of patches may be cut anywhere, and its parts be applied by
calls of their own (`patch_distributes`).
-/

namespace TableSearch

open Sql Operation

variable {σ : Type} [World σ]

/-! ## Single patches -/

namespace Document

/-- What an UPDATE for a patch says: it sets the columns of the entries that become changes, in
their order, to their encoded values, in the row with the key of the patch. -/
structure Updates (binding : Binding) (entries : Entries) (update : Update) (params : List Value) :
    Prop where
  table : update.table = binding.tableName
  assigned : List.Forall₂ (fun entry change => change.1 = binding.columnFor entry.1 ∧
    ∃ cell, Cell.ofField binding entry.1 entry.2 = .ok cell ∧ change.2.Gives params cell)
      (changed binding entries) update.assigned
  keyColumn : update.keyColumn = binding.keyColumn
  key : ∃ key, entries.lookup binding.keyField = some (.text key) ∧
    Filter.paramAt 1 params update.key = some (.text key)
  /-- The values come first, and the key last. -/
  numbers : update.assigned.map (·.2.number) = consecutive 1 (changed binding entries).length
  keyNumber : update.key = (changed binding entries).length + 1
  slots : slots update.tokens = consecutive 1 params.length
  count : params.length = (changed binding entries).length + 1

variable {binding : Binding} {entries : Entries} {key : String}

theorem forall₂_zip_map {α β γ : Type} {f : β → γ} {R : α → β → Prop} {xs : List α} {ys : List β}
    (both : List.Forall₂ R xs ys) :
    List.Forall₂ (fun pair y => pair.1 = f y ∧ R pair.2 y) ((ys.map f).zip xs) ys := by
  induction both with
  | nil => exact .nil
  | cons first _ ih => exact .cons ⟨rfl, first⟩ ih

theorem updates_of_changes {changes : List (String × Cell)}
    (keyed : entries.lookup binding.keyField = some (.text key))
    (made : List.Forall₂ (fun entry change => change.1 = binding.columnFor entry.1 ∧
      Cell.ofField binding entry.1 entry.2 = .ok change.2) (changed binding entries) changes) :
    Updates binding entries
      ⟨binding.tableName, (changes.map (·.1)).zip (numbered 1 (changes.map (·.2))),
        binding.keyColumn, changes.length + 1⟩
      (changes.map (·.2.value) ++ [.text key]) := by
  have alike : (changed binding entries).length = changes.length := made.length_eq
  have values : changes.map (·.2.value) = (changes.map (·.2)).map Cell.value := by
    rw [List.map_map]
    rfl
  rw [values]
  have supplies := Filter.supplies_paramAt 1 ((changes.map (·.2)).map Cell.value ++ [.text key])
  have give := List.forall₂_map_right_iff.mp (numbered_give supplies.front)
  -- Each change takes one placeholder, and the key takes the one behind the last of them.
  have numbers : ((changes.map (·.1)).zip (numbered 1 (changes.map (·.2)))).map (·.2.number) =
      consecutive 1 (changed binding entries).length := by
    have placeholders : ((changes.map (·.1)).zip (numbered 1 (changes.map (·.2)))).map Prod.snd =
        numbered 1 (changes.map (·.2)) :=
      List.map_snd_zip (by rw [length_numbered, List.length_map, List.length_map])
    have same := congrArg (List.map Placeholder.number) placeholders
    rwa [numbers_numbered, List.map_map, List.length_map, ← alike] at same
  have count : ((changes.map (·.2)).map Cell.value ++ [Value.text key]).length =
      (changed binding entries).length + 1 := by
    rw [List.length_append, List.length_map, List.length_map, alike]
    rfl
  refine ⟨rfl, ?_, rfl, ⟨key, keyed, ?_⟩, numbers, by rw [alike], ?_, count⟩
  · refine (forall₂_through made (forall₂_zip_map give)).imp ?_
    rintro entry assigned ⟨change, ⟨column, encoded⟩, same, gives⟩
    exact ⟨same.trans column, change.2, encoded, gives⟩
  · have last := supplies.rest.head
    rw [List.length_map, List.length_map] at last
    rwa [Int.add_comm]
  · rw [Update.slots_tokens, numbers, count, consecutive_add, ← alike]
    simp [consecutive, Int.add_comm]

/-- A patch is written by an UPDATE, unless it changes nothing. -/
theorem exists_updates (keyed : entries.lookup binding.keyField = some (.text key))
    (encodable : ∀ entry ∈ changed binding entries,
      ∃ cell, Cell.ofField binding entry.1 entry.2 = .ok cell) :
    (changed binding entries = [] ∧ patch binding (.map entries) = .ok none) ∨
      changed binding entries ≠ [] ∧ ∃ statement update,
        patch binding (.map entries) = .ok (some statement) ∧
        Sql.tokens statement.text = update.tokens ∧
        Updates binding entries update statement.params := by
  obtain ⟨changes, made⟩ : ∃ changes, List.Forall₂ (fun entry (change : String × Cell) =>
      change.1 = binding.columnFor entry.1 ∧ Cell.ofField binding entry.1 entry.2 = .ok change.2)
        (changed binding entries) changes :=
    exists_forall₂ fun entry mem =>
      (encodable entry mem).imp' (binding.columnFor entry.1, ·) fun _ encoded => ⟨rfl, encoded⟩
  have written := patch_of_changes keyed (changes_eq_ok.mpr made)
  cases changes with
  | nil => exact .inl ⟨List.forall₂_nil_right_iff.mp made, written⟩
  | cons change rest =>
    refine .inr ⟨fun unchanged => ?_, .update _ _ (change :: rest) key, _, written,
      update_tokens .., updates_of_changes keyed made⟩
    rw [unchanged] at made
    cases made

def IsUpdate (binding : Binding) (entries : Entries) (statement : Statement) : Prop :=
  ∃ update, Sql.tokens statement.text = Update.tokens update ∧
    Updates binding entries update statement.params

/-- The patches that change something have an UPDATE each. -/
theorem exists_changes {batch : List Entries}
    (keyed : ∀ entries ∈ batch, ∃ key, entries.lookup binding.keyField = some (.text key))
    (encodable : ∀ entries ∈ batch, ∀ entry ∈ changed binding entries,
      ∃ cell, Cell.ofField binding entry.1 entry.2 = .ok cell) :
    ∃ statements, Plan.ofChanges binding (batch.map .map) = { statements } ∧
      List.Forall₂ (IsUpdate binding) (batch.filter (changed binding · ≠ [])) statements := by
  induction batch with
  | nil => exact ⟨[], rfl, .nil⟩
  | cons entries rest ih =>
    obtain ⟨⟨key, keyed⟩, othersKeyed⟩ := List.forall_mem_cons.mp keyed
    obtain ⟨encodable, othersEncodable⟩ := List.forall_mem_cons.mp encodable
    obtain ⟨statements, planned, updates⟩ := ih othersKeyed othersEncodable
    rw [List.map_cons, Plan.ofChanges, planned]
    -- Patches that change nothing drop out of both lists, so that these stay in step.
    obtain ⟨unchanged, written⟩ | ⟨changes, statement, update, written, read, own⟩ :=
      exists_updates keyed encodable
    · refine ⟨statements, by rw [written, Plan.after], ?_⟩
      rwa [List.filter_cons_of_neg (by simpa using unchanged)]
    · refine ⟨statement :: statements, by rw [written, Plan.after], ?_⟩
      rw [List.filter_cons_of_pos (by simpa using changes)]
      exact .cons ⟨update, read, own⟩ updates

end Document

namespace Handle

variable {binding : Binding} {patches : List Value} {session : Session σ}

/-! ## Cutting -/

theorem applyPatches_append (binding : Binding) (front rest : List Value) :
    (applyPatches binding (front ++ rest) : Operation σ Int) = do
      let first ← applyPatches binding front
      let second ← applyPatches binding rest
      return first + second := by
  induction front with
  | nil =>
    change applyPatches binding rest = pure 0 >>= fun first => applyPatches binding rest >>= _
    simp only [pure_bind, Int.zero_add, bind_pure]
  | cons patch front ih =>
    rw [List.cons_append, applyPatches, applyPatches, bind_assoc]
    refine bind_congr fun change => ?_
    cases change with
    | none => exact ih
    | some statement => simp only [bind_assoc, pure_bind, ih, Int.add_assoc]

variable {handle : Handle σ} {middle : Session σ}

/-- Patches with texts as keys are applied behind the lookup of the binding. -/
theorem perform_patch_keyed {input : Value} {batch : List Entries}
    (found : perform handle.binding session = (.ok binding, middle))
    (same : input.toThings = .ok (batch.map .map)) (nonempty : batch ≠ [])
    (keyed : ∀ entries ∈ batch, ∃ key, entries.lookup binding.keyField = some (.text key)) :
    perform (handle.patch input) session =
      perform (applyPatches binding (batch.map .map)) middle := by
  have named (entries : Entries) (mem : entries ∈ batch) :
      ∃ key, Document.key .patch binding.keyField (.map entries) = .ok key :=
    (keyed entries mem).imp fun key keyed => Document.key_eq_ok.mpr ⟨entries, rfl, keyed⟩
  obtain ⟨keys, named⟩ := exists_forall₂ named
  have all : (batch.map Value.map).mapM (Document.key .patch binding.keyField) = .ok keys :=
    mapM_eq_ok.mpr (List.forall₂_map_left_iff.mpr named)
  rw [perform_patch found same (by simpa using nonempty), all]
  rfl

/-- Whether a handle finds a binding from a session on, as long as it is known there. -/
def Settled (handle : Handle σ) (binding : Binding) (session : Session σ) : Prop :=
  ∀ later : Session σ, later.ready = session.ready → later.bindings = session.bindings →
    perform handle.binding later = (.ok binding, later)

/-- The handles of a registry that has been initialized are settled. -/
theorem settled_of_ready (registry : Registry) (indexId : String) (ready : session.ready = true) :
    Settled (registry.handle indexId) (.current session.bindings indexId) session := by
  intro later sameReady sameBindings
  rw [registry.perform_binding indexId (sameReady.trans ready), sameBindings]

/-- Patches that are applied by one call are applied alike by two, wherever they are cut. -/
theorem patch_append {xs ys : List Entries}
    (found : perform handle.binding session = (.ok binding, middle))
    (settled : Settled handle binding middle)
    (keyed : ∀ entries ∈ xs ++ ys,
      ∃ key, entries.lookup binding.keyField = some (.text key)) :
    perform (handle.patch (.list ((xs ++ ys).map .map))) session =
      perform (do
        let first ← handle.patch (.list (xs.map .map))
        let second ← handle.patch (.list (ys.map .map))
        return first + second) session := by
  obtain ⟨keyedFirst, keyedSecond⟩ := List.forall_mem_append.mp keyed
  cases xs with
  | nil =>
    -- Without patches nothing is looked up, so the binding is first found for the second list.
    change _ = perform
      (handle.patch (.list (ys.map .map)) >>= fun second => pure (0 + second)) session
    simp only [Int.zero_add, bind_pure]
    rfl
  | cons entries xs =>
    have done := done_applyPatches binding ((entries :: xs).map .map) middle
    rw [perform_patch_keyed found rfl (by simp) keyed, List.map_append, applyPatches_append,
      perform_bind, perform_bind, perform_patch_keyed found rfl (by simp) keyedFirst]
    cases applied : perform (applyPatches binding ((entries :: xs).map .map)) middle with
    | mk result after =>
      rw [applied] at done
      cases result with
      | error failure => rfl
      | ok first =>
        cases ys with
        | nil => rfl
        | cons other ys =>
          have again := settled after done.ready done.bindings
          change perform (applyPatches binding ((other :: ys).map .map) >>= _) after =
            perform (handle.patch (.list ((other :: ys).map .map)) >>= _) after
          rw [perform_bind, perform_bind, perform_patch_keyed again rfl (by simp) keyedSecond]

/-- Let a call apply patches with texts as keys, whose changes can be stored.  It looks the binding
up, unless there are no patches.  If no statement fails, then it sends one UPDATE for each patch
that changes something, in their order, and returns the sum of the rows that they change.  And if
the handle goes on to find this binding, the call is the same as two calls for the parts of the list,
wherever it is cut. -/
theorem patch_distributes {handle : Handle σ} {binding : Binding} {session middle : Session σ}
    {batch : List Entries} (found : perform handle.binding session = (.ok binding, middle))
    (keyed : ∀ entries ∈ batch, ∃ key, entries.lookup binding.keyField = some (.text key))
    (encodable : ∀ entries ∈ batch, ∀ entry ∈ Document.changed binding entries,
      ∃ cell, Cell.ofField binding entry.1 entry.2 = .ok cell) :
    (∀ input, input.toThings = .ok (batch.map .map) → ∃ start sent,
      start = (if batch = [] then session else middle) ∧
      Records (sent.map .statement) start (perform (handle.patch input) session).2 ∧
      ((∀ entry ∈ answers (sent.map .statement) start.world, entry.2.isSuccess = true) →
        List.Forall₂ (Document.IsUpdate binding)
          (batch.filter (Document.changed binding · ≠ [])) sent ∧
        (perform (handle.patch input) session).1 = .ok (countRows sent start.world))) ∧
      ∀ xs ys, batch = xs ++ ys → Settled handle binding middle →
        perform (handle.patch (.list (batch.map .map))) session =
          perform (do
            let first ← handle.patch (.list (xs.map .map))
            let second ← handle.patch (.list (ys.map .map))
            return first + second) session := by
  refine ⟨fun input same => ?_, ?_⟩
  · by_cases empty : batch = []
    · subst empty
      have nothing : perform (handle.patch input) session = (.ok 0, session) := by
        unfold patch
        rw [perform_bind_things same]
        rfl
      rw [nothing]
      exact ⟨session, [], rfl, .refl session, fun _ => ⟨.nil, rfl⟩⟩
    · obtain ⟨statements, planned, updates⟩ := Document.exists_changes keyed encodable
      have done := done_applyPatches binding (batch.map .map) middle
      have counted := count_of_applyPatches binding (batch.map .map) middle
      rw [planned] at done counted
      rw [perform_patch_keyed found same empty keyed]
      refine ⟨middle, issued statements middle.world, by rw [if_neg empty], done.records,
        fun succeed => ?_⟩
      -- The statements that were sent have succeeded, so that none was held back.
      have all := allSucceed_of_issued (allSucceed_iff.mpr succeed)
      obtain ⟨after, applied⟩ := counted rfl all
      rw [issued_of_allSucceed all, applied]
      exact ⟨updates, rfl⟩
  · rintro xs ys rfl settled
    exact patch_append found settled keyed

/-- For example, the second of three patches changes nothing. -/
theorem patch_distributes_between :
    let binding : Binding := { table := "docs" }
    let handle : Handle Script := Registry.handle {} "docs"
    let session : Session Script :=
      { world :=
          { answers := [{ result := .ok { affected := 2 } }, { result := .ok { affected := 3 } }] }
        ready := true, bindings := [("docs", binding)] }
    let first : Entries := [("id", .text "a"), ("title", .null)]
    let second : Entries := [("id", .text "b")]
    let third : Entries := [("rank", .int 1), ("id", .text "c")]
    ∃ sent,
      Records (sent.map .statement) session
        (perform (handle.patch (.list [.map first, .map second, .map third])) session).2 ∧
      List.Forall₂ (Document.IsUpdate binding) [first, third] sent ∧
      perform (handle.patch (.list [.map first, .map second, .map third])) session =
        perform (do
          let m ← handle.patch (.list [.map first, .map second])
          let n ← handle.patch (.list [.map third])
          return m + n) session ∧
      (perform (handle.patch (.list [.map first, .map second, .map third])) session).1 = .ok 5 := by
  intro binding handle session first second third
  have found : perform handle.binding session = (.ok binding, session) :=
    Registry.perform_binding {} "docs" rfl
  have keyed : ∀ entries ∈ [first, second, third],
      ∃ key, entries.lookup binding.keyField = some (.text key) := by
    simp only [List.forall_mem_cons]
    exact ⟨⟨_, rfl⟩, ⟨_, rfl⟩, ⟨_, rfl⟩, by simp⟩
  have encodable : ∀ entries ∈ [first, second, third],
      ∀ entry ∈ Document.changed binding entries,
        ∃ cell, Cell.ofField binding entry.1 entry.2 = .ok cell := by
    have changed : Document.changed binding first = [("title", .null)] ∧
        Document.changed binding second = [] ∧ Document.changed binding third = [("rank", .int 1)] :=
      ⟨rfl, rfl, rfl⟩
    simp only [List.forall_mem_cons, changed]
    exact ⟨⟨⟨_, rfl⟩, by simp⟩, by simp, ⟨⟨_, rfl⟩, by simp⟩, by simp⟩
  obtain ⟨described, distributes⟩ := patch_distributes found keyed encodable
  obtain ⟨start, sent, unmoved, records, counted⟩ :=
    described (.list [.map first, .map second, .map third]) rfl
  rw [if_neg (List.cons_ne_nil _ _)] at unmoved
  subst unmoved
  let updates : List Statement :=
    [.update ⟨"public", "docs"⟩ "id" [("title", { value := .null })] "a",
      .update ⟨"public", "docs"⟩ "id" [("rank", { value := .int 1 })] "c"]
  have succeed : AllSucceed updates session.world := by
    rw [allSucceed_iff, ← List.all_eq_true]
    decide +kernel
  have total : countRows updates session.world = 5 := by decide +kernel
  have things : (Value.list [.map first, .map second, .map third]).toThings =
      .ok [.map first, .map second, .map third] := rfl
  have planned : (Plan.ofPatches binding [.map first, .map second, .map third]).statements =
      updates := rfl
  have whole := (done_patches found things (by simp)).records
  rw [planned, issued_of_allSucceed succeed] at whole
  have same := List.map_injective_iff.mpr (fun _ _ => Event.statement.inj) (records.unique whole)
  subst same
  obtain ⟨each, count⟩ := counted (allSucceed_iff.mp succeed)
  rw [total] at count
  exact ⟨_, records, each,
    distributes [first, second] [third] rfl (settled_of_ready {} "docs" rfl), count⟩

end Handle

end TableSearch
