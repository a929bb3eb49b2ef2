import TableSearch.Proofs.Index.Plans
import TableSearch.Proofs.Index.Preparation
import TableSearch.Proofs.Index.Refinement

/-!
# Deleted indexes

A deleted index has no binding any more, until it is created or bound again.  The registry then
refuses to describe or to delete it.  But a handle does not tell an index that was deleted from one
that never had a binding: it works on the table that the id names by convention.
-/

namespace TableSearch

open Sql Operation

variable {σ α β : Type}

/-! ## Results that do not miss a binding -/

def FindsBindings.Result (result : Except Failure α) : Prop :=
  ∀ indexId, result ≠ .error (.notBound indexId)

namespace FindsBindings

namespace Result

theorem ok (a : α) : Result (.ok a) := fun _ => nofun

theorem ofConversion (result : Except ConversionError α) :
    Result (Failure.ofConversion result) := by
  cases result <;> exact fun _ => nofun

theorem ofQuery (result : Except QueryError α) : Result (Failure.ofQuery result) := by
  cases result <;> exact fun _ => nofun

theorem ofFilter (result : Except FilterError α) : Result (Failure.ofFilter result) := by
  cases result <;> exact fun _ => nofun

theorem ofChecked (result : Checked α) : Result (Failure.ofChecked result) := by
  cases result <;> exact fun _ => nofun

theorem bind {result : Except Failure α} {next : α → Except Failure β} (first : Result result)
    (rest : ∀ a, Result (next a)) : Result (result >>= next) := by
  intro indexId missing
  obtain missing | ⟨a, -, missing⟩ := bind_eq_error.mp missing
  · exact first indexId missing
  · exact rest a indexId missing

theorem mapM {f : α → Except Failure β} (each : ∀ a, Result (f a)) (items : List α) :
    Result (items.mapM f) := by
  intro indexId missing
  obtain ⟨-, bad, -, -, -, -, missing⟩ := mapM_eq_error missing
  exact each bad indexId missing

end Result

theorem ofExcept {result : Except Failure α} (finds : Result result) :
    FindsBindings (ofExcept result : Operation σ α) := by
  intro session indexId
  rw [perform_ofExcept]
  exact finds indexId

theorem optional {c : Prop} [Decidable c] {action : Operation σ Unit} {next : Operation σ α}
    (first : FindsBindings action) (rest : FindsBindings next) :
    FindsBindings (if c then action >>= fun _ => next else next) := by
  split
  next => exact .bind first fun _ => rest
  next => exact rest

theorem discard {action : Operation σ α} (finds : FindsBindings action) :
    FindsBindings (discard action) := .bind finds fun _ => .pure _

end FindsBindings

open FindsBindings (Result)

/-! ## Queries and documents -/

theorem SearchQuery.result_ofValue (value : Value) : Result (ofValue value) := by
  unfold ofValue
  split
  next => exact .ok _
  next => exact fun _ => nofun
  next => exact .bind (.ofConversion _) fun _ => .ofChecked _
  next => exact .bind (.ofChecked _) fun _ => .ofQuery _
  next => exact fun _ => nofun

theorem SearchQuery.result_normalize (input : QueryInput) : Result (normalize input) := by
  cases input with
  | value value => exact result_ofValue value
  | query q => exact .ofQuery _

theorem Search.result_ofBinding (q : SearchQuery) (binding : Binding) :
    Result (ofBinding q binding) := by
  refine .bind (.ofQuery _) fun _ => ?_
  split
  next => exact .ok _
  next => exact .bind (.bind (.ofFilter _) fun _ => .ok _) fun _ => .ok _

namespace Document

theorem result_key (subject : Subject) (field : String) (document : Value) :
    Result (Document.key subject field document) := by
  refine .bind (.ofConversion _) fun entries => ?_
  split
  next => exact .ok _
  next => exact fun _ => nofun

theorem result_upsert (binding : Binding) (documents : List Value) :
    Result (upsert binding documents) := by
  refine .bind (.ofConversion _) fun fields => .bind (.mapM (fun document => ?_) _) fun _ => .ok _
  refine .bind (result_key _ _ _) fun key => .bind (.ofConversion _) fun entries => ?_
  exact .bind (.ofConversion _) fun cells => .ok _

theorem result_patch (binding : Binding) (document : Value) : Result (patch binding document) := by
  refine .bind (result_key _ _ _) fun key => .bind (.ofConversion _) fun entries => ?_
  refine .bind (.ofConversion _) fun changes => ?_
  split <;> exact .ok _

end Document

/-! ## Handles -/

variable [World σ]

namespace Registry

variable (registry : Registry)

omit [World σ] in
theorem findsBindings_loadRows (rows : List Row) :
    FindsBindings (loadRows rows : Operation σ Unit) := by
  induction rows with
  | nil => exact .pure _
  | cons row rest ih =>
    refine .bind (.ofExcept ?_) fun entry => .bind (fun _ _ => nofun) fun _ => ih
    refine .bind (.ofConversion _) fun config => .bind (.ofConversion _) fun value => ?_
    refine .bind (.ofChecked _) fun binding => .bind (.ofConversion _) fun id => ?_
    split
    next => exact .ok _
    next => exact fun _ => nofun

theorem findsBindings_ensureReady : FindsBindings (registry.ensureReady : Operation σ Unit) := by
  have hook : FindsBindings (runHook : Operation σ Unit) := by
    refine .bind (fun _ _ => nofun) fun _ => .bind (fun _ _ => nofun) fun session => ?_
    refine .bind (fun _ _ => nofun) fun _ => ?_
    split
    next => exact fun _ _ => nofun
    next => exact .pure _
  refine .bind (fun _ _ => nofun) fun session => ?_
  split
  next => exact .pure _
  next =>
    refine .optional hook (.optional (.run_ _) ?_)
    refine .bind (.run_ _) fun _ => .bind (.run_ _) fun _ => .bind (.run _) fun outcome => ?_
    refine .bind (findsBindings_loadRows _) fun _ => .bind (fun _ _ => nofun) fun session => ?_
    exact .bind (.log _) fun _ => fun _ _ => nofun

theorem findsBindings_binding (indexId : String) :
    FindsBindings ((registry.handle indexId).binding : Operation σ Binding) := by
  refine .bind (.bind registry.findsBindings_ensureReady fun _ => ?_) fun _ => .pure _
  exact .bind (fun _ _ => nofun) fun _ => .pure _

end Registry

namespace Handle

theorem findsBindings_applyPatches (binding : Binding) (patches : List Value) :
    FindsBindings (applyPatches binding patches : Operation σ Int) := by
  induction patches with
  | nil => exact .pure _
  | cons patch rest ih =>
    refine .bind (.ofExcept (Document.result_patch _ _)) fun change => ?_
    split
    next => exact ih
    next => exact .bind (.run _) fun outcome => .bind ih fun _ => .pure _

variable {handle : Handle σ} (finds : FindsBindings handle.binding) (input : Value)

include finds

theorem findsBindings_query (input : QueryInput) : FindsBindings (handle.query input) := by
  refine .bind (.ofExcept (SearchQuery.result_normalize _)) fun q => .bind finds fun binding => ?_
  refine .optional (.log _) (.bind (.ofExcept (Search.result_ofBinding _ _)) fun search => ?_)
  refine .bind (.ofConversion _) fun clause => .bind (.run _) fun outcome => ?_
  exact .bind (.ofConversion _) fun hits => .pure _

theorem findsBindings_upsert : FindsBindings (handle.upsert input) := by
  refine .bind (.ofConversion _) fun documents => ?_
  split
  next => exact .pure _
  next =>
    refine .bind finds fun binding => .bind (.ofExcept (Document.result_upsert _ _)) fun _ => ?_
    refine .bind (.run _) fun outcome => .bind (.ofConversion _) fun marks => ?_
    exact .bind (.log _) fun _ => .pure _

theorem findsBindings_patch : FindsBindings (handle.patch input) := by
  refine .bind (.ofConversion _) fun patches => ?_
  split
  next => exact .pure _
  next =>
    refine .bind finds fun binding => .bind (.ofExcept (.mapM ?_ _)) fun _ => ?_
    · exact Document.result_key _ _
    · exact findsBindings_applyPatches _ _

theorem findsBindings_delete : FindsBindings (handle.delete input) := by
  refine .bind (.ofConversion _) fun keys => ?_
  split
  next => exact .pure _
  next =>
    refine .bind finds fun binding => .bind (.run _) fun outcome => ?_
    exact .bind (.log _) fun _ => .pure _

end Handle

namespace Call

/-- No call of a handle ever complains about a missing binding. -/
theorem findsBindings_handled (registry : Registry) {call : Call} {indexId : String}
    (handled : call.handled? = some indexId) :
    FindsBindings (call.operation registry : Operation σ Unit) := by
  have finds := registry.findsBindings_binding (σ := σ) indexId
  cases call with
  | query _ input =>
    cases handled
    exact .discard (Handle.findsBindings_query finds input)
  | upsert _ documents =>
    cases handled
    exact .discard (Handle.findsBindings_upsert finds documents)
  | patch _ patches =>
    cases handled
    exact .discard (Handle.findsBindings_patch finds patches)
  | delete _ keys =>
    cases handled
    exact .discard (Handle.findsBindings_delete finds keys)
  | startup | shutdown | createIndex | bindIndex | bindValue | describeIndex | deleteIndex
  | listIndexes | nextPage => cases handled

end Call

/-! ## Deletion -/

omit [World σ] in
/-- An index without a binding only gets one by a change that binds it. -/
theorem Change.lookup_foldl_eq_none {indexId : String} {changes : List Change}
    {bindings : List (String × Binding)} (unbound : bindings.lookup indexId = none)
    (unchanged : ∀ binding, Change.bind indexId binding ∉ changes) :
    (changes.foldl apply bindings).lookup indexId = none := by
  induction changes generalizing bindings with
  | nil => exact unbound
  | cons change changes ih =>
    refine ih ?_ fun binding mem => unchanged binding (List.mem_cons_of_mem _ mem)
    cases change with
    | bind name binding =>
      have other : indexId ≠ name := fun same =>
        unchanged binding (same ▸ List.mem_cons_self)
      exact (lookup_insertEntry_of_ne binding other).trans unbound
    | release name =>
      rw [lookup_eq_none_iff] at unbound ⊢
      intro mem
      obtain ⟨entry, inside, same⟩ := List.mem_map.mp mem
      exact unbound (List.mem_map.mpr ⟨entry, (List.mem_filter.mp inside).1, same⟩)

/-- A registry that has deleted an index is initialized, and the index has no binding. -/
theorem Registry.perform_delete_eq_ok {registry : Registry} {indexId : String}
    {session after : Session σ}
    (deleted : perform (registry.delete indexId) session = (.ok (), after)) :
    after.ready = true ∧ after.bindings.lookup indexId = none := by
  obtain ⟨_, middle, initialized, rest⟩ := perform_bind_eq_ok.mp deleted
  have ready := registry.ready_of_ensureReady initialized
  -- Once it is initialized, the registry would have made the same change.
  have again : perform (registry.delete indexId) middle = (.ok (), after) :=
    perform_bind_eq_ok.mpr ⟨(), middle, registry.perform_ensureReady ready, rest⟩
  have applies := registry.attempts_delete indexId middle ready
  rw [again] at applies
  refine ⟨applies.ready.trans ready, ?_⟩
  rw [applies.bindings, lookup_eq_none_iff]
  intro mem
  obtain ⟨entry, inside, same⟩ := List.mem_map.mp mem
  exact bne_iff_ne.mp (List.mem_filter.mp inside).2 same

namespace Call

/-- Let an index be deleted, and then anything be called that does not bind it again.  Whatever the
world has answered, the index has no binding, so the registry refuses a call that needs one and
sends nothing.  But a call of a handle for the index never complains about the missing binding.  It
works as it would have worked if the index had never had one: on the table of its name. -/
theorem after_deletion (registry : Registry) {earlier later : List Call} {indexId : String}
    {start middle : Session σ}
    (deleted : perform ((deleteIndex indexId).operation registry) (run registry earlier start) =
      (.ok (), middle))
    (unbound : ∀ binding, Change.bind indexId binding ∉ changes registry later middle)
    (call : Call) :
    let before := run registry later middle
    let made := perform (call.operation registry) before
    before.bindings.lookup indexId = none ∧
      (call.required? = some indexId → made = (.error (.notBound indexId), before)) ∧
      (call.handled? = some indexId →
        (call.plan (.byConvention indexId)).Done before made ∧
        (∀ statement ∈ issued (call.plan (.byConvention indexId)).statements before.world,
          statement.Targets (.byConvention indexId)) ∧
        ∀ other, made.1 ≠ .error (.notBound other)) := by
  intro before made
  obtain ⟨ready, released⟩ := Registry.perform_delete_eq_ok deleted
  have applied := run_applies registry later ready
  have ready : before.ready = true := applied.ready.trans ready
  -- Only binding the index again could make it known, and none of the later changes does.
  have missing : before.bindings.lookup indexId = none := by
    rw [applied.bindings]
    exact Change.lookup_foldl_eq_none released unbound
  refine ⟨missing, fun required => ?_, fun handled => ?_⟩
  · exact (needsBinding registry required).unbound before ready missing
  · have current : Binding.current before.bindings indexId = .byConvention indexId := by
      rw [Binding.current, missing, Option.getD_none]
    have done := done_handled registry ready handled
    rw [current] at done
    obtain ⟨sent, records, targets⟩ := (follows_handled registry handled before ready).recorded
    rw [records.unique done.records] at targets
    simp only [current] at targets
    refine ⟨done, fun statement mem => ?_, findsBindings_handled registry handled before⟩
    exact targets statement (List.mem_map.mpr ⟨statement, mem, rfl⟩)

/-- For example, a deleted index cannot be described, and a document of it is deleted from the table
of its name, although another index has been bound in the meantime. -/
theorem after_deletion_other_bound :
    let earlier := [bindIndex "docs" { table := "articles" }]
    let later := [bindIndex "other" { table := "others" }]
    let deletion := perform ((deleteIndex "docs").operation {})
      (run {} earlier ({ world := {} } : Session Script))
    let before := run {} later deletion.2
    deletion.1 = .ok () ∧
      (perform ((describeIndex "docs").operation {}) before).1 = .error (.notBound "docs") ∧
      Records [.statement (.delete ⟨"public", "docs"⟩ "id" [.text "a"])] before
        (perform ((delete "docs" (.text "a")).operation {}) before).2 := by
  intro earlier later deletion before
  have deleted : deletion = (.ok (), deletion.2) := rfl
  have made : changes {} later deletion.2 = [.bind "other" { table := "others" }] := by
    decide +kernel
  have unbound (binding : Binding) : Change.bind "docs" binding ∉ changes {} later deletion.2 := by
    rw [made]
    simp
  obtain ⟨-, refused, -⟩ := after_deletion {} deleted unbound (describeIndex "docs")
  obtain ⟨-, -, works⟩ := after_deletion {} deleted unbound (delete "docs" (.text "a"))
  obtain ⟨done, -⟩ := works rfl
  exact ⟨rfl, congrArg Prod.fst (refused rfl), done.records⟩

/-- A deleted index is not kept from being written to: a document is deleted from a table that the
index never had. -/
theorem deleted_index_still_works :
    let bound : Session Script := run {} [bindIndex "docs" { table := "articles" }] { world := {} }
    let deletion := perform ((deleteIndex "docs").operation {}) bound
    let made := perform ((delete "docs" (.text "a")).operation {}) deletion.2
    bound.bindings = [("docs", { table := "articles" })] ∧ deletion.1 = .ok () ∧ made.1 = .ok () ∧
      Records [.statement (.delete ⟨"public", "docs"⟩ "id" [.text "a"])] deletion.2 made.2 :=
  ⟨rfl, rfl, rfl, rfl, rfl⟩

end Call

end TableSearch
