import TableSearch.Proofs.Index.Changes
import TableSearch.Session.Script

/-!
# The registry as a map

An initialized registry is a map from indexes to bindings.  Its calls change the map along with
the table of bindings, find out whether an index is bound, and work on the table that the map
names, whatever the world answers on the way.
-/

namespace TableSearch

open Sql Operation

variable {σ α β : Type} [World σ]

/-! ## Missing bindings -/

def FindsBindings (action : Operation σ α) : Prop :=
  ∀ session indexId, (perform action session).1 ≠ .error (.notBound indexId)

namespace FindsBindings

omit [World σ] in
theorem pure (a : α) : FindsBindings (Pure.pure a : Operation σ α) := fun _ _ => nofun

omit [World σ] in
theorem log (entry : LogEntry) : FindsBindings (log entry : Operation σ Unit) := fun _ _ => nofun

omit [World σ] in
theorem bind {action : Operation σ α} {next : α → Operation σ β} (first : FindsBindings action)
    (rest : ∀ a, FindsBindings (next a)) : FindsBindings (action >>= next) := by
  intro session indexId
  have first := first session indexId
  rw [perform_bind]
  split
  next a middle same => exact rest a middle indexId
  next failure middle same =>
    rw [same] at first
    exact fun unbound => first (congrArg Except.error (Except.error.inj unbound))

omit [World σ] in
theorem ofConversion (result : Except ConversionError α) :
    FindsBindings (ofConversion result : Operation σ α) := by
  intro session indexId
  rw [Operation.ofConversion, perform_ofExcept]
  cases result <;> nofun

theorem run (statement : Statement) : FindsBindings (run statement : Operation σ Outcome) := by
  intro session indexId
  rw [perform_run]
  cases (World.execute statement session.world).1 with
  | error message => nofun
  | ok result =>
    rw [Answer.outcome_ok]
    cases Outcome.ofResult result <;> nofun

theorem run_ (statement : Statement) : FindsBindings (run_ statement : Operation σ Unit) :=
  .bind (run statement) fun _ => .pure _

end FindsBindings

/-- An operation of an initialized registry that complains at once about a missing binding of an
index, and that never complains if it is there. -/
structure NeedsBinding (indexId : String) (action : Operation σ α) : Prop where
  unbound : ∀ session, session.ready = true → session.bindings.lookup indexId = none →
    perform action session = (.error (.notBound indexId), session)
  bound : ∀ session binding, session.ready = true →
    session.bindings.lookup indexId = some binding →
    ∀ other, (perform action session).1 ≠ .error (.notBound other)

namespace NeedsBinding

variable {indexId : String}

omit [World σ] in
theorem requireBinding {next : Binding → Operation σ α}
    (rest : ∀ binding, FindsBindings (next binding)) :
    NeedsBinding indexId (Registry.requireBinding indexId >>= next) where
  unbound session _ unbound := by
    rw [perform_bind, Registry.perform_requireBinding, unbound]
  bound session binding _ bound := by
    rw [perform_bind, Registry.perform_requireBinding, bound]
    exact rest binding session

theorem ensureReady (registry : Registry) {next : Unit → Operation σ α}
    (needs : NeedsBinding indexId (next ())) :
    NeedsBinding indexId (registry.ensureReady >>= next) where
  unbound session ready unbound := by
    rw [perform_bind, registry.perform_ensureReady ready]
    exact needs.unbound session ready unbound
  bound session binding ready bound := by
    rw [perform_bind, registry.perform_ensureReady ready]
    exact needs.bound session binding ready bound

omit [World σ] in
theorem discard {action : Operation σ α} (needs : NeedsBinding indexId action) :
    NeedsBinding indexId (discard action) where
  unbound session ready unbound := by
    change perform (action >>= fun _ => Pure.pure ()) session = _
    rw [perform_bind, needs.unbound session ready unbound]
  bound session binding ready bound other := by
    have never := needs.bound session binding ready bound other
    change (perform (action >>= fun _ => Pure.pure ()) session).1 ≠ _
    rw [perform_bind]
    split
    next => nofun
    next failure after same =>
      rw [same] at never
      exact fun missing => never (congrArg Except.error (Except.error.inj missing))

end NeedsBinding

namespace Registry

variable (registry : Registry) (indexId : String)

theorem needsBinding_describe :
    NeedsBinding indexId (registry.describe indexId : Operation σ IndexStats) := by
  refine .ensureReady registry (.requireBinding fun binding => ?_)
  refine .bind (.run _) fun rows => .bind (.run _) fun size => ?_
  exact .bind (.ofConversion _) fun count => .bind (.ofConversion _) fun sizeBytes => .pure _

theorem needsBinding_delete :
    NeedsBinding indexId (registry.delete indexId : Operation σ Unit) := by
  refine .ensureReady registry (.requireBinding fun binding => ?_)
  refine .bind (.run_ _) fun _ => .bind (.run_ _) fun _ => ?_
  exact .bind (fun _ _ => nofun) fun _ => .log _

end Registry

namespace Call

def required? : Call → Option String
  | describeIndex indexId | deleteIndex indexId => some indexId
  | _ => none

theorem needsBinding (registry : Registry) {call : Call} {indexId : String}
    (required : call.required? = some indexId) :
    NeedsBinding indexId (call.operation registry : Operation σ Unit) := by
  cases call with
  | describeIndex =>
    cases required
    exact .discard (registry.needsBinding_describe indexId)
  | deleteIndex =>
    cases required
    exact registry.needsBinding_delete indexId
  | startup | shutdown | createIndex | bindIndex | bindValue | listIndexes | nextPage | query
  | upsert | patch | delete => cases required

/-- After any calls to an initialized registry, and whatever the world has answered, the bindings
are those from before, changed in order by what the calls that succeeded asked for; and these
changes are the ones that accepted statements have written into the table of bindings.  Of any
further call, let `added` be what it records.  Without an accepted write the bindings stay as they
are.  A call that needs a binding fails for its lack, without a statement, exactly if it is not
there.  A handle sends statements for the binding of its index at that time. -/
theorem run_refines (registry : Registry) (calls : List Call) (call : Call) {session : Session σ}
    (ready : session.ready = true) :
    let before := run registry calls session
    let result := (perform (call.operation registry) before).1
    let after := (perform (call.operation registry) before).2
    Applies registry (changes registry calls session) session before ∧
    ∃ added, Records added before after ∧
      (acceptedWrites (answers added before.world) = [] → after.bindings = before.bindings) ∧
      (∀ indexId, call.required? = some indexId →
        ((∃ other, result = .error (.notBound other)) ↔ before.bindings.lookup indexId = none) ∧
        (before.bindings.lookup indexId = none →
          result = .error (.notBound indexId) ∧ added = [])) ∧
      (∀ indexId, call.handled? = some indexId →
        ∀ statement, Event.statement statement ∈ added →
          statement.Targets (.current before.bindings indexId)) := by
  intro before result after
  have applied := run_applies registry calls ready
  have ready : before.ready = true := applied.ready.trans ready
  have step := call.attempts registry before ready
  obtain ⟨added, records, written⟩ := step.recorded
  refine ⟨applied, added, records, fun none => ?_, fun indexId required => ?_,
    fun indexId handled => ?_⟩
  · -- Changes and accepted writes come in pairs, so there is no change either.
    rw [none, List.forall₂_nil_right_iff] at written
    have kept := step.bindings
    rwa [written] at kept
  · have needs := needsBinding (σ := σ) registry required
    refine ⟨⟨fun ⟨other, missing⟩ => ?_, fun unbound => ?_⟩, fun unbound => ?_⟩
    · rw [← Option.not_isSome_iff_eq_none, Option.isSome_iff_exists]
      rintro ⟨binding, bound⟩
      exact needs.bound before binding ready bound other missing
    · exact ⟨indexId, congrArg Prod.fst (needs.unbound before ready unbound)⟩
    · -- The call leaves the session as it is, so it has recorded nothing.
      have fails := needs.unbound before ready unbound
      refine ⟨congrArg Prod.fst fails, ?_⟩
      have unchanged : Records [] before after := by
        have same : after = before := congrArg Prod.snd fails
        rw [same]
        exact .refl before
      exact records.unique unchanged
  · obtain ⟨sent, records', targets⟩ := (follows_handled registry handled before ready).recorded
    rwa [records.unique records']

/-- For example, a refused insert leaves its index unbound, and so the index cannot be deleted. -/
theorem run_refines_refused_insert :
    let session : Session Script :=
      { world := { answers := [{ mark := "INSERT", result := .error "disk full" }] }, ready := true }
    let calls := [bindIndex "a" { table := "first" }, bindIndex "b" { table := "second" }]
    session.ready = true ∧ (run {} calls session).bindings = [("b", { table := "second" })] ∧
      (perform ((deleteIndex "a").operation {}) (run {} calls session)).1 =
        .error (.notBound "a") := by
  intro session calls
  have ready : session.ready = true := rfl
  obtain ⟨applied, added, -, -, required, -⟩ :=
    run_refines {} calls (deleteIndex "a") ready
  have made : changes {} calls session = [.bind "b" { table := "second" }] := by decide +kernel
  have bindings : (run {} calls session).bindings = [("b", { table := "second" })] := by
    rw [applied.bindings, made]
    rfl
  refine ⟨ready, bindings, ((required "a" rfl).2 ?_).1⟩
  rw [bindings]
  rfl

end Call

end TableSearch
