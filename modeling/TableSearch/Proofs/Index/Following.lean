import TableSearch.Proofs.Index.Steps
import TableSearch.Proofs.Session.Answers

/-!
# Handles follow the bindings

On an initialized registry a handle looks its binding up anew with every call, and so each
statement that it sends is one for the binding that the registry knows at that time.  Neither
handles nor the calls that only ask a registry change what it knows.
-/

namespace TableSearch

open Sql Operation

variable {σ α : Type}

/-! ## Calls that keep the bindings -/

/-- The binding that an index has among others, or else the one by convention. -/
def Binding.current (bindings : List (String × Binding)) (indexId : String) : Binding :=
  (bindings.lookup indexId).getD (.byConvention indexId)

/-- Sessions of an initialized registry between which the bindings are kept, and only statements
are sent that have a property under these bindings. -/
def Follows [World σ] (P : List (String × Binding) → Statement → Prop) (before after : Session σ) :
    Prop :=
  before.ready = true → Keeps (P before.bindings) before after

variable [World σ]

theorem Follows.isProgress (P : List (String × Binding) → Statement → Prop) :
    IsProgress (Follows P : Session σ → Session σ → Prop) where
  refl session _ := Keeps.isProgress.refl session
  trans {first second third} left right ready := by
    -- The second part speaks of the bindings in the middle, which are those from the start.
    have left := left ready
    have right := right (left.ready.trans ready)
    rw [left.bindings] at right
    exact Keeps.isProgress.trans left right

theorem Follows.of_keeps {P : Statement → Prop} {action : Operation σ α}
    (keeps : Progresses (Keeps P) action) : Progresses (Follows fun _ => P) action :=
  fun session _ => keeps session

theorem Keeps.allows (P : Statement → Prop) : Allows (Keeps P : Session σ → Session σ → Prop) P :=
  ⟨Keeps.isProgress, Keeps.log, Keeps.run⟩

theorem Follows.allows (P : Statement → Prop) :
    Allows (Follows fun _ => P : Session σ → Session σ → Prop) P :=
  ⟨Follows.isProgress _, fun entry => .of_keeps (Keeps.log entry),
    fun sent => .of_keeps (Keeps.run sent)⟩

theorem Registry.perform_ensureReady (registry : Registry) {session : Session σ}
    (ready : session.ready = true) :
    perform registry.ensureReady session = (.ok (), session) := by
  unfold Registry.ensureReady
  simp only [perform_bind, perform_get, ready, if_true, perform_pure]

theorem Registry.perform_ensureReady_of_fresh (registry : Registry) {session : Session σ}
    (fresh : session.ready = false) :
    perform registry.ensureReady session = perform registry.prepare session := by
  unfold Registry.ensureReady
  simp only [perform_bind, perform_get, fresh, Bool.false_eq_true, if_false]

omit [World σ] in
/-- A binding that must be there is looked up, and nothing else happens. -/
theorem Registry.perform_requireBinding (indexId : String) (session : Session σ) :
    perform (requireBinding indexId) session =
      (match session.bindings.lookup indexId with
        | some binding => .ok binding
        | none => .error (.notBound indexId), session) := by
  unfold requireBinding binding?
  simp only [perform_bind, perform_get, perform_pure]
  cases session.bindings.lookup indexId <;> rfl

omit [World σ] in
theorem Registry.perform_requireBinding_eq_ok {indexId : String} {binding : Binding}
    {session after : Session σ} :
    perform (requireBinding indexId) session = (.ok binding, after) ↔
      session.bindings.lookup indexId = some binding ∧ after = session := by
  rw [perform_requireBinding, Prod.mk.injEq, eq_comm (a := session)]
  cases session.bindings.lookup indexId <;> simp

theorem Registry.follows_ensureReady (registry : Registry)
    (P : List (String × Binding) → Statement → Prop) :
    Progresses (Follows P) (registry.ensureReady : Operation σ Unit) := by
  intro session ready
  rw [registry.perform_ensureReady ready]
  exact Keeps.isProgress.refl session

theorem Registry.perform_binding (registry : Registry) (indexId : String) {session : Session σ}
    (ready : session.ready = true) :
    perform (registry.handle indexId).binding session =
      (.ok (.current session.bindings indexId), session) := by
  have resolved : perform (registry.handle indexId).resolve session =
      (.ok (session.bindings.lookup indexId), session) := by
    change perform (registry.ensureReady >>= fun _ => binding? indexId) session = _
    rw [perform_bind, registry.perform_ensureReady ready]
    rfl
  unfold Handle.binding
  rw [perform_bind, resolved]
  rfl

namespace Handle

variable (registry : Registry) (indexId : String)

/-- Sessions between which a handle sends statements for the binding of its index only. -/
abbrev FollowsIndex (indexId : String) : Session σ → Session σ → Prop :=
  Follows fun bindings => Statement.Targets (.current bindings indexId)

theorem followsIndex (indexId : String) :
    IsProgress (FollowsIndex indexId : Session σ → Session σ → Prop) := Follows.isProgress _

/-- A handle follows its index if it does with whatever binding it finds. -/
theorem follows_binding {next : Binding → Operation σ α}
    (rest : ∀ binding, Progresses (Keeps (Statement.Targets binding)) (next binding)) :
    Progresses (FollowsIndex indexId) ((registry.handle indexId).binding >>= next) := by
  intro session ready
  rw [perform_bind, registry.perform_binding indexId ready]
  exact rest _ session

end Handle

/-! ## Calls of a handle -/

theorem Call.follows_handled (registry : Registry) {call : Call} {indexId : String}
    (handled : call.handled? = some indexId) :
    Progresses (Handle.FollowsIndex indexId) (call.operation registry : Operation σ Unit) :=
  Call.progresses_handled registry handled (Handle.followsIndex indexId) (fun _ => Keeps.allows _)
    (Handle.follows_binding registry indexId)

end TableSearch
