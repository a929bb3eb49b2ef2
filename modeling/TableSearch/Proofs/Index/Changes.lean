import TableSearch.Proofs.Index.Creation
import TableSearch.Proofs.Index.Following

/-!
# Changes to the known bindings

What an initialized registry knows is a map from indexes to bindings.  A call changes it by one
step at most: a call that succeeds makes the change that it asks for, along with the accepted
statement that writes this change into the table of bindings, and a call that fails makes none.
-/

namespace TableSearch

open Sql Operation

variable {σ α β : Type}

/-! ## Changes -/

/-- A change to a map of bindings. -/
inductive Change where
  | bind (indexId : String) (binding : Binding)
  | release (indexId : String)
deriving DecidableEq, Repr

namespace Change

def apply (bindings : List (String × Binding)) : Change → List (String × Binding)
  | bind indexId binding => insertEntry indexId binding bindings
  | release indexId => bindings.filter (·.1 != indexId)

/-- The statements that make a change in the table of bindings. -/
inductive WrittenBy (registry : Registry) : Change → Statement → Prop where
  | bind (indexId : String) (binding : Binding) (createdAt : Int) :
      WrittenBy registry (.bind indexId binding)
        (.storeBinding registry.table indexId binding.toJson createdAt)
  | release (indexId : String) :
      WrittenBy registry (.release indexId) (.forgetBinding registry.table indexId)

end Change

/-- Whether a statement inserts into a table of bindings, or deletes from it. -/
def Sql.Statement.isBindingWrite : Statement → Bool
  | .storeBinding .. | .forgetBinding .. => true
  | _ => false

theorem Change.WrittenBy.isBindingWrite {registry : Registry} {change : Change}
    {statement : Statement} (written : change.WrittenBy registry statement) :
    statement.isBindingWrite = true := by
  cases written <;> rfl

theorem Sql.Statement.Targets.not_isBindingWrite {binding : Binding} {statement : Statement}
    (targets : statement.Targets binding) : statement.isBindingWrite = false := by
  cases targets <;> rfl

/-- The statements among some answered ones that wrote bindings with success. -/
def acceptedWrites (answered : List (Statement × Answer)) : List Statement :=
  (answered.filter fun entry => entry.1.isBindingWrite && entry.2.isSuccess).map (·.1)

theorem acceptedWrites_append (first rest : List (Statement × Answer)) :
    acceptedWrites (first ++ rest) = acceptedWrites first ++ acceptedWrites rest := by
  rw [acceptedWrites, List.filter_append, List.map_append]
  rfl

variable [World σ]

/-- Sessions between which some changes are made to the bindings, each of them along with an
accepted statement. -/
structure Applies (registry : Registry) (changes : List Change) (before after : Session σ) :
    Prop where
  recorded : ∃ added, Records added before after ∧
    List.Forall₂ (Change.WrittenBy registry) changes (acceptedWrites (answers added before.world))
  ready : after.ready = before.ready
  bindings : after.bindings = changes.foldl Change.apply before.bindings

namespace Applies

variable {registry : Registry}

theorem refl (session : Session σ) : Applies registry [] session session :=
  ⟨⟨[], .refl session, .nil⟩, rfl, rfl⟩

theorem trans {first second : List Change} {before middle after : Session σ}
    (left : Applies registry first before middle) (right : Applies registry second middle after) :
    Applies registry (first ++ second) before after := by
  obtain ⟨⟨added, records, written⟩, ready, bindings⟩ := left
  obtain ⟨⟨more, records', written'⟩, ready', bindings'⟩ := right
  refine ⟨⟨added ++ more, records.trans records', ?_⟩, ready'.trans ready, ?_⟩
  · -- The second part was answered by the world that the first part left behind.
    rw [answers_append, acceptedWrites_append, ← records.world]
    exact List.rel_append written written'
  · rw [bindings', bindings, List.foldl_append]

theorem of_keeps {before after : Session σ}
    (keeps : Keeps (fun statement => statement.isBindingWrite = false) before after) :
    Applies registry [] before after := by
  obtain ⟨⟨added, records, sent⟩, ready, bindings⟩ := keeps
  refine ⟨⟨added, records, ?_⟩, ready, bindings⟩
  have none : acceptedWrites (answers added before.world) = [] := by
    rw [acceptedWrites, List.map_eq_nil_iff, List.filter_eq_nil_iff]
    rintro ⟨statement, answer⟩ mem
    simp [sent statement (mem_of_mem_answers mem)]
  rw [none]
  exact .nil

/-- A statement that is refused changes nothing. -/
theorem of_refused {statement : Statement} {session : Session σ} {failure : Failure}
    (refused : Answer.outcome (World.execute statement session.world).1 = .error failure) :
    Applies registry [] session (session.executed statement) := by
  refine ⟨⟨_, session.records_executed statement, ?_⟩, rfl, rfl⟩
  have none : acceptedWrites (answers [.statement statement] session.world) = [] := by
    simp [acceptedWrites, Answer.isSuccess, refused, Except.isOk, Except.toBool]
  rw [none]
  exact .nil

/-- A change is made along with the statement that writes it. -/
theorem of_accepted {change : Change} {statement : Statement} {session : Session σ}
    {outcome : Outcome} (written : change.WrittenBy registry statement)
    (accepted : Answer.outcome (World.execute statement session.world).1 = .ok outcome) :
    Applies registry [change] session
      { session.executed statement with bindings := change.apply session.bindings } := by
  refine ⟨⟨[.statement statement], ⟨rfl, rfl⟩, ?_⟩, rfl, rfl⟩
  have one : acceptedWrites (answers [.statement statement] session.world) = [statement] := by
    simp [acceptedWrites, written.isBindingWrite, Answer.isSuccess, accepted, Except.isOk,
      Except.toBool]
  rw [one]
  exact .cons written .nil

end Applies

/-! ## Operations that attempt a change -/

def Change.made (change : Option Change) : Except Failure α → List Change
  | .ok _ => change.toList
  | .error _ => []

/-- An operation of an initialized registry that makes a change if it succeeds, and none if it
fails. -/
def Attempts (registry : Registry) (change : Option Change) (action : Operation σ α) : Prop :=
  ∀ session, session.ready = true →
    Applies registry (Change.made change (perform action session).1) session
      (perform action session).2

abbrev KeepsBindings : Session σ → Session σ → Prop :=
  Follows fun _ statement => statement.isBindingWrite = false

theorem KeepsBindings.allows :
    Allows (KeepsBindings : Session σ → Session σ → Prop) fun statement =>
      statement.isBindingWrite = false := Follows.allows _

theorem keepsBindings : IsProgress (KeepsBindings : Session σ → Session σ → Prop) :=
  KeepsBindings.allows.progress

theorem Handle.FollowsIndex.keepsBindings {indexId : String} {before after : Session σ}
    (follows : FollowsIndex indexId before after) : KeepsBindings before after :=
  fun ready => (follows ready).mono fun _ => Statement.Targets.not_isBindingWrite

namespace Attempts

variable {registry : Registry} {change : Option Change}

theorem of_keeps {action : Operation σ α} (keeps : Progresses KeepsBindings action) :
    Attempts registry none action := by
  intro session ready
  have applies : Applies registry [] session (perform action session).2 :=
    .of_keeps (keeps session ready)
  cases (perform action session).1 <;> exact applies

/-- Steps in front of an attempt that keep the bindings. -/
theorem after_keeps {action : Operation σ α} {next : α → Operation σ β}
    (keeps : Progresses KeepsBindings action) (rest : ∀ a, Attempts registry change (next a)) :
    Attempts registry change (action >>= next) := by
  intro session ready
  have kept := keeps session ready
  rw [perform_bind]
  split
  next a middle first =>
    rw [first] at kept
    exact (Applies.of_keeps kept).trans (rest a middle (kept.ready.trans ready))
  next failure middle first =>
    rw [first] at kept
    exact Applies.of_keeps kept

theorem after_ofExcept {result : Except Failure α} {next : α → Operation σ β}
    (rest : ∀ a, result = .ok a → Attempts registry change (next a)) :
    Attempts registry change (ofExcept result >>= next) := by
  intro session ready
  rw [perform_bind, perform_ofExcept]
  cases result with
  | ok a => exact rest a rfl session ready
  | error failure => exact Applies.refl session

/-- A log entry behind an attempt. -/
theorem before_log {action : Operation σ Unit} (attempts : Attempts registry change action)
    (entry : LogEntry) :
    Attempts registry change (action >>= fun _ => log entry) := by
  intro session ready
  have applies := attempts session ready
  rw [perform_bind]
  split
  next a middle first =>
    rw [first] at applies
    -- A log entry cannot fail, so the result remains that of the attempt.
    have logged : Applies registry [] middle (perform (log entry) middle).2 :=
      .of_keeps (Keeps.log entry middle)
    rw [← List.append_nil (Change.made _ _)]
    exact applies.trans logged
  next failure middle first =>
    rw [first] at applies
    exact applies

/-- The statement that writes a change, and then the change. -/
theorem write {change : Change} {statement : Statement} {modification : Session σ → Session σ}
    (written : change.WrittenBy registry statement)
    (modifies : ∀ session, modification session =
      { session with bindings := change.apply session.bindings }) :
    Attempts registry (some change) (run_ statement >>= fun _ => modify modification) := by
  intro session ready
  rw [perform_bind, perform_run_]
  cases answered : Answer.outcome (World.execute statement session.world).1 with
  | error failure => exact Applies.of_refused answered
  | ok outcome =>
    change Applies registry [change] session (modification (session.executed statement))
    rw [modifies]
    exact Applies.of_accepted written answered

end Attempts

namespace Registry

variable (registry : Registry)

theorem keeps_ensureReady : Progresses KeepsBindings (registry.ensureReady : Operation σ Unit) :=
  registry.follows_ensureReady _

theorem keeps_requireBinding (indexId : String) :
    Progresses KeepsBindings (requireBinding indexId : Operation σ Binding) := by
  intro session ready
  rw [perform_requireBinding]
  exact Keeps.isProgress.refl session

theorem attempts_save (indexId : String) (binding : Binding) :
    Attempts registry (some (.bind indexId binding))
      (registry.save indexId binding : Operation σ Unit) := by
  refine .after_keeps (.get keepsBindings) fun session => ?_
  refine .after_keeps (.ofExcept keepsBindings _) fun createdAt => ?_
  exact .write (.bind indexId binding createdAt) fun _ => rfl

theorem attempts_bind (indexId : String) (binding : Binding) :
    Attempts registry (some (.bind indexId binding))
      (registry.bind indexId binding : Operation σ Unit) := by
  refine .after_keeps registry.keeps_ensureReady fun _ => ?_
  exact .before_log (registry.attempts_save indexId binding) _

theorem attempts_delete (indexId : String) :
    Attempts registry (some (.release indexId)) (registry.delete indexId : Operation σ Unit) := by
  refine .after_keeps registry.keeps_ensureReady fun _ => ?_
  refine .after_keeps (keeps_requireBinding indexId) fun binding => ?_
  refine .after_keeps (KeepsBindings.allows.run_ rfl) fun _ => ?_
  -- The statement and the change that comes with it are taken as one step.
  have written : Attempts registry (some (.release indexId)) (do
      run_ (.forgetBinding registry.table indexId)
      forget indexId : Operation σ Unit) := .write (.release indexId) fun _ => rfl
  have logged := written.before_log (.dropped indexId)
  rwa [bind_assoc] at logged

/-- The binding that the creation of an index stores, if its schema is accepted. -/
def newBinding? (indexId schemaName : String) (schema : Value) : Option Binding := do
  let fields ← (readSchema schema).toOption
  let key ← fields.key.toOption
  return fields.binding schemaName indexId key

theorem newBinding?_eq_some {indexId schemaName key : String} {schema : Value}
    {fields : IndexSchema} (read : readSchema schema = .ok fields) (keyed : fields.key = .ok key) :
    newBinding? indexId schemaName schema = some (fields.binding schemaName indexId key) := by
  rw [newBinding?, read, Except.toOption, Option.bind_eq_bind, Option.bind_some, keyed]
  rfl

theorem attempts_createIndex (indexId schemaName : String) (schema : Value) :
    Attempts registry ((newBinding? indexId schemaName schema).map (.bind indexId))
      (registry.createIndex indexId schemaName schema : Operation σ Unit) := by
  -- Which binding is saved is settled before the first statement, by the schema alone.
  refine .after_ofExcept fun fields read => .after_ofExcept fun key keyed => ?_
  rw [newBinding?_eq_some read (mapError_eq_ok.mp keyed)]
  refine .after_keeps registry.keeps_ensureReady fun _ => ?_
  refine .after_keeps (.ofExcept keepsBindings _) fun _ => ?_
  refine .after_keeps (KeepsBindings.allows.run_ rfl) fun _ => ?_
  refine .after_keeps
    (progresses_createIndexes KeepsBindings.allows _ (fun _ _ => rfl) _) fun _ => ?_
  exact .before_log (registry.attempts_save indexId _) _

theorem keeps_shutdown : Progresses KeepsBindings (shutdown : Operation σ Unit) := by
  intro session _
  refine ⟨⟨[.dispose], ⟨rfl, rfl⟩, fun statement mem => ?_⟩, rfl, rfl⟩
  cases List.mem_singleton.mp mem

end Registry

/-! ## Calls -/

namespace Call

/-- The change that a call asks for, if its arguments are accepted. -/
def change? : Call → Option Change
  | createIndex indexId schemaName schema =>
    (Registry.newBinding? indexId schemaName schema).map (.bind indexId)
  | bindIndex indexId binding => some (.bind indexId binding)
  | bindValue indexId value =>
    (Failure.ofChecked (Binding.read value)).toOption.map (.bind indexId)
  | deleteIndex indexId => some (.release indexId)
  | _ => none

variable (registry : Registry)

/-- A call makes the change that it asks for if it succeeds, and no change if it fails. -/
theorem attempts (call : Call) :
    Attempts registry call.change? (call.operation registry : Operation σ Unit) := by
  cases call with
  | startup => exact .of_keeps registry.keeps_ensureReady
  | shutdown => exact .of_keeps Registry.keeps_shutdown
  | createIndex indexId schemaName schema =>
    exact registry.attempts_createIndex indexId schemaName schema
  | bindIndex indexId binding => exact registry.attempts_bind indexId binding
  | bindValue indexId value =>
    -- A value that is no binding is refused before the call has done anything.
    refine .after_ofExcept fun binding read => ?_
    rw [change?, read]
    exact registry.attempts_bind indexId binding
  | describeIndex indexId =>
    refine .of_keeps (.discard keepsBindings ?_)
    exact registry.progresses_describe KeepsBindings.allows indexId registry.keeps_ensureReady
      (Registry.keeps_requireBinding indexId) (fun _ => rfl) fun _ => rfl
  | deleteIndex indexId => exact registry.attempts_delete indexId
  | listIndexes params =>
    refine .of_keeps (.discard keepsBindings ?_)
    exact registry.progresses_list KeepsBindings.allows (fun _ _ _ => rfl) params
      registry.keeps_ensureReady
  | nextPage page =>
    refine .of_keeps (.discard keepsBindings ?_)
    exact registry.progresses_next KeepsBindings.allows (fun _ _ _ => rfl) page
  | query indexId | upsert indexId | patch indexId | delete indexId =>
    exact .of_keeps fun session => (follows_handled registry rfl session).keepsBindings

/-- The changes that several calls make, one after the other: those of the calls that succeed. -/
def changes : List Call → Session σ → List Change
  | [], _ => []
  | call :: rest, session =>
    let (result, after) := (call.operation registry).perform session
    Change.made call.change? result ++ changes rest after

theorem run_applies (calls : List Call) {session : Session σ} (ready : session.ready = true) :
    Applies registry (changes registry calls session) session (run registry calls session) := by
  induction calls generalizing session with
  | nil => exact .refl session
  | cons call rest ih =>
    have step := call.attempts registry session ready
    exact step.trans (ih (step.ready.trans ready))

end Call

end TableSearch
