import TableSearch.Proofs.Index.Calls
import TableSearch.Proofs.Results
import TableSearch.Proofs.Session.Progress

/-!
# The steps of calls

What a call does is a sequence of steps, most of which write a log entry or run a statement of a
certain kind.  A relation between sessions that allows such steps holds for the whole call.
-/

namespace TableSearch

open Sql Operation

/-! ## Targets -/

/-- The statements that touch the rows in the table of a binding, and that name its key column
as the one of the key. -/
inductive Sql.Statement.Targets (binding : Binding) : Statement → Prop where
  | search {search : Search} {clause : Clause} (table : search.table = binding.tableName)
      (keyColumn : search.keyColumn = binding.keyColumn) (written : search.clause = .ok clause) :
      Targets binding (.search clause)
  | upsert (columns : List String) (rows : List (List Cell)) :
      Targets binding (.upsert binding.tableName binding.keyColumn columns rows)
  | update (changes : List (String × Cell)) (key : String) :
      Targets binding (.update binding.tableName binding.keyColumn changes key)
  | delete (keys : List Value) : Targets binding (.delete binding.tableName binding.keyColumn keys)

theorem Search.table_of_ofBinding {q : SearchQuery} {binding : Binding} {search : Search}
    (accepted : ofBinding q binding = .ok search) :
    search.table = binding.tableName ∧ search.keyColumn = binding.keyColumn := by
  simp only [ofBinding, ofQuery, bind_eq_ok] at accepted
  obtain ⟨-, -, accepted⟩ := accepted
  split at accepted
  next =>
    cases accepted
    exact ⟨rfl, rfl⟩
  next =>
    simp only [bind_eq_ok, pure_eq_ok] at accepted
    obtain ⟨_, -, rfl⟩ := accepted
    exact ⟨rfl, rfl⟩

theorem Document.upsert_targets {binding : Binding} {documents : List Value} {statement : Statement}
    (written : Document.upsert binding documents = .ok statement) : statement.Targets binding := by
  simp only [Document.upsert, bind_eq_ok, pure_eq_ok] at written
  obtain ⟨fields, -, rows, -, rfl⟩ := written
  exact .upsert _ _

theorem Document.patch_targets {binding : Binding} {patch : Value} {statement : Statement}
    (written : Document.patch binding patch = .ok (some statement)) :
    statement.Targets binding := by
  simp only [Document.patch, bind_eq_ok] at written
  obtain ⟨key, -, entries, -, changes, -, written⟩ := written
  split at written
  next => cases written
  next =>
    cases Option.some.inj (pure_eq_ok.mp written)
    exact .update _ _

/-! ## Allowed steps -/

variable {σ α : Type} [World σ]

/-- A relation that holds along log entries and statements with a property. -/
structure Allows (R : Session σ → Session σ → Prop) (P : Statement → Prop) : Prop where
  progress : IsProgress R
  log : ∀ entry, Progresses R (log entry : Operation σ Unit)
  run : ∀ {statement}, P statement → Progresses R (run statement : Operation σ Outcome)

theorem Allows.mono {R : Session σ → Session σ → Prop} {P Q : Statement → Prop}
    (allows : Allows R P) (implies : ∀ {statement}, Q statement → P statement) : Allows R Q :=
  ⟨allows.progress, allows.log, fun sent => allows.run (implies sent)⟩

theorem Allows.run_ {R : Session σ → Session σ → Prop} {P : Statement → Prop} (allows : Allows R P)
    {statement : Statement} (sent : P statement) :
    Progresses R (run_ statement : Operation σ Unit) :=
  .bind allows.progress (allows.run sent) fun _ => .pure allows.progress _

namespace Handle

theorem progresses_applyPatches {binding : Binding} {R : Session σ → Session σ → Prop}
    (steps : Allows R (Statement.Targets binding)) (patches : List Value) :
    Progresses R (applyPatches binding patches) := by
  induction patches with
  | nil => exact .pure steps.progress _
  | cons patch rest ih =>
    refine .bind_ofExcept steps.progress fun statement written => ?_
    split
    next => exact ih
    next statement =>
      refine .bind steps.progress (steps.run (Document.patch_targets written)) fun outcome => ?_
      exact .bind steps.progress ih fun affected => .pure steps.progress _

variable {handle : Handle σ} {R : Session σ → Session σ → Prop}
  {Q : Binding → Session σ → Session σ → Prop} (progress : IsProgress R)
  (allows : ∀ binding, Allows (Q binding) (Statement.Targets binding))
  -- What follows the lookup of the binding depends on the binding, and its relation may, too.
  (resolves : ∀ {α : Type} {next : Binding → Operation σ α},
    (∀ binding, Progresses (Q binding) (next binding)) → Progresses R (handle.binding >>= next))

include progress allows resolves

theorem progresses_query (input : QueryInput) : Progresses R (handle.query input) := by
  refine .bind progress (.ofExcept progress _) fun q => resolves fun binding => ?_
  have steps := allows binding
  refine .optional steps.progress (steps.log _) ?_
  refine .bind_ofExcept steps.progress fun search accepted => ?_
  obtain ⟨table, keyColumn⟩ := Search.table_of_ofBinding accepted
  refine .bind_ofExcept steps.progress fun clause converted => ?_
  have targets := Statement.Targets.search table keyColumn (mapError_eq_ok.mp converted)
  refine .bind steps.progress (steps.run targets) fun outcome => ?_
  exact .bind steps.progress (.ofExcept steps.progress _) fun hits => .pure steps.progress _

theorem progresses_upsert (input : Value) : Progresses R (handle.upsert input) := by
  refine .bind progress (.ofExcept progress _) fun documents => ?_
  split
  next => exact .pure progress _
  next =>
    refine resolves fun binding => ?_
    have steps := allows binding
    refine .bind_ofExcept steps.progress fun statement written => ?_
    refine .bind steps.progress (steps.run (Document.upsert_targets written)) fun outcome => ?_
    refine .bind steps.progress (.ofExcept steps.progress _) fun marks => ?_
    exact .bind steps.progress (steps.log _) fun _ => .pure steps.progress _

theorem progresses_patch (input : Value) : Progresses R (handle.patch input) := by
  refine .bind progress (.ofExcept progress _) fun patches => ?_
  split
  next => exact .pure progress _
  next =>
    refine resolves fun binding => ?_
    have steps := allows binding
    refine .bind steps.progress (.ofExcept steps.progress _) fun keys => ?_
    exact progresses_applyPatches steps _

theorem progresses_delete (input : Value) : Progresses R (handle.delete input) := by
  refine .bind progress (.ofExcept progress _) fun keys => ?_
  split
  next => exact .pure progress _
  next =>
    refine resolves fun binding => ?_
    have steps := allows binding
    refine .bind steps.progress (steps.run (.delete _)) fun outcome => ?_
    exact .bind steps.progress (steps.log _) fun _ => .pure steps.progress _

end Handle

def Call.handled? : Call → Option String
  | .query indexId _ | .upsert indexId _ | .patch indexId _ | .delete indexId _ => some indexId
  | _ => none

theorem Call.progresses_handled (registry : Registry) {call : Call} {indexId : String}
    (handled : call.handled? = some indexId) {R : Session σ → Session σ → Prop}
    {Q : Binding → Session σ → Session σ → Prop} (progress : IsProgress R)
    (allows : ∀ binding, Allows (Q binding) (Statement.Targets binding))
    (resolves : ∀ {α : Type} {next : Binding → Operation σ α},
      (∀ binding, Progresses (Q binding) (next binding)) →
        Progresses R ((registry.handle indexId).binding >>= next)) :
    Progresses R (call.operation registry : Operation σ Unit) := by
  cases call with
  | query _ input =>
    cases handled
    exact .discard progress (Handle.progresses_query progress allows resolves input)
  | upsert _ documents =>
    cases handled
    exact .discard progress (Handle.progresses_upsert progress allows resolves documents)
  | patch _ patches =>
    cases handled
    exact .discard progress (Handle.progresses_patch progress allows resolves patches)
  | delete _ keys =>
    cases handled
    exact .discard progress (Handle.progresses_delete progress allows resolves keys)
  -- Other calls do not go through the handle of an index.
  | startup | shutdown | createIndex | bindIndex | bindValue | describeIndex | deleteIndex
  | listIndexes | nextPage => cases handled

namespace Registry

variable (registry : Registry) {R : Session σ → Session σ → Prop} {P : Statement → Prop}
  (allows : Allows R P)

include allows

theorem progresses_createIndexes (table : TableName)
    (creates : ∀ column metric, P (.createIndex table column metric))
    (columns : List (String × Metric)) : Progresses R (createIndexes table columns) := by
  induction columns with
  | nil => exact .pure allows.progress _
  | cons column rest ih => exact .bind allows.progress (allows.run_ (creates _ _)) fun _ => ih

theorem progresses_describe (indexId : String) (ready : Progresses R registry.ensureReady)
    (requires : Progresses R (requireBinding indexId)) (counts : ∀ table, P (.countRows table))
    (sizes : ∀ table, P (.tableSize table)) : Progresses R (registry.describe indexId) := by
  refine .bind allows.progress ready fun _ => .bind allows.progress requires fun binding => ?_
  refine .bind allows.progress (allows.run (counts _)) fun rows => ?_
  refine .bind allows.progress (allows.run (sizes _)) fun size => ?_
  refine .bind allows.progress (.ofExcept allows.progress _) fun count => ?_
  exact .bind allows.progress (.ofExcept allows.progress _) fun _ => .pure allows.progress _

variable (lists : ∀ start cursor limit, P (.listIndexes registry.table start cursor limit))

include lists

theorem progresses_load (params : PageParams) :
    Progresses R (Page.load registry.loadPage params) := by
  refine .bind allows.progress (.bind allows.progress (allows.run (lists _ _ _)) fun outcome => ?_)
    fun _ => .pure allows.progress _
  exact .bind allows.progress (.ofExcept allows.progress _) fun ids => .pure allows.progress _

theorem progresses_list (value : Value) (ready : Progresses R registry.ensureReady) :
    Progresses R (registry.list value) := by
  refine .bind allows.progress ready fun _ => ?_
  exact .bind allows.progress (.ofExcept allows.progress _) fun params =>
    registry.progresses_load allows lists params

theorem progresses_next (page : Page IndexSummary) :
    Progresses R (page.next registry.loadPage) :=
  .ite (.pure allows.progress _)
    (.bind allows.progress (registry.progresses_load allows lists _) fun _ =>
      .pure allows.progress _)

end Registry

/-! ## All steps of calls -/

/-- The statements with which a registry works on indexes and on the table of bindings, once it is
initialized. -/
def Sql.Statement.isRegistryWork : Statement → Bool
  | .storeBinding .. | .listIndexes .. | .forgetBinding .. | .createTable .. | .createIndex ..
  | .dropTable .. | .countRows .. | .tableSize .. => true
  | _ => false

theorem Registry.perform_runHook (session : Session σ) :
    perform runHook session =
      (if (World.runHook session.world).1 then .ok () else .error .hook,
        { session with
          events := session.events ++ [.hook]
          world := (World.runHook session.world).2 }) := by
  unfold runHook
  simp only [perform_bind, record, perform_modify, perform_get, perform_set]
  cases (World.runHook session.world).1 <;> rfl

/-- A relation that holds along everything that the calls of a registry do. -/
structure Registry.Permits (registry : Registry) (R : Session σ → Session σ → Prop)
    (P : Statement → Prop) : Prop extends Allows R P where
  work : ∀ {statement : Statement}, statement.isRegistryWork = true → P statement
  targets : ∀ {binding : Binding} {statement : Statement}, statement.Targets binding → P statement
  ready : Progresses R (registry.ensureReady : Operation σ Unit)
  remember : ∀ indexId binding, Progresses R (Registry.remember indexId binding : Operation σ Unit)
  forget : ∀ indexId, Progresses R (Registry.forget indexId : Operation σ Unit)
  shutdown : Progresses R (Registry.shutdown : Operation σ Unit)

namespace Registry

variable {registry : Registry} {R : Session σ → Session σ → Prop} {P : Statement → Prop}
  (permits : registry.Permits R P)

include permits

theorem progresses_binding? (indexId : String) :
    Progresses R (binding? indexId : Operation σ (Option Binding)) :=
  .bind permits.progress (.get permits.progress) fun _ => .pure permits.progress _

theorem progresses_requireBinding (indexId : String) :
    Progresses R (requireBinding indexId : Operation σ Binding) := by
  refine .bind permits.progress (progresses_binding? permits indexId) fun found => ?_
  split
  next => exact .pure permits.progress _
  next => exact .throw permits.progress _

theorem progresses_save (indexId : String) (binding : Binding) :
    Progresses R (registry.save indexId binding : Operation σ Unit) := by
  refine .bind permits.progress (.get permits.progress) fun session => ?_
  refine .bind permits.progress (.ofExcept permits.progress _) fun createdAt => ?_
  exact .bind permits.progress (permits.run_ (permits.work rfl)) fun _ =>
    permits.remember indexId binding

theorem progresses_createIndex (indexId schemaName : String) (schema : Value) :
    Progresses R (registry.createIndex indexId schemaName schema : Operation σ Unit) := by
  refine .bind permits.progress (.ofExcept permits.progress _) fun fields => ?_
  refine .bind permits.progress (.ofExcept permits.progress _) fun key => ?_
  refine .bind permits.progress permits.ready fun _ => ?_
  refine .bind permits.progress (.ofExcept permits.progress _) fun _ => ?_
  refine .bind permits.progress (permits.run_ (permits.work rfl)) fun _ => ?_
  refine .bind permits.progress
    (progresses_createIndexes permits.toAllows _ (fun _ _ => permits.work rfl) _) fun _ => ?_
  exact .bind permits.progress (progresses_save permits _ _) fun _ => permits.log _

theorem progresses_bind (indexId : String) (binding : Binding) :
    Progresses R (registry.bind indexId binding : Operation σ Unit) := by
  refine .bind permits.progress permits.ready fun _ => ?_
  exact .bind permits.progress (progresses_save permits _ _) fun _ => permits.log _

theorem progresses_delete (indexId : String) :
    Progresses R (registry.delete indexId : Operation σ Unit) := by
  refine .bind permits.progress permits.ready fun _ => ?_
  refine .bind permits.progress (progresses_requireBinding permits indexId) fun binding => ?_
  refine .bind permits.progress (permits.run_ (permits.work rfl)) fun _ => ?_
  refine .bind permits.progress (permits.run_ (permits.work rfl)) fun _ => ?_
  exact .bind permits.progress (permits.forget indexId) fun _ => permits.log _

theorem progresses_handle {next : Binding → Operation σ α} (indexId : String)
    (rest : ∀ binding, Progresses R (next binding)) :
    Progresses R ((registry.handle indexId).binding >>= next) := by
  have resolve := Progresses.bind permits.progress permits.ready fun _ =>
    progresses_binding? permits indexId
  exact .bind permits.progress
    (.bind permits.progress resolve fun _ => .pure permits.progress _) rest

end Registry

theorem Call.progresses_operation {registry : Registry} {R : Session σ → Session σ → Prop}
    {P : Statement → Prop} (permits : registry.Permits R P) (call : Call) :
    Progresses R (call.operation registry : Operation σ Unit) := by
  have progress := permits.progress
  have handles {call : Call} {indexId : String} (handled : call.handled? = some indexId) :
      Progresses R (call.operation registry : Operation σ Unit) :=
    progresses_handled registry handled progress (fun _ => permits.mono permits.targets)
      (Registry.progresses_handle permits indexId)
  cases call with
  | startup => exact permits.ready
  | shutdown => exact permits.shutdown
  | createIndex indexId schemaName schema =>
    exact Registry.progresses_createIndex permits indexId schemaName schema
  | bindIndex indexId binding => exact Registry.progresses_bind permits indexId binding
  | bindValue indexId value =>
    exact .bind progress (.ofExcept progress _) fun binding =>
      Registry.progresses_bind permits indexId binding
  | describeIndex indexId =>
    exact .discard progress <| registry.progresses_describe permits.toAllows indexId permits.ready
      (Registry.progresses_requireBinding permits indexId) (fun _ => permits.work rfl)
      fun _ => permits.work rfl
  | deleteIndex indexId => exact Registry.progresses_delete permits indexId
  | listIndexes params =>
    exact .discard progress <| registry.progresses_list permits.toAllows
      (fun _ _ _ => permits.work rfl) params permits.ready
  | nextPage page =>
    exact .discard progress <| registry.progresses_next permits.toAllows
      (fun _ _ _ => permits.work rfl) page
  | query | upsert | patch | delete => exact handles rfl

end TableSearch
