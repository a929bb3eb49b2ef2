import TableSearch.Proofs.Index.Following

/-!
# Plans

What a call of a handle sends is settled before the first statement goes out: by the arguments of
the call, and by the binding of its index.  Such a plan is worked through from its beginning.  The
first statement that fails ends it, and what stands behind that statement is never sent.
-/

namespace TableSearch

open Sql Operation

variable {σ α β : Type} [World σ]

/-! ## Statements one after the other -/

def Sql.Statement.succeeds (statement : Statement) (world : σ) : Bool :=
  Answer.isSuccess (World.execute statement world).1

/-- All of several statements succeed when they are sent one after the other. -/
def AllSucceed : List Statement → σ → Prop
  | [], _ => True
  | statement :: rest, world =>
    statement.succeeds world = true ∧ AllSucceed rest (World.execute statement world).2

/-- Those of several statements that are sent: all of them up to the first that fails. -/
def issued : List Statement → σ → List Statement
  | [], _ => []
  | statement :: rest, world =>
    statement ::
      if statement.succeeds world then issued rest (World.execute statement world).2 else []

theorem issued_singleton (statement : Statement) (world : σ) :
    issued [statement] world = [statement] := by
  rw [issued, issued, ite_self]

theorem allSucceed_iff {statements : List Statement} {world : σ} :
    AllSucceed statements world ↔
      ∀ entry ∈ answers (statements.map .statement) world, entry.2.isSuccess = true := by
  induction statements generalizing world with
  | nil => exact ⟨fun _ => nofun, fun _ => trivial⟩
  | cons statement rest ih =>
    rw [AllSucceed, ih, List.map_cons, answers, Event.answer, List.forall_mem_append,
      List.forall_mem_singleton]
    rfl

theorem issued_of_allSucceed {statements : List Statement} {world : σ}
    (succeed : AllSucceed statements world) : issued statements world = statements := by
  induction statements generalizing world with
  | nil => rfl
  | cons statement rest ih => rw [issued, if_pos succeed.1, ih succeed.2]

/-- When nothing that was sent has failed, then nothing was left to be sent. -/
theorem allSucceed_of_issued {statements : List Statement} {world : σ}
    (succeed : AllSucceed (issued statements world) world) : AllSucceed statements world := by
  induction statements generalizing world with
  | nil => trivial
  | cons statement rest ih =>
    rw [issued] at succeed
    obtain ⟨first, others⟩ := succeed
    rw [if_pos first] at others
    exact ⟨first, ih others⟩

theorem exists_run_of_succeeds {statement : Statement} {session : Session σ}
    (succeeds : statement.succeeds session.world = true) :
    ∃ outcome, perform (run statement) session = (.ok outcome, session.executed statement) := by
  rw [Statement.succeeds, Answer.isSuccess] at succeeds
  rw [perform_run]
  cases answered : Answer.outcome (World.execute statement session.world).1 with
  | error failure =>
    rw [answered] at succeeds
    cases succeeds
  | ok outcome => exact ⟨outcome, rfl⟩

/-! ## Plans -/

/-- Statements to be sent one after the other, and the failure with which an operation ends behind
them, if it is settled that it fails. -/
structure Plan where
  statements : List Statement := []
  failure : Option Failure := none

namespace Plan

omit [World σ] in
/-- A plan that needs a result, and that ends with its failure if there is none. -/
def after (result : Except Failure α) (next : α → Plan) : Plan :=
  match result with
  | .ok a => next a
  | .error failure => { failure := some failure }

/-- A plan for one or several things; without any there is nothing to do. -/
def forThings (input : Value) (next : List Value → Plan) : Plan :=
  after (Failure.ofConversion input.toThings) fun things =>
    if things.isEmpty then {} else next things

/-- A plan has been worked through: every statement up to the first that fails has been sent, and
if none fails, the failure of the plan is the result. -/
structure Done (plan : Plan) (before : Session σ) (made : Except Failure α × Session σ) : Prop where
  records : Records ((issued plan.statements before.world).map .statement) before made.2
  ready : made.2.ready = before.ready
  bindings : made.2.bindings = before.bindings
  stops : AllSucceed plan.statements before.world →
    ∀ failure ∈ plan.failure, made.1 = .error failure
  refused : ¬ AllSucceed plan.statements before.world → ∃ failure, made.1 = .error failure

namespace Done

variable {plan : Plan} {session : Session σ}

/-- Nothing is planned where nothing is sent. -/
theorem silent {made : Except Failure α × Session σ} (events : made.2.events = session.events)
    (world : made.2.world = session.world) (ready : made.2.ready = session.ready)
    (bindings : made.2.bindings = session.bindings) : Done {} session made where
  records := ⟨by simp [issued, events], world⟩
  ready := ready
  bindings := bindings
  stops _ := nofun
  refused fails := absurd trivial fails

theorem ofExcept (result : Except Failure α) :
    Done {} session (perform (MonadExcept.ofExcept result : Operation σ α) session) := by
  rw [perform_ofExcept]
  exact silent rfl rfl rfl rfl

/-- What follows a result that is taken over has a plan for it. -/
theorem bind_ofExcept {result : Except Failure α} {next : α → Operation σ β} {planOf : α → Plan}
    (rest : ∀ a, result = .ok a → Done (planOf a) session (perform (next a) session)) :
    Done (.after result planOf) session
      (perform (MonadExcept.ofExcept result >>= next) session) := by
  rw [perform_bind, perform_ofExcept]
  cases result with
  | ok a => exact rest a rfl
  | error failure =>
    refine ⟨.refl session, rfl, rfl, fun _ other planned => ?_, fun fails => absurd trivial fails⟩
    cases planned
    rfl

theorem bind_read {result : Except Failure α} {next : α → Operation σ β}
    (rest : ∀ a, Done {} session (perform (next a) session)) :
    Done {} session (perform (MonadExcept.ofExcept result >>= next) session) := by
  rw [perform_bind, perform_ofExcept]
  cases result with
  | ok a => exact rest a
  | error failure => exact silent rfl rfl rfl rfl

theorem bind_things {input : Value} {next : List Value → Operation σ β}
    {planOf : List Value → Plan} (nothing : ∃ b, next [] = pure b)
    (rest : ∀ things, input.toThings = .ok things → things ≠ [] →
      Done (planOf things) session (perform (ofConversion input.toThings >>= next) session)) :
    Done (.forThings input planOf) session
      (perform (ofConversion input.toThings >>= next) session) := by
  rw [Plan.forThings]
  cases things : input.toThings with
  | error error => exact bind_ofExcept nofun
  | ok things' =>
    rw [things] at rest
    cases things' with
    | nil =>
      obtain ⟨b, same⟩ := nothing
      refine bind_ofExcept fun _ same' => ?_
      cases same'
      rw [same]
      exact silent rfl rfl rfl rfl
    | cons first others => exact rest _ rfl (List.cons_ne_nil _ _)

/-- A statement, and behind it what is planned whatever its outcome is. -/
theorem bind_run {statement : Statement} {next : Outcome → Operation σ β}
    (rest : ∀ outcome, Done plan (session.executed statement)
      (perform (next outcome) (session.executed statement))) :
    Done { plan with statements := statement :: plan.statements } session
      (perform (run statement >>= next) session) := by
  have sent := session.records_executed statement
  rw [perform_bind, perform_run]
  -- Either this statement is the one that fails, or the rest is worked through behind it.
  cases answered : Answer.outcome (World.execute statement session.world).1 with
  | error failure =>
    have fails : statement.succeeds session.world = false := by
      rw [Statement.succeeds, Answer.isSuccess, answered]
      rfl
    refine ⟨?_, rfl, rfl, fun succeed => ?_, fun _ => ⟨failure, rfl⟩⟩
    · rw [issued, if_neg (Bool.eq_false_iff.mp fails)]
      exact sent
    · rw [AllSucceed, fails] at succeed
      cases succeed.1
  | ok outcome =>
    have succeeds : statement.succeeds session.world = true := by
      rw [Statement.succeeds, Answer.isSuccess, answered]
      rfl
    obtain ⟨records, ready, bindings, stops, refused⟩ := rest outcome
    refine ⟨?_, ready, bindings, fun succeed => stops succeed.2, fun fails => refused ?_⟩
    · rw [issued, if_pos succeeds]
      exact sent.trans records
    · exact fun others => fails ⟨succeeds, others⟩

/-- A statement behind which nothing more is planned. -/
theorem bind_last {statement : Statement} {next : Outcome → Operation σ β}
    (rest : ∀ outcome, Done {} (session.executed statement)
      (perform (next outcome) (session.executed statement))) :
    Done { statements := [statement] } session (perform (run statement >>= next) session) :=
  bind_run rest

theorem bind_log {entry : LogEntry} {next : Unit → Operation σ β}
    (rest : Done plan { session with log := session.log ++ [entry] }
      (perform (next ()) { session with log := session.log ++ [entry] })) :
    Done plan session (perform (log entry >>= next) session) :=
  ⟨⟨rest.records.events, rest.records.world⟩, rest.ready, rest.bindings, rest.stops, rest.refused⟩

theorem optional {c : Prop} [Decidable c] {entry : LogEntry} {next : Operation σ β}
    (rest : ∀ session : Session σ, Done plan session (perform next session)) :
    Done plan session (perform (if c then log entry >>= fun _ => next else next) session) := by
  split
  next => exact bind_log (rest _)
  next => exact rest session

/-- What is made of a result does not matter to the plan. -/
theorem map {action : Operation σ α} {f : α → β}
    (done : Done plan session (perform action session)) :
    Done plan session (perform (action >>= fun a => pure (f a)) session) := by
  obtain ⟨records, ready, bindings, stops, refused⟩ := done
  rw [perform_bind]
  generalize perform action session = made at *
  obtain ⟨result, after⟩ := made
  cases result with
  | error failure =>
    refine ⟨records, ready, bindings, fun succeed other planned => ?_, fun _ => ⟨failure, rfl⟩⟩
    cases stops succeed other planned
    rfl
  | ok a =>
    refine ⟨records, ready, bindings, fun succeed failure planned => ?_, fun fails => ?_⟩
    · cases stops succeed failure planned
    · obtain ⟨failure, same⟩ := refused fails
      cases same

end Done

end Plan

/-! ## Plans of handles -/

omit [World σ] in
/-- What follows things that can be told apart goes on with them. -/
theorem Operation.perform_bind_things {input : Value} {things : List Value}
    (same : input.toThings = .ok things) (next : List Value → Operation σ α) (session : Session σ) :
    perform (ofConversion input.toThings >>= next) session = perform (next things) session := by
  rw [same]
  rfl

namespace Plan

def ofQuery (binding : Binding) (input : QueryInput) : Plan :=
  .after (SearchQuery.normalize input) fun q =>
    .after (Search.ofBinding q binding) fun search =>
      .after (Failure.ofConversion search.clause) fun clause => { statements := [.search clause] }

def ofDocuments (binding : Binding) (documents : List Value) : Plan :=
  .after (Document.upsert binding documents) fun statement => { statements := [statement] }

/-- Each patch that changes something has a statement of its own, which is not written before its
turn comes.  So a patch that cannot be written only ends the plan. -/
def ofChanges (binding : Binding) : List Value → Plan
  | [] => {}
  | patch :: rest =>
    .after (Document.patch binding patch) fun
      | none => ofChanges binding rest
      | some statement =>
        { ofChanges binding rest with
          statements := statement :: (ofChanges binding rest).statements }

def ofPatches (binding : Binding) (patches : List Value) : Plan :=
  .after (patches.mapM (Document.key .patch binding.keyField)) fun _ => ofChanges binding patches

def ofKeys (binding : Binding) (keys : List Value) : Plan :=
  { statements := [.delete binding.tableName binding.keyColumn keys] }

end Plan

/-- The plan of a call of a handle whose index has a certain binding. -/
def Call.plan (binding : Binding) : Call → Plan
  | query _ input => .ofQuery binding input
  | upsert _ documents => .forThings documents (.ofDocuments binding)
  | patch _ patches => .forThings patches (.ofPatches binding)
  | delete _ keys => .forThings keys (.ofKeys binding)
  | _ => {}

namespace Handle

theorem done_applyPatches (binding : Binding) (patches : List Value) (session : Session σ) :
    Plan.Done (.ofChanges binding patches) session
      (perform (applyPatches binding patches) session) := by
  induction patches generalizing session with
  | nil => exact .silent rfl rfl rfl rfl
  | cons patch rest ih =>
    refine .bind_ofExcept fun change _ => ?_
    cases change with
    | none => exact ih session
    | some statement => exact .bind_run fun outcome => .map (ih _)

/-- Patches of a call are looked at behind the lookup of the binding. -/
theorem perform_patch_things {handle : Handle σ} {session : Session σ} {input : Value}
    {things : List Value} (same : input.toThings = .ok things) (nonempty : things ≠ []) :
    perform (handle.patch input) session =
      perform (do
        let binding ← handle.binding
        let _ ← ofExcept (things.mapM (Document.key .patch binding.keyField))
        applyPatches binding things) session := by
  unfold patch
  rw [perform_bind_things same]
  cases things with
  | nil => exact absurd rfl nonempty
  | cons patch patches => rfl

section

variable {handle : Handle σ} {binding : Binding} {session middle : Session σ}
  (found : perform handle.binding session = (.ok binding, middle))

include found

omit [World σ] in
theorem perform_bind_binding (next : Binding → Operation σ α) :
    perform (handle.binding >>= next) session = perform (next binding) middle := by
  rw [perform_bind, found]

variable {input : Value} {things : List Value} (same : input.toThings = .ok things)
  (nonempty : things ≠ [])

include same nonempty

/-- The documents of a call are written behind the lookup of the binding. -/
theorem done_documents :
    Plan.Done (.ofDocuments binding things) middle (perform (handle.upsert input) session) := by
  unfold upsert
  rw [perform_bind_things same]
  cases things with
  | nil => exact absurd rfl nonempty
  | cons document documents =>
    change Plan.Done _ middle (perform (handle.binding >>= _) session)
    rw [perform_bind_binding found]
    refine .bind_ofExcept fun statement _ => .bind_last fun outcome => ?_
    exact .bind_read fun marks => .bind_log (.silent rfl rfl rfl rfl)

theorem perform_patch :
    perform (handle.patch input) session =
      perform (do
        let _ ← ofExcept (things.mapM (Document.key .patch binding.keyField))
        applyPatches binding things) middle := by
  rw [perform_patch_things same nonempty, perform_bind_binding found]

theorem done_patches :
    Plan.Done (.ofPatches binding things) middle (perform (handle.patch input) session) := by
  rw [perform_patch found same nonempty]
  exact .bind_ofExcept fun _ _ => done_applyPatches binding _ middle

theorem done_keys :
    Plan.Done (.ofKeys binding things) middle (perform (handle.delete input) session) := by
  unfold delete
  rw [perform_bind_things same]
  cases things with
  | nil => exact absurd rfl nonempty
  | cons key keys =>
    change Plan.Done _ middle (perform (handle.binding >>= _) session)
    rw [perform_bind_binding found]
    exact .bind_last fun outcome => .bind_log (.silent rfl rfl rfl rfl)

end

theorem done_query {handle : Handle σ} {binding : Binding} {session : Session σ}
    (found : perform handle.binding session = (.ok binding, session)) (input : QueryInput) :
    Plan.Done (.ofQuery binding input) session (perform (handle.query input) session) := by
  refine .bind_ofExcept fun q _ => ?_
  rw [perform_bind_binding found]
  refine .optional fun session => .bind_ofExcept fun search _ => .bind_ofExcept fun clause _ => ?_
  exact .bind_run fun outcome => .map (.ofExcept _)

end Handle

/-- On an initialized registry the call of a handle works through its plan for the binding that the
registry knows, or for the one by convention. -/
theorem Call.done_handled (registry : Registry) {call : Call} {indexId : String}
    {session : Session σ} (ready : session.ready = true) (handled : call.handled? = some indexId) :
    Plan.Done (call.plan (.current session.bindings indexId)) session
      (perform (call.operation registry) session) := by
  have found := registry.perform_binding indexId ready
  cases call with
  | query _ input =>
    cases handled
    exact .map (Handle.done_query found input)
  | upsert _ documents =>
    cases handled
    exact .map (.bind_things ⟨_, rfl⟩ fun _ => Handle.done_documents found)
  | patch _ patches =>
    cases handled
    exact .map (.bind_things ⟨_, rfl⟩ fun _ => Handle.done_patches found)
  | delete _ keys =>
    cases handled
    exact .map (.bind_things ⟨_, rfl⟩ fun _ => Handle.done_keys found)
  | startup | shutdown | createIndex | bindIndex | bindValue | describeIndex | deleteIndex
  | listIndexes | nextPage => cases handled

end TableSearch
