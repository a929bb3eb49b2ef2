import TableSearch.Proofs.Index.Initialization

/-!
# Attempts to initialize a registry

Whenever a registry tries to initialize itself, it asks for the same things in the same order.  An
attempt that fails has asked for the first of them, and has taken over the rows in front of the one
that it could not read.
-/

namespace TableSearch

open Sql Operation

/-! ## Rows that are taken over -/

/-- The bindings in some rows, up to the first row that cannot be read. -/
def Registry.readable : List Row → List (String × Binding)
  | [] => []
  | row :: rest =>
    match bindingOfRow row with
    | .ok entry => entry :: readable rest
    | .error _ => []

abbrev Registry.ReadAs (rows : List Row) (found : List (String × Binding)) : Prop :=
  List.Forall₂ (fun row entry => bindingOfRow row = .ok entry) rows found

theorem Registry.ReadAs.readable {rows : List Row} {found : List (String × Binding)}
    (read : ReadAs rows found) : Registry.readable rows = found := by
  induction read with
  | nil => rfl
  | cons first _ ih => rw [Registry.readable, first, ih]

def loadOf : Statement × Answer → Option (List Row)
  | (.loadBindings _, answer) => answer.outcome.toOption.map Outcome.rows
  | _ => none

def loads (answered : List (Statement × Answer)) : List (List Row) := answered.filterMap loadOf

theorem loads_append (first rest : List (Statement × Answer)) :
    loads (first ++ rest) = loads first ++ loads rest := List.filterMap_append

theorem remembered_append (first rest before : List (String × Binding)) :
    remembered (first ++ rest) before = remembered rest (remembered first before) :=
  List.foldl_append

variable {σ α : Type}

/-- Rows are taken over up to the first one that cannot be read. -/
theorem Registry.perform_loadRows (rows : List Row) (session : Session σ) :
    (perform (loadRows rows) session).2 =
      { session with bindings := remembered (readable rows) session.bindings } := by
  induction rows generalizing session with
  | nil => rfl
  | cons row rows ih =>
    rw [loadRows, perform_bind, perform_ofExcept, readable]
    cases bindingOfRow row with
    | error failure => rfl
    | ok entry => exact ih _

/-! ## Stages -/

variable [World σ]

/-- A stage of an initialization, with the events of which it records the first ones if it fails,
and all of them if it is done.  The last stage makes the registry ready. -/
structure Stage (isLast : Bool) (events : List Event) (done : Bool) (before after : Session σ) :
    Prop where
  recorded : ∃ added, Records added before after ∧ added <+: events ∧
    after.bindings =
      remembered ((loads (answers added before.world)).flatMap Registry.readable) before.bindings ∧
    (done = true → added = events ∧
      Registry.ReadAs (loads (answers added before.world)).flatten
        ((loads (answers added before.world)).flatMap Registry.readable))
  ready : after.ready = (before.ready || (isLast && done))

/-- An operation that is a stage of an initialization, done if it succeeds. -/
def Stages (isLast : Bool) (events : List Event) (action : Operation σ α) : Prop :=
  ∀ session, Stage isLast events (perform action session).1.isOk session (perform action session).2

namespace Stage

variable {isLast done : Bool} {first rest : List Event} {before middle after : Session σ}

/-- A failed stage is a failure of all that was to follow. -/
theorem stop (failed : Stage false first false before after) :
    Stage isLast (first ++ rest) false before after := by
  obtain ⟨⟨added, records, started, bindings, -⟩, ready⟩ := failed
  refine ⟨⟨added, records, ?_, bindings, nofun⟩, ?_⟩
  · exact started.trans (List.prefix_append first rest)
  · rw [ready, Bool.and_false, Bool.and_false]

theorem trans (left : Stage false first true before middle)
    (right : Stage isLast rest done middle after) :
    Stage isLast (first ++ rest) done before after := by
  obtain ⟨⟨added, records, -, bindings, complete⟩, ready⟩ := left
  obtain ⟨⟨more, records', started, bindings', complete'⟩, ready'⟩ := right
  obtain ⟨rfl, read⟩ := complete rfl
  -- What the second stage loads is shown by the world that the first one has left behind.
  have shown : loads (answers (added ++ more) before.world) =
      loads (answers added before.world) ++ loads (answers more middle.world) := by
    rw [answers_append, loads_append, records.world]
  refine ⟨⟨added ++ more, records.trans records', ?_, ?_, fun isDone => ?_⟩, ?_⟩
  · exact (List.prefix_append_right_inj added).mpr started
  · rw [bindings', bindings, shown, List.flatMap_append, remembered_append]
  · obtain ⟨rfl, read'⟩ := complete' isDone
    rw [shown, List.flatten_append, List.flatMap_append]
    exact ⟨rfl, List.rel_append read read'⟩
  · rw [ready', ready, Bool.false_and, Bool.or_false]

/-- A stage that records nothing leaves the bindings alone. -/
theorem silent (records : Records [] before after) (bindings : after.bindings = before.bindings)
    (ready : after.ready = (before.ready || (isLast && done))) :
    Stage isLast [] done before after :=
  ⟨⟨[], records, List.prefix_rfl, bindings, fun _ => ⟨rfl, .nil⟩⟩, ready⟩

theorem single {event : Event} (records : Records [event] before after)
    (bindings : after.bindings = before.bindings) (ready : after.ready = before.ready)
    (other : loads (answers [event] before.world) = []) :
    Stage false [event] done before after := by
  refine ⟨⟨[event], records, List.prefix_rfl, ?_, fun _ => ⟨rfl, ?_⟩⟩, ?_⟩
  · rw [other, bindings]
    rfl
  · rw [other]
    exact .nil
  · rw [ready, Bool.false_and, Bool.or_false]

end Stage

namespace Stages

variable {isLast : Bool} {first rest : List Event}

theorem bind {action : Operation σ Unit} {next : Operation σ α} (front : Stages false first action)
    (back : Stages isLast rest next) : Stages isLast (first ++ rest) (action >>= fun _ => next) := by
  intro session
  have step := front session
  rw [perform_bind]
  split
  next _ middle same =>
    rw [same] at step
    exact step.trans (back middle)
  next failure middle same =>
    rw [same] at step
    exact step.stop

theorem optional {c : Prop} [Decidable c] {action : Operation σ Unit} {next : Operation σ α}
    (front : Stages false first action) (back : Stages isLast rest next) :
    Stages isLast ((if c then first else []) ++ rest)
      (if c then action >>= fun _ => next else next) := by
  split
  next => exact front.bind back
  next => exact back

theorem run_ {statement : Statement} (other : ∀ answer, loadOf (statement, answer) = none) :
    Stages false [.statement statement] (run_ statement : Operation σ Unit) := by
  intro session
  rw [perform_run_]
  refine .single (session.records_executed statement) rfl rfl ?_
  rw [answers_statement, loads, List.filterMap_cons, other]
  rfl

theorem runHook : Stages false [.hook] (Registry.runHook : Operation σ Unit) := by
  intro session
  rw [Registry.perform_runHook]
  exact .single ⟨rfl, rfl⟩ rfl rfl rfl

/-- A load takes over the rows that it is shown, as far as they can be read. -/
theorem load (table : TableName) :
    Stages false [.statement (.loadBindings table)]
      (run (.loadBindings table) >>= fun outcome => Registry.loadRows outcome.rows :
        Operation σ Unit) := by
  intro session
  have records := session.records_executed (.loadBindings table)
  rw [perform_bind, perform_run]
  cases answered : Answer.outcome (World.execute (.loadBindings table) session.world).1 with
  | error failure =>
    have none : loads (answers [.statement (.loadBindings table)] session.world) = [] := by
      simp [loads, loadOf, answered, Except.toOption]
    exact .single records rfl rfl none
  | ok outcome =>
    have shown : loads (answers [.statement (.loadBindings table)] session.world) =
        [outcome.rows] := by
      simp [loads, loadOf, answered, Except.toOption]
    have taken := Registry.perform_loadRows outcome.rows (session.executed (.loadBindings table))
    dsimp only
    refine ⟨⟨_, ?_, List.prefix_rfl, ?_, fun done => ⟨rfl, ?_⟩⟩, ?_⟩
    · rw [taken]
      exact ⟨records.events, records.world⟩
    · rw [taken, shown, List.flatMap_singleton]
      rfl
    · -- All rows have been read, so what is readable of them is what was found.
      rw [shown, List.flatten_singleton, List.flatMap_singleton]
      cases loaded : (perform (Registry.loadRows outcome.rows)
          (session.executed (.loadBindings table))).1 with
      | error failure =>
        rw [loaded] at done
        cases done
      | ok _ =>
        obtain ⟨found, read, -⟩ := Registry.loadRows_eq_ok.mp (Prod.ext loaded rfl)
        rwa [Registry.ReadAs.readable read]
    · rw [taken, Bool.false_and, Bool.or_false]
      rfl

end Stages

/-! ## Attempts -/

namespace Registry

variable (registry : Registry)

def preparation : List Event :=
  (if registry.hasHook then [.hook] else []) ++
    ((if registry.createExtension then [.statement .createExtension] else []) ++
      [.statement (.createSchema registry.schema), .statement (.createRegistry registry.table),
        .statement (.loadBindings registry.table)])

theorem stages_ready :
    Stages true [] (do
      log (.loaded (← get).bindings.length)
      modify fun session => { session with ready := true } : Operation σ Unit) :=
  fun _ => .silent ⟨(List.append_nil _).symm, rfl⟩ rfl (Bool.or_true _).symm

theorem stages_prepare : Stages true registry.preparation (registry.prepare : Operation σ Unit) := by
  refine .optional .runHook (.optional (.run_ fun _ => rfl) ?_)
  refine .bind (.run_ fun _ => rfl) (.bind (.run_ fun _ => rfl) ?_)
  have loaded := (Stages.load (σ := σ) registry.table).bind stages_ready
  rwa [bind_assoc] at loaded

theorem stages_ensureReady {session : Session σ} (fresh : session.ready = false) :
    Stage true registry.preparation (perform registry.ensureReady session).1.isOk session
      (perform registry.ensureReady session).2 := by
  rw [registry.perform_ensureReady_of_fresh fresh]
  exact registry.stages_prepare session

/-- Behind an initialization that succeeds the registry is ready. -/
theorem ready_of_ensureReady {session after : Session σ}
    (done : perform registry.ensureReady session = (.ok (), after)) : after.ready = true := by
  cases fresh : session.ready with
  | true =>
    rw [registry.perform_ensureReady fresh] at done
    cases done
    exact fresh
  | false =>
    obtain ⟨-, ready⟩ := registry.stages_ensureReady fresh
    rw [done] at ready
    rw [ready, fresh]
    rfl

end Registry

end TableSearch
