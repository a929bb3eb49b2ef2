import TableSearch.Proofs.Index.Callers
import TableSearch.Proofs.Index.Retrying

/-!
# Attempts to initialize

What a caller at work has left to ask for, and what its attempt comes to if nobody comes in between;
attempts that fail one after the other, and those that succeed.
-/

namespace TableSearch

open Sql Operation

variable {σ : Type}

/-! ## What a work asks for -/

/-- A work that asks for the first of some events, one after the other.  When nothing is left to ask
for it may stop short of the others. -/
inductive Work.Asks : List Event → Work σ → Prop where
  | finish (events : List Event) {action : Operation σ Unit}
      (silent : ∀ session, (perform action session).2.events = session.events) :
      Asks events (.finish action)
  | hook {events : List Event} {rest : Work σ} (asks : Asks events rest) :
      Asks (.hook :: events) (.hook rest)
  | send {statement : Statement} {events : List Event} {rest : Outcome → Work σ}
      (asks : ∀ outcome, Asks events (rest outcome)) :
      Asks (.statement statement :: events) (.send statement rest)

theorem Work.Asks.failed (events : List Event) (failure : Failure) :
    (Work.failed failure : Work σ).Asks events := .finish events fun _ => rfl

theorem Work.Asks.answered {events : List Event} {rest : Outcome → Work σ}
    (asks : ∀ outcome, (rest outcome).Asks events) (answer : Answer) :
    (Work.answered rest answer).Asks events := by
  unfold Work.answered
  cases answer.outcome with
  | ok outcome => exact asks outcome
  | error failure => exact .failed events failure

namespace Registry

theorem events_takeOver (outcome : Outcome) (session : Session σ) :
    (perform (takeOver outcome) session).2.events = session.events := by
  have loaded := perform_loadRows outcome.rows session
  unfold takeOver
  rw [perform_bind]
  generalize perform (loadRows outcome.rows) session = made at loaded
  obtain ⟨result, after⟩ := made
  cases loaded
  cases result <;> rfl

theorem asks_work (registry : Registry) : (registry.work : Work σ).Asks registry.preparation := by
  have tables : (registry.tableWork : Work σ).Asks
      [.statement (.createSchema registry.schema), .statement (.createRegistry registry.table),
        .statement (.loadBindings registry.table)] :=
    .send fun _ => .send fun _ => .send fun outcome => .finish [] (events_takeOver outcome)
  unfold work preparation
  cases registry.hasHook <;> cases registry.createExtension
  · exact tables
  · exact .send fun _ => tables
  · exact .hook tables
  · exact .hook (.send fun _ => tables)

end Registry

/-! ## Callers at work -/

namespace Caller

/-- What the turns of a caller have left to ask for, one after the other. -/
def Asks (events : List Event) : Caller σ → Prop
  | working work => work.Asks events
  | hooked rest => rest.Asks events
  | sent _ rest => ∀ outcome, (rest outcome).Asks events
  | arriving | waiting | entered | returned _ => False

variable [World σ]

/-- What the attempt of a caller comes to if nobody comes in between. -/
def outlook (session : Session σ) : Caller σ → Option (Except Failure Unit × Session σ)
  | working work => some (perform work.whole session)
  | hooked rest =>
    let (succeeds, world) := World.runHook session.world
    some (perform (if succeeds then rest else .failed .hook).whole { session with world })
  | sent statement rest =>
    let (answer, world) := World.execute statement session.world
    some (perform (Work.answered rest answer).whole { session with world })
  | arriving | waiting | entered | returned _ => none

theorem outlook_hook (rest : Work σ) (session : Session σ) :
    perform (if (World.runHook session.world).1 then rest else .failed .hook).whole
        { session with
          events := session.events ++ [.hook]
          world := (World.runHook session.world).2 } =
      perform (Work.hook rest).whole session := by
  rw [Work.whole, perform_bind, Registry.perform_runHook]
  cases (World.runHook session.world).1 <;> rfl

theorem outlook_send (statement : Statement) (rest : Outcome → Work σ) (session : Session σ) :
    perform (Work.answered rest (World.execute statement session.world).1).whole
        (session.executed statement) =
      perform (Work.send statement rest).whole session := by
  rw [Work.whole, perform_bind, perform_run, Work.answered]
  cases Answer.outcome (World.execute statement session.world).1 <;> rfl

/-- A caller on the way to the end of its attempt. -/
structure Pursues (goal : Except Failure Unit × Session σ) (events : List Event)
    (session : Session σ) (caller : Caller σ) : Prop where
  outlook : caller.outlook session = some goal
  asks : caller.Asks events

theorem Pursues.isAtWork {goal : Except Failure Unit × Session σ} {events : List Event}
    {session : Session σ} {caller : Caller σ} (pursues : caller.Pursues goal events session) :
    caller.isAtWork = true := by
  cases caller with
  | arriving | waiting | entered | returned => cases pursues.outlook
  | working | hooked | sent => rfl

theorem Pursues.isInside {goal : Except Failure Unit × Session σ} {events : List Event}
    {session : Session σ} {caller : Caller σ} (pursues : caller.Pursues goal events session) :
    caller.isInside = true := isInside_of_isAtWork pursues.isAtWork

theorem Pursues.ne_returned {goal : Except Failure Unit × Session σ} {events : List Event}
    {session : Session σ} {caller : Caller σ} (pursues : caller.Pursues goal events session)
    (result : Except Failure Unit) : caller ≠ .returned result := by
  rintro rfl
  cases pursues.outlook

/-- A turn of a caller at work is its last one, or brings it nearer to the same end. -/
theorem Pursues.turn {goal : Except Failure Unit × Session σ} {events : List Event}
    {session : Session σ} {caller : Caller σ} (pursues : caller.Pursues goal events session)
    (registry : Registry) (locked : Bool) :
    (caller.turn registry locked session = (.returned goal.1, false, goal.2) ∧
      caller.asks = [] ∧ goal.2.events = session.events) ∨
    ∃ next after rest, caller.turn registry locked session = (next, locked, after) ∧
      events = caller.asks ++ rest ∧ next.Pursues goal rest after ∧
      after.events = session.events ++ caller.asks ∧ after.ready = session.ready := by
  obtain ⟨outlook, asks⟩ := pursues
  -- A turn moves the next piece of the work out of the outlook and into the session; the outlook
  -- as a whole stays the same, unless there is no piece left.
  cases caller with
  | arriving | waiting | entered | returned => cases outlook
  | working work =>
    cases asks with
    | finish events silent =>
      cases outlook
      exact .inl ⟨rfl, rfl, silent session⟩
    | @hook events rest asks =>
      refine .inr ⟨_, _, events, rfl, rfl, ⟨?_, asks⟩, rfl, rfl⟩
      rw [← outlook]
      exact congrArg some (outlook_hook rest session)
    | @send statement events rest asks =>
      refine .inr ⟨_, _, events, rfl, rfl, ⟨?_, asks⟩, rfl, rfl⟩
      rw [← outlook]
      exact congrArg some (outlook_send statement rest session)
  | hooked rest =>
    refine .inr ⟨_, _, events, rfl, rfl, ⟨outlook, ?_⟩, (List.append_nil _).symm, rfl⟩
    have left : (if (World.runHook session.world).1 then rest else .failed .hook).Asks events := by
      split
      next => exact asks
      next => exact .failed events .hook
    exact left
  | sent statement rest =>
    exact .inr ⟨_, _, events, rfl, rfl, ⟨outlook, .answered asks _⟩, (List.append_nil _).symm, rfl⟩

end Caller

/-! ## Attempts that succeed -/

variable [World σ]

namespace Registry

variable (registry : Registry)

/-- What an attempt does in front of its load. -/
def openTable : Operation σ Unit := do
  if registry.hasHook then runHook
  if registry.createExtension then run_ .createExtension
  run_ (.createSchema registry.schema)
  run_ (.createRegistry registry.table)

/-- What an attempt asks for in front of its load. -/
def opening : List Event :=
  (if registry.hasHook then [.hook] else []) ++
    ((if registry.createExtension then [.statement .createExtension] else []) ++
      [.statement (.createSchema registry.schema), .statement (.createRegistry registry.table)])

theorem prepare_eq : (registry.prepare : Operation σ Unit) = (do
    registry.openTable
    let outcome ← run (.loadBindings registry.table)
    takeOver outcome) := by
  unfold prepare openTable takeOver
  cases registry.hasHook <;> cases registry.createExtension <;>
    simp only [bind_assoc, if_true, Bool.false_eq_true, if_false]

theorem preparation_eq : registry.preparation =
    registry.opening ++ [.statement (.loadBindings registry.table)] := by
  simp only [preparation, opening, List.append_assoc, List.cons_append, List.nil_append]

theorem stages_openTable :
    Stages false registry.opening (registry.openTable : Operation σ Unit) :=
  .optional .runHook (.optional (.run_ fun _ => rfl) (.bind (.run_ fun _ => rfl)
    (.run_ fun _ => rfl)))

theorem loads_opening (world : σ) : loads (answers registry.opening world) = [] := by
  unfold opening
  cases registry.hasHook <;> cases registry.createExtension <;> rfl

theorem exists_records_ensureReady {before after : Session σ} {result : Except Failure Unit}
    (fresh : before.ready = false)
    (attempt : perform registry.ensureReady before = (result, after)) :
    ∃ added, Records added before after := by
  have stage := (registry.stages_ensureReady fresh).recorded
  rw [attempt] at stage
  obtain ⟨added, records, -⟩ := stage
  exact ⟨added, records⟩

/-- A preparation that succeeds has been shown rows once. -/
theorem exists_loaded {before after : Session σ}
    (done : perform registry.prepare before = (.ok (), after)) :
    ∃ rows, loads (answers registry.preparation before.world) = [rows] := by
  rw [prepare_eq] at done
  obtain ⟨_, middle, opened, done⟩ := perform_bind_eq_ok.mp done
  obtain ⟨outcome, _, shown, -⟩ := perform_bind_eq_ok.mp done
  -- What comes in front of the load succeeds, so all of it has been asked for when the rows come.
  have stage := registry.stages_openTable before
  rw [opened] at stage
  obtain ⟨added, records, -, -, complete⟩ := stage.recorded
  obtain ⟨rfl, -⟩ := complete rfl
  have world : middle.world = advance registry.opening before.world := records.world
  rw [perform_run] at shown
  have answered : Answer.outcome (World.execute (.loadBindings registry.table) middle.world).1 =
    .ok outcome := congrArg Prod.fst shown
  refine ⟨outcome.rows, ?_⟩
  rw [preparation_eq, answers_append, loads_append, loads_opening, ← world, answers_statement]
  simp only [loads, List.filterMap_cons, loadOf, answered]
  rfl

/-- A session in which an attempt has succeeded that began in another one.  The registry is ready,
and knows every row that was shown to the attempt. -/
structure IsLoaded (before session : Session σ) : Prop where
  fresh : before.ready = false
  made : perform registry.ensureReady before = (.ok (), session)
  ready : session.ready = true
  bindings : ∃ (rows : List Row) (found : List (String × Binding)),
    loads (answers registry.preparation before.world) = [rows] ∧ ReadAs rows found ∧
      ∀ indexId, session.bindings.lookup indexId =
        (found.reverse.lookup indexId).or (before.bindings.lookup indexId)

variable {registry}

theorem isLoaded_of_done {before after : Session σ} (fresh : before.ready = false)
    (done : perform registry.ensureReady before = (.ok (), after)) :
    registry.IsLoaded before after ∧ after.events = before.events ++ registry.preparation := by
  obtain ⟨added, records⟩ := registry.exists_records_ensureReady fresh done
  obtain ⟨ready, bindings, complete⟩ := bindings_of_attempt fresh done records
  obtain ⟨rfl, read⟩ := complete rfl
  obtain ⟨rows, shown⟩ := registry.exists_loaded
    ((registry.perform_ensureReady_of_fresh fresh).symm.trans done)
  rw [shown, List.flatten_singleton, List.flatMap_singleton] at read
  rw [shown, List.flatMap_singleton] at bindings
  refine ⟨⟨fresh, done, ready, rows, _, shown, read, fun indexId => ?_⟩, records.events⟩
  rw [bindings, lookup_remembered]

theorem unready_of_failed {before after : Session σ} {failure : Failure}
    (fresh : before.ready = false)
    (failed : perform registry.ensureReady before = (.error failure, after)) :
    after.ready = false := by
  obtain ⟨added, records⟩ := registry.exists_records_ensureReady fresh failed
  exact (bindings_of_attempt fresh failed records).1

end Registry

/-! ## Attempts one after the other -/

/-- An attempt of the caller at a place: what it has asked for so far, and its result once it has
ended. -/
structure Attempt where
  place : Nat
  events : List Event
  result : Option (Except Failure Unit) := none

namespace Attempt

def record (attempt : Attempt) : List (Nat × Event) := attempt.events.map (attempt.place, ·)

def isComplete (attempt : Attempt) : Bool := attempt.result.any Except.isOk

end Attempt

/-- Attempts that all fail, each of them where the one before it has left off. -/
inductive Registry.FailInTurn (registry : Registry) (start : Session σ) :
    List Attempt → Session σ → Prop where
  | nil : FailInTurn registry start [] start
  | concat {attempts : List Attempt} {before after : Session σ} {failure : Failure} {place : Nat}
      {events : List Event} (earlier : FailInTurn registry start attempts before)
      (failed : perform registry.ensureReady before = (.error failure, after))
      (asked : after.events = before.events ++ events)
      (first : events <+: registry.preparation) :
      FailInTurn registry start (attempts ++ [⟨place, events, some (.error failure)⟩]) after

/-- Attempts by different callers, none of which follows one that has not failed.  At most one
completes. -/
structure Registry.InTurn (registry : Registry) (attempts : List Attempt) : Prop where
  places : (attempts.map Attempt.place).Nodup
  begun : ∀ attempt ∈ attempts, attempt.events <+: registry.preparation
  earlier : ∀ attempt ∈ attempts.dropLast, ∃ failure, attempt.result = some (.error failure)
  atMostOnce : attempts.countP Attempt.isComplete ≤ 1
  complete : ∀ attempt ∈ attempts, attempt.isComplete = true →
    attempt.events = registry.preparation

namespace Registry.FailInTurn

variable {registry : Registry} {start before : Session σ} {attempts : List Attempt}

theorem unready (fails : registry.FailInTurn start attempts before) (fresh : start.ready = false) :
    before.ready = false := by
  induction fails with
  | nil => exact fresh
  | concat _ failed _ _ ih => exact unready_of_failed ih failed

theorem events (fails : registry.FailInTurn start attempts before) :
    before.events = start.events ++ (attempts.flatMap Attempt.record).map Prod.snd := by
  induction fails with
  | nil => simp
  | concat _ _ asked _ ih => simp [asked, ih, Attempt.record, Function.comp_def]

theorem isPrefix (fails : registry.FailInTurn start attempts before) :
    ∀ attempt ∈ attempts, attempt.events <+: registry.preparation := by
  induction fails with
  | nil => simp
  | concat _ _ _ first ih =>
    intro attempt mem
    rcases List.mem_append.mp mem with mem | mem
    · exact ih attempt mem
    · cases List.mem_singleton.mp mem
      exact first

theorem isError (fails : registry.FailInTurn start attempts before) :
    ∀ attempt ∈ attempts, ∃ failure, attempt.result = some (.error failure) := by
  induction fails with
  | nil => simp
  | concat _ _ _ _ ih =>
    intro attempt mem
    rcases List.mem_append.mp mem with mem | mem
    · exact ih attempt mem
    · cases List.mem_singleton.mp mem
      exact ⟨_, rfl⟩

theorem not_isComplete (fails : registry.FailInTurn start attempts before) :
    ∀ attempt ∈ attempts, ¬ attempt.isComplete = true := by
  intro attempt mem
  obtain ⟨failure, isError⟩ := fails.isError attempt mem
  simp [Attempt.isComplete, isError, Except.isOk, Except.toBool]

theorem not_mem_underWay (fails : registry.FailInTurn start attempts before) {place : Nat}
    {events : List Event} : ⟨place, events, none⟩ ∉ attempts := by
  intro mem
  obtain ⟨failure, isError⟩ := fails.isError _ mem
  cases isError

theorem inTurn (fails : registry.FailInTurn start attempts before)
    (places : (attempts.map Attempt.place).Nodup) : registry.InTurn attempts where
  places := places
  begun := fails.isPrefix
  earlier attempt mem := fails.isError attempt (List.mem_of_mem_dropLast mem)
  atMostOnce := by
    rw [List.countP_eq_zero.mpr fails.not_isComplete]
    exact Nat.zero_le 1
  complete attempt mem complete := absurd complete (fails.not_isComplete attempt mem)

theorem of_isComplete (fails : registry.FailInTurn start attempts before) {last : Attempt}
    {P : Attempt → Prop} (holds : last.isComplete = true → P last) :
    ∀ attempt ∈ attempts ++ [last], attempt.isComplete = true → P attempt := by
  intro attempt mem complete
  rcases List.mem_append.mp mem with mem | mem
  · exact absurd complete (fails.not_isComplete attempt mem)
  · cases List.mem_singleton.mp mem
    exact holds complete

/-- Attempts that have failed, and one more that has not, or not yet. -/
theorem inTurn_concat (fails : registry.FailInTurn start attempts before) {last : Attempt}
    (places : ((attempts ++ [last]).map Attempt.place).Nodup)
    (begun : last.events <+: registry.preparation)
    (complete : last.isComplete = true → last.events = registry.preparation) :
    registry.InTurn (attempts ++ [last]) where
  places := places
  begun := List.forall_mem_append.mpr ⟨fails.isPrefix, List.forall_mem_singleton.mpr begun⟩
  earlier := by
    rw [List.dropLast_concat]
    exact fails.isError
  atMostOnce := by
    rw [List.countP_append, List.countP_eq_zero.mpr fails.not_isComplete, Nat.zero_add]
    exact List.countP_le_length
  complete := fails.of_isComplete complete

end Registry.FailInTurn

end TableSearch
