import TableSearch.Proofs.Results
import TableSearch.Proofs.Session.Progress

/-!
# What the world answers

A session records the statements that are sent, and nothing but these and the user's hook moves
the world on.  So the answers to the statements of a session follow from the world at its
beginning and from the recorded events.  `Keeps` is the progress of an operation that only asks:
it leaves the known bindings as they are.
-/

namespace TableSearch

open Sql Operation

variable {σ α : Type} [World σ]

/-- What the database answers to a statement: a result, or the message of a refusal. -/
abbrev Answer := Except String ResultSet

def Answer.outcome (answer : Answer) : Except Failure Outcome := do
  let result ← answer.mapError Failure.database
  Failure.ofConversion (Outcome.ofResult result)

@[simp] theorem Answer.outcome_ok (result : ResultSet) :
    outcome (.ok result) = Failure.ofConversion (Outcome.ofResult result) := rfl

/-- Whether a statement succeeded: it was not refused, and its rows could be read. -/
def Answer.isSuccess (answer : Answer) : Bool := answer.outcome.isOk

/-! ## The world behind a run of events -/

/-- The world after an event. -/
def Event.advance (event : Event) (world : σ) : σ :=
  match event with
  | .statement sent => (World.execute sent world).2
  | .hook => (World.runHook world).2
  | .ensureReady => world
  | .dispose => world

def Event.answer (event : Event) (world : σ) : List (Statement × Answer) :=
  match event with
  | .statement sent => [(sent, (World.execute sent world).1)]
  | .hook => []
  | .ensureReady => []
  | .dispose => []

def advance (events : List Event) (world : σ) : σ :=
  events.foldl (fun world event => event.advance world) world

def answers : List Event → σ → List (Statement × Answer)
  | [], _ => []
  | event :: rest, world => event.answer world ++ answers rest (event.advance world)

@[simp] theorem answers_nil (world : σ) : answers [] world = [] := rfl

@[simp] theorem answers_statement (statement : Statement) (world : σ) :
    answers [.statement statement] world = [(statement, (World.execute statement world).1)] := rfl

theorem advance_append (first rest : List Event) (world : σ) :
    advance (first ++ rest) world = advance rest (advance first world) :=
  List.foldl_append

theorem answers_append (first rest : List Event) (world : σ) :
    answers (first ++ rest) world = answers first world ++ answers rest (advance first world) := by
  induction first generalizing world with
  | nil => rfl
  | cons event first ih =>
    rw [List.cons_append, answers, answers, ih, List.append_assoc]
    rfl

theorem mem_of_mem_answers {events : List Event} {world : σ} {statement : Statement}
    {answer : Answer} (mem : (statement, answer) ∈ answers events world) :
    Event.statement statement ∈ events := by
  induction events generalizing world with
  | nil => cases mem
  | cons event events ih =>
    rcases List.mem_append.mp mem with here | inside
    · cases event with
      | statement sent =>
        cases List.mem_singleton.mp here
        exact List.mem_cons_self
      | hook | ensureReady | dispose => cases here
    · exact List.mem_cons_of_mem _ (ih inside)

/-! ## Recorded events -/

/-- Sessions between which some events are recorded, and whose world moves on with them alone. -/
structure Records (added : List Event) (before after : Session σ) : Prop where
  events : after.events = before.events ++ added
  world : after.world = advance added before.world

namespace Records

theorem refl (session : Session σ) : Records [] session session :=
  ⟨(List.append_nil _).symm, rfl⟩

theorem trans {first second : List Event} {before middle after : Session σ}
    (left : Records first before middle) (right : Records second middle after) :
    Records (first ++ second) before after :=
  ⟨by rw [right.events, left.events, List.append_assoc],
    by rw [right.world, left.world, advance_append]⟩

theorem unique {first second : List Event} {before after : Session σ}
    (left : Records first before after) (right : Records second before after) : first = second :=
  List.append_cancel_left (left.events.symm.trans right.events)

end Records

/-! ## Executed statements -/

def Session.executed (session : Session σ) (statement : Statement) : Session σ :=
  { session with
    log := session.log ++ [.executing (onOneLine statement.text)]
    events := session.events ++ [.statement statement]
    world := (World.execute statement session.world).2 }

theorem Session.records_executed (session : Session σ) (statement : Statement) :
    Records [.statement statement] session (session.executed statement) := ⟨rfl, rfl⟩

namespace Operation

theorem perform_run (statement : Statement) (session : Session σ) :
    perform (run statement) session =
      (Answer.outcome (World.execute statement session.world).1, session.executed statement) := by
  unfold run
  simp only [perform_bind, Operation.log, perform_modify, perform_send]
  cases (World.execute statement session.world).1 with
  | error message => rfl
  | ok result => exact perform_ofExcept _ _

/-- A statement whose rows do not matter succeeds or fails with its answer. -/
theorem perform_run_ (statement : Statement) (session : Session σ) :
    perform (run_ statement) session =
      ((fun _ => ()) <$> Answer.outcome (World.execute statement session.world).1,
        session.executed statement) := by
  unfold run_
  rw [perform_bind, perform_run]
  cases Answer.outcome (World.execute statement session.world).1 <;> rfl

end Operation

/-! ## Bindings that are kept -/

/-- Sessions between which the bindings are kept, and only statements with a property are sent. -/
structure Keeps (P : Statement → Prop) (before after : Session σ) : Prop where
  recorded : ∃ added, Records added before after ∧
    ∀ statement, Event.statement statement ∈ added → P statement
  ready : after.ready = before.ready
  bindings : after.bindings = before.bindings

namespace Keeps

variable {P : Statement → Prop}

theorem isProgress : IsProgress (Keeps P : Session σ → Session σ → Prop) where
  refl session := ⟨⟨[], .refl session, nofun⟩, rfl, rfl⟩
  trans := by
    rintro first second third ⟨⟨added, records, sent⟩, ready, bindings⟩
      ⟨⟨more, records', sent'⟩, ready', bindings'⟩
    refine ⟨⟨added ++ more, records.trans records', fun statement mem => ?_⟩,
      ready'.trans ready, bindings'.trans bindings⟩
    rcases List.mem_append.mp mem with mem | mem
    · exact sent statement mem
    · exact sent' statement mem

theorem mono {Q : Statement → Prop} (implies : ∀ statement, P statement → Q statement)
    {before after : Session σ} (keeps : Keeps P before after) : Keeps Q before after := by
  obtain ⟨⟨added, records, sent⟩, ready, bindings⟩ := keeps
  exact ⟨⟨added, records, fun statement mem => implies statement (sent statement mem)⟩, ready,
    bindings⟩

theorem log (entry : LogEntry) : Progresses (Keeps P) (Operation.log entry : Operation σ Unit) :=
  fun session => ⟨⟨[], ⟨by simp [Operation.log], rfl⟩, nofun⟩, rfl, rfl⟩

theorem run {statement : Statement} (sent : P statement) :
    Progresses (Keeps P) (Operation.run statement : Operation σ Outcome) := by
  intro session
  rw [perform_run]
  refine ⟨⟨_, session.records_executed statement, fun other mem => ?_⟩, rfl, rfl⟩
  cases List.mem_singleton.mp mem
  exact sent

end Keeps

end TableSearch
