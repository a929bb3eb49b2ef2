import TableSearch.Proofs.Session.Answers

/-!
# Two operations in step

What two operations do in sessions that look alike.  Sessions look alike when the same texts of
statements have been sent and the same log entries written, whatever the parameters were; the
worlds behind them answer alike as long as they are asked alike.

Two operations are in step when they leave such sessions behind, and both succeed or both fail.
-/

namespace TableSearch

open Sql Operation

variable {σ α β γ δ : Type}

/-! ## Sessions that look alike -/

def Event.text? : Event → Option String
  | .statement sent => some sent.text
  | .hook | .ensureReady | .dispose => none

/-- The texts of all statements that were sent, from first to last. -/
def Session.texts (session : Session σ) : List String := session.events.filterMap Event.text?

/-- Worlds that answer alike: statements of the same text get the same answer. -/
structure World.AnswersAlike [World σ] (R : σ → σ → Prop) : Prop where
  execute : ∀ {statement other : Statement} {world world' : σ}, R world world' →
    statement.text = other.text →
      (World.execute statement world).1 = (World.execute other world').1 ∧
        R (World.execute statement world).2 (World.execute other world').2
  runHook : ∀ {world world' : σ}, R world world' →
    (World.runHook world).1 = (World.runHook world').1 ∧
      R (World.runHook world).2 (World.runHook world').2

/-- Sessions that nobody can tell apart who does not see the parameters of statements. -/
structure Session.Alike (R : σ → σ → Prop) (session other : Session σ) : Prop where
  world : R session.world other.world
  ready : session.ready = other.ready
  bindings : session.bindings = other.bindings
  texts : session.texts = other.texts
  log : session.log = other.log

/-! ## Operations in step -/

/-- Results that are related: two values by a relation, or two failures. -/
inductive Related (Q : α → β → Prop) : Except Failure α → Except Failure β → Prop where
  | ok {a : α} {b : β} (related : Q a b) : Related Q (.ok a) (.ok b)
  | error (failure other : Failure) : Related Q (.error failure) (.error other)

theorem Related.refl (result : Except Failure α) : Related Eq result result := by
  cases result with
  | ok a => exact .ok rfl
  | error failure => exact .error _ _

theorem Related.mono {Q Q' : α → β → Prop} {result : Except Failure α} {other : Except Failure β}
    (related : Related Q result other) (implies : ∀ a b, Q a b → Q' a b) :
    Related Q' result other := by
  cases related with
  | ok related => exact .ok (implies _ _ related)
  | error failure failure' => exact .error _ _

/-- What two operations yield: related results, and sessions that look alike. -/
structure InStep (R : σ → σ → Prop) (Q : α → β → Prop) (made : Except Failure α × Session σ)
    (other : Except Failure β × Session σ) : Prop where
  result : Related Q made.1 other.1
  session : made.2.Alike R other.2

/-- Operations that yield related results, and sessions that look alike if they did so before. -/
def Lockstep (R : σ → σ → Prop) (Q : α → β → Prop) (action : Operation σ α)
    (other : Operation σ β) : Prop :=
  ∀ session session', Session.Alike R session session' →
    InStep R Q (perform action session) (perform other session')

namespace Lockstep

variable {R : σ → σ → Prop} {Q : α → β → Prop} {S : γ → δ → Prop}

theorem pure {a : α} {b : β} (related : Q a b) :
    Lockstep R Q (pure a : Operation σ α) (pure b) :=
  fun _ _ alike => ⟨.ok related, alike⟩

theorem ofExcept {result : Except Failure α} {other : Except Failure β}
    (related : Related Q result other) :
    Lockstep R Q (ofExcept result : Operation σ α) (ofExcept other) := by
  intro session session' alike
  rw [perform_ofExcept, perform_ofExcept]
  exact ⟨related, alike⟩

theorem ofExcept_self (result : Except Failure α) :
    Lockstep R Eq (MonadExcept.ofExcept result : Operation σ α) (MonadExcept.ofExcept result) :=
  .ofExcept (.refl result)

theorem get : Lockstep R (Session.Alike R) (get : Operation σ (Session σ)) get :=
  fun _ _ alike => ⟨.ok alike, alike⟩

theorem modify {change change' : Session σ → Session σ}
    (keeps : ∀ session session', Session.Alike R session session' →
      (change session).Alike R (change' session')) :
    Lockstep R Eq (modify change : Operation σ Unit) (modify change') :=
  fun session session' alike => ⟨.ok rfl, keeps session session' alike⟩

theorem log (entry : LogEntry) : Lockstep R Eq (log entry : Operation σ Unit) (log entry) :=
  modify fun _ _ alike => { alike with log := congrArg (· ++ [entry]) alike.log }

/-- What follows the first operations may depend on what they yield in these sessions. -/
theorem bind_from {action : Operation σ α} {other : Operation σ β} {next : α → Operation σ γ}
    {next' : β → Operation σ δ} {session session' : Session σ} (first : Lockstep R Q action other)
    (alike : session.Alike R session')
    (rest : ∀ a b, Q a b → (∃ middle, perform action session = (.ok a, middle)) →
      Lockstep R S (next a) (next' b)) :
    InStep R S (perform (action >>= next) session) (perform (other >>= next') session') := by
  have step := first session session' alike
  rw [perform_bind, perform_bind]
  generalize perform action session = made at step rest
  generalize perform other session' = made' at step
  obtain ⟨result, middle⟩ := made
  obtain ⟨result', middle'⟩ := made'
  obtain ⟨related, after⟩ := step
  cases related with
  | ok related => exact rest _ _ related ⟨_, rfl⟩ middle middle' after
  | error failure failure' => exact ⟨.error _ _, after⟩

theorem bind {action : Operation σ α} {other : Operation σ β} {next : α → Operation σ γ}
    {next' : β → Operation σ δ} (first : Lockstep R Q action other)
    (rest : ∀ a b, Q a b → Lockstep R S (next a) (next' b)) :
    Lockstep R S (action >>= next) (other >>= next') :=
  fun _ _ alike => first.bind_from alike fun a b related _ => rest a b related

theorem bind_ofExcept {result : Except Failure α} {other : Except Failure β} {a : α} {b : β}
    {next : α → Operation σ γ} {next' : β → Operation σ δ} (first : result = .ok a)
    (second : other = .ok b) (rest : Lockstep R S (next a) (next' b)) :
    Lockstep R S (MonadExcept.ofExcept result >>= next) (MonadExcept.ofExcept other >>= next') := by
  subst first second
  exact rest

theorem ite {c c' : Prop} [Decidable c] [Decidable c'] {yes no : Operation σ α}
    {yes' no' : Operation σ β} (same : c ↔ c') (whenTrue : Lockstep R Q yes yes')
    (whenFalse : Lockstep R Q no no') :
    Lockstep R Q (if c then yes else no) (if c' then yes' else no') := by
  by_cases holds : c
  · rwa [if_pos holds, if_pos (same.mp holds)]
  · rwa [if_neg holds, if_neg fun holds' => holds (same.mpr holds')]

/-- A step in front of others that both make on the same condition. -/
theorem optional {c c' : Prop} [Decidable c] [Decidable c'] {action action' : Operation σ Unit}
    {next : Operation σ α} {next' : Operation σ β} (same : c ↔ c')
    (first : Lockstep R Eq action action') (rest : Lockstep R Q next next') :
    Lockstep R Q (if c then action >>= fun _ => next else next)
      (if c' then action' >>= fun _ => next' else next') :=
  ite same (bind first fun _ _ _ => rest) rest

theorem mono {Q' : α → β → Prop} {action : Operation σ α} {other : Operation σ β}
    (steps : Lockstep R Q action other) (implies : ∀ a b, Q a b → Q' a b) :
    Lockstep R Q' action other := by
  intro session session' alike
  obtain ⟨related, after⟩ := steps session session' alike
  exact ⟨related.mono implies, after⟩

variable [World σ]

/-- Statements of the same text are answered alike, and are written to the log alike. -/
theorem run (answers : World.AnswersAlike R) {statement other : Statement}
    (same : statement.text = other.text) :
    Lockstep R Eq (run statement : Operation σ Outcome) (run other) := by
  intro session session' alike
  obtain ⟨answer, world⟩ := answers.execute alike.world same
  have sent : (session.executed statement).Alike R (session'.executed other) := by
    refine ⟨world, alike.ready, alike.bindings, ?_, ?_⟩
    · have texts := alike.texts
      simp only [Session.texts] at texts
      simp [Session.texts, Session.executed, texts, Event.text?, same]
    · simp only [Session.executed, alike.log, same]
  rw [perform_run, perform_run, answer]
  exact ⟨.refl _, sent⟩

theorem run_ (answers : World.AnswersAlike R) {statement other : Statement}
    (same : statement.text = other.text) :
    Lockstep R Eq (run_ statement : Operation σ Unit) (run_ other) :=
  bind (run answers same) fun _ _ _ => pure rfl

end Lockstep

end TableSearch
