import TableSearch.Session.Execution

/-!
# What operations do to a session

An operation changes the session step by step, whether it succeeds or fails in the
end.  A relation between sessions that holds for each step and along runs of steps
holds for the whole operation.  `Sends` is the instance for the statements that are
sent.
-/

namespace TableSearch

open Sql

variable {σ α β : Type}

/-! ## Running operations -/

namespace Operation

@[simp] theorem perform_pure (a : α) (session : Session σ) :
    perform (pure a : Operation σ α) session = (.ok a, session) := rfl

@[simp] theorem perform_throw (failure : Failure) (session : Session σ) :
    perform (throw failure : Operation σ α) session = (.error failure, session) := rfl

@[simp] theorem perform_ofExcept (result : Except Failure α) (session : Session σ) :
    perform (ofExcept result : Operation σ α) session = (result, session) := by
  cases result <;> rfl

@[simp] theorem perform_get (session : Session σ) :
    perform (get : Operation σ (Session σ)) session = (.ok session, session) := rfl

@[simp] theorem perform_set (next session : Session σ) :
    perform (set next : Operation σ Unit) session = (.ok (), next) := rfl

@[simp] theorem perform_modify (change : Session σ → Session σ) (session : Session σ) :
    perform (modify change : Operation σ Unit) session = (.ok (), change session) := rfl

/-- What comes after a failure is not run. -/
theorem perform_bind (action : Operation σ α) (next : α → Operation σ β) (session : Session σ) :
    perform (action >>= next) session =
      match perform action session with
      | (.ok a, session) => perform (next a) session
      | (.error failure, session) => (.error failure, session) := by
  simp only [perform, ExceptT.run_bind, StateT.run_bind]
  cases StateT.run (ExceptT.run action) session with
  | mk result session => cases result <;> rfl

/-- When an operation in two steps succeeds, so does each of them. -/
theorem perform_bind_eq_ok {action : Operation σ α} {next : α → Operation σ β} {b : β}
    {session after : Session σ} :
    perform (action >>= next) session = (.ok b, after) ↔
      ∃ a middle, perform action session = (.ok a, middle) ∧
        perform (next a) middle = (.ok b, after) := by
  rw [perform_bind]
  split
  next a middle first =>
    refine ⟨fun done => ⟨a, middle, first, done⟩, ?_⟩
    rintro ⟨_, _, same, done⟩
    cases first.symm.trans same
    exact done
  next failure middle first =>
    refine ⟨nofun, ?_⟩
    rintro ⟨_, _, same, -⟩
    cases first.symm.trans same

/-- An operation whose result is not wanted leaves the same session behind. -/
theorem perform_discard (action : Operation σ α) (session : Session σ) :
    (perform (Functor.discard action) session).2 = (perform action session).2 := by
  rw [Functor.discard, map_const, Function.comp_apply, map_eq_pure_bind, perform_bind]
  split
  next same => rw [same]; rfl
  next same => rw [same]

theorem perform_ofExcept_eq_ok {result : Except Failure α} {a : α} {session after : Session σ} :
    perform (ofExcept result : Operation σ α) session = (.ok a, after) ↔
      result = .ok a ∧ after = session := by
  rw [perform_ofExcept, Prod.mk.injEq, eq_comm (a := session)]

/-- What succeeds behind a step that is only made on a condition has been reached with it or
without it. -/
theorem perform_optional_eq_ok {c : Prop} [Decidable c] {action : Operation σ Unit}
    {next : Operation σ α} {a : α} {session after : Session σ}
    (done : perform (if c then action >>= fun _ => next else next) session = (.ok a, after)) :
    ∃ middle, (middle = session ∨ perform action session = (.ok (), middle)) ∧
      perform next middle = (.ok a, after) := by
  split at done
  next =>
    obtain ⟨_, middle, first, rest⟩ := perform_bind_eq_ok.mp done
    exact ⟨middle, .inr first, rest⟩
  next => exact ⟨session, .inl rfl, done⟩

/-- What succeeds both with and without a step before it succeeds behind a step that is only made
on a condition. -/
theorem exists_perform_optional {c : Prop} [Decidable c] {action : Operation σ Unit}
    {next : Operation σ α} {session : Session σ} (P : Session σ → Prop) (skipped : P session)
    (made : c → ∃ middle, perform action session = (.ok (), middle) ∧ P middle)
    (rest : ∀ middle, P middle → ∃ a after, perform next middle = (.ok a, after)) :
    ∃ a after, perform (if c then action >>= fun _ => next else next) session = (.ok a, after) := by
  split
  next holds =>
    obtain ⟨middle, first, reached⟩ := made holds
    obtain ⟨a, after, done⟩ := rest middle reached
    exact ⟨a, after, perform_bind_eq_ok.mpr ⟨(), middle, first, done⟩⟩
  next => exact rest session skipped

/-- A statement is recorded, and the world has been asked, whatever the answer is. -/
theorem perform_send [World σ] (statement : Statement) (session : Session σ) :
    perform (send statement) session =
      ((World.execute statement session.world).1.mapError Failure.database,
        { session with
          events := session.events ++ [.statement statement]
          world := (World.execute statement session.world).2 }) := by
  unfold send
  simp only [perform_bind, record, perform_modify, perform_get, perform_set]
  cases (World.execute statement session.world).1 <;> rfl

end Operation

open Operation

/-! ## Progress -/

/-- A relation that holds along runs of steps it holds for. -/
structure IsProgress (R : Session σ → Session σ → Prop) : Prop where
  refl : ∀ session, R session session
  trans : ∀ {first second third}, R first second → R second third → R first third

/-- An operation that relates each session to the one it leaves behind. -/
def Progresses (R : Session σ → Session σ → Prop) (action : Operation σ α) : Prop :=
  ∀ session, R session (perform action session).2

namespace Progresses

variable {R : Session σ → Session σ → Prop} (progress : IsProgress R)

include progress

theorem pure (a : α) : Progresses R (pure a : Operation σ α) := fun session => progress.refl session

theorem throw (failure : Failure) : Progresses R (throw failure : Operation σ α) :=
  fun session => progress.refl session

theorem ofExcept (result : Except Failure α) : Progresses R (ofExcept result : Operation σ α) := by
  intro session
  rw [perform_ofExcept]
  exact progress.refl session

theorem get : Progresses R (get : Operation σ (Session σ)) := fun session => progress.refl session

theorem bind {action : Operation σ α} {next : α → Operation σ β} (first : Progresses R action)
    (rest : ∀ a, Progresses R (next a)) : Progresses R (action >>= next) := by
  intro session
  have step := first session
  rw [perform_bind]
  split
  next a after same =>
    rw [same] at step
    exact progress.trans step (rest a after)
  next failure after same =>
    rw [same] at step
    exact step

omit progress in
theorem ite {c : Prop} [Decidable c] {yes no : Operation σ α} (whenTrue : Progresses R yes)
    (whenFalse : Progresses R no) : Progresses R (if c then yes else no) := by
  split
  next => exact whenTrue
  next => exact whenFalse

/-- A step in front of others that is only made on a condition. -/
theorem optional {c : Prop} [Decidable c] {action : Operation σ Unit} {next : Operation σ α}
    (first : Progresses R action) (rest : Progresses R next) :
    Progresses R (if c then action >>= fun _ => next else next) :=
  ite (bind progress first fun _ => rest) rest

theorem discard {action : Operation σ α} (progresses : Progresses R action) :
    Progresses R (Functor.discard action) :=
  bind progress progresses fun _ => pure progress _

/-- What follows a result that is taken over may depend on how it came about. -/
theorem bind_ofExcept {result : Except Failure α} {next : α → Operation σ β}
    (rest : ∀ a, result = .ok a → Progresses R (next a)) :
    Progresses R (MonadExcept.ofExcept result >>= next) := by
  intro session
  rw [perform_bind, perform_ofExcept]
  cases result with
  | ok a => exact rest a rfl session
  | error failure => exact progress.refl session

end Progresses

/-! ## Sent statements -/

/-- Sessions between which only statements with a property are sent. -/
def Sent (P : Statement → Prop) (before after : Session σ) : Prop :=
  ∃ added, after.events = before.events ++ added ∧
    ∀ statement, Event.statement statement ∈ added → P statement

theorem isProgress_sent (P : Statement → Prop) :
    IsProgress (Sent P : Session σ → Session σ → Prop) where
  refl session := ⟨[], by simp, by simp⟩
  trans := by
    rintro first second third ⟨added, same, sent⟩ ⟨more, same', sent'⟩
    refine ⟨added ++ more, by rw [same', same, List.append_assoc], fun statement member => ?_⟩
    rcases List.mem_append.mp member with member | member
    · exact sent statement member
    · exact sent' statement member

abbrev Sends (P : Statement → Prop) (action : Operation σ α) : Prop := Progresses (Sent P) action

namespace Sends

variable {P : Statement → Prop}

theorem modify {change : Session σ → Session σ}
    (same : ∀ session, (change session).events = session.events) :
    Sends P (modify change : Operation σ Unit) := fun session => ⟨[], by simp [same], by simp⟩

theorem log (entry : LogEntry) : Sends P (log entry : Operation σ Unit) := modify fun _ => rfl

theorem record {event : Event} (other : ∀ statement, event ≠ .statement statement) :
    Sends P (record event : Operation σ Unit) := by
  intro session
  refine ⟨[event], rfl, fun statement member => ?_⟩
  exact absurd (List.mem_singleton.mp member).symm (other statement)

variable [World σ]

theorem send {statement : Statement} (sent : P statement) :
    Sends P (send statement : Operation σ ResultSet) := by
  intro session
  rw [perform_send]
  refine ⟨[.statement statement], rfl, fun other member => ?_⟩
  obtain rfl : other = statement := by simpa using member
  exact sent

theorem run {statement : Statement} (sent : P statement) :
    Sends P (run statement : Operation σ Outcome) := by
  have progress : IsProgress (Sent P : Session σ → Session σ → Prop) := isProgress_sent P
  refine .bind progress (log _) fun _ => .bind progress (send sent) fun _ => ?_
  exact .ofExcept progress _

theorem run_ {statement : Statement} (sent : P statement) : Sends (σ := σ) P (run_ statement) :=
  .bind (isProgress_sent P) (run sent) fun _ => .pure (isProgress_sent P) _

end Sends

end TableSearch
