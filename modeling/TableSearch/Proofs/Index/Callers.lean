import TableSearch.Proofs.Index.Preparation
import TableSearch.Proofs.Index.Tasks

/-!
# Callers that wait for one initialization

Callers of a registry that use it for the first time at the same time.  Each of them looks whether
the registry is ready, waits for a lock if it is not, looks again, and makes an attempt to initialize
it.  A caller gives way to others where it waits: for the lock, for the user's hook, and for the
database to answer a statement.

The lock has one holder at a time, and is released whether the attempt succeeds or fails.
-/

namespace TableSearch

open Sql Operation

variable {σ : Type}

/-! ## An attempt in pieces -/

/-- An operation that is cut wherever it waits for the hook or for the rows of a statement. -/
inductive Work (σ : Type) where
  | finish (action : Operation σ Unit)
  | hook (rest : Work σ)
  | send (statement : Statement) (rest : Outcome → Work σ)

def Work.whole [World σ] : Work σ → Operation σ Unit
  | finish action => action
  | hook rest => do
    Registry.runHook
    rest.whole
  | send statement rest => do
    let outcome ← run statement
    (rest outcome).whole

def Work.failed (failure : Failure) : Work σ := .finish (throw failure)

def Work.answered (rest : Outcome → Work σ) (answer : Answer) : Work σ :=
  match answer.outcome with
  | .ok outcome => rest outcome
  | .error failure => failed failure

namespace Registry

variable (registry : Registry)

def takeOver (outcome : Outcome) : Operation σ Unit := do
  loadRows outcome.rows
  log (.loaded (← get).bindings.length)
  modify fun session => { session with ready := true }

def tableWork : Work σ :=
  .send (.createSchema registry.schema) fun _ =>
    .send (.createRegistry registry.table) fun _ =>
      .send (.loadBindings registry.table) fun outcome => .finish (takeOver outcome)

def work : Work σ :=
  let extended :=
    if registry.createExtension then .send .createExtension fun _ => registry.tableWork
    else registry.tableWork
  if registry.hasHook then .hook extended else extended

/-- The pieces of an attempt are those of the preparation. -/
theorem whole_work [World σ] : (registry.work : Work σ).whole = registry.prepare := by
  have tables : (registry.tableWork : Work σ).whole = (do
      run_ (.createSchema registry.schema)
      run_ (.createRegistry registry.table)
      let outcome ← run (.loadBindings registry.table)
      takeOver outcome) := by
    simp only [tableWork, Work.whole, run_, bind_assoc, pure_bind]
  unfold work prepare
  cases registry.hasHook <;> cases registry.createExtension <;>
    simp only [Work.whole, tables, takeOver, run_, bind_assoc, pure_bind, if_true,
      Bool.false_eq_true, if_false]

end Registry

/-! ## Callers -/

inductive Caller (σ : Type) where
  /-- About to look whether the registry is ready. -/
  | arriving
  /-- Waits for the lock. -/
  | waiting
  /-- Has taken the lock, and is about to look again. -/
  | entered
  /-- Has taken the lock, and is about to go on with its attempt. -/
  | working (work : Work σ)
  /-- Has taken the lock, and waits for the hook. -/
  | hooked (rest : Work σ)
  /-- Has taken the lock, and waits for the database. -/
  | sent (statement : Statement) (rest : Outcome → Work σ)
  | returned (result : Except Failure Unit)

namespace Caller

/-- Whether a caller is between taking the lock and releasing it. -/
def isInside : Caller σ → Bool
  | arriving | waiting | returned _ => false
  | entered | working _ | hooked _ | sent _ _ => true

def isAtWork : Caller σ → Bool
  | arriving | waiting | entered | returned _ => false
  | working _ | hooked _ | sent _ _ => true

theorem isInside_of_isAtWork {caller : Caller σ} (atWork : caller.isAtWork = true) :
    caller.isInside = true := by
  cases caller with
  | arriving | waiting | entered | returned => cases atWork
  | working | hooked | sent => rfl

def asks : Caller σ → List Event
  | working (.hook _) => [.hook]
  | working (.send statement _) => [.statement statement]
  | _ => []

variable [World σ]

/-- A turn of a caller, after which the lock may be held or free.  While a caller waits for the hook
or for a statement, it is the turn of these. -/
def turn (registry : Registry) (locked : Bool) (session : Session σ) :
    Caller σ → Caller σ × Bool × Session σ
  | arriving => (if session.ready then returned (.ok ()) else waiting, locked, session)
  | waiting => if locked then (waiting, true, session) else (entered, true, session)
  | entered =>
    if session.ready then (returned (.ok ()), false, session)
    else (working registry.work, locked, session)
  | working (.finish action) =>
    let (result, session) := perform action session
    (returned result, false, session)
  | working (.hook rest) =>
    (hooked rest, locked, { session with events := session.events ++ [.hook] })
  | working (.send statement rest) =>
    (sent statement rest, locked, session.sending statement)
  | hooked rest =>
    let (succeeds, world) := World.runHook session.world
    (working (if succeeds then rest else .failed .hook), locked, { session with world })
  | sent statement rest =>
    let (answer, world) := World.execute statement session.world
    (working (.answered rest answer), locked, { session with world })
  | returned result => (returned result, locked, session)

end Caller

/-! ## Crowds -/

/-- Callers that share a session, whether one of them has the lock, and what each of them has asked
for so far. -/
structure Crowd (σ : Type) where
  callers : List (Caller σ)
  locked : Bool := false
  session : Session σ
  record : List (Nat × Event) := []

namespace Crowd

def ofCallers (count : Nat) (session : Session σ) : Crowd σ where
  callers := List.replicate count .arriving
  session := session

theorem getElem?_set {callers : List (Caller σ)} {place : Nat} {caller next : Caller σ}
    (found : callers[place]? = some caller) (other : Nat) :
    (callers.set place next)[other]? = if other = place then some next else callers[other]? := by
  obtain ⟨inRange, -⟩ := List.getElem?_eq_some_iff.mp found
  rw [List.getElem?_set]
  by_cases same : place = other
  · subst same
    simp [inRange]
  · simp [same, Ne.symm same]

theorem getElem?_set_of_differs {callers : List (Caller σ)} {place other : Nat}
    {caller another : Caller σ} (next : Caller σ) (found : callers[place]? = some caller)
    (there : callers[other]? = some another) (differs : caller ≠ another) :
    (callers.set place next)[other]? = some another := by
  rw [getElem?_set found, if_neg]
  · exact there
  · rintro rfl
    exact differs (Option.some.inj (found.symm.trans there))

variable [World σ]

def turn (registry : Registry) (crowd : Crowd σ) (place : Nat) : Crowd σ :=
  match crowd.callers[place]? with
  | none => crowd
  | some caller =>
    let (next, locked, session) := caller.turn registry crowd.locked crowd.session
    { callers := crowd.callers.set place next, locked, session
      record := crowd.record ++ caller.asks.map (place, ·) }

def run (registry : Registry) (order : List Nat) (crowd : Crowd σ) : Crowd σ :=
  order.foldl (turn registry) crowd

/-! ## Single turns -/

variable {registry : Registry} {crowd : Crowd σ} {place : Nat}

theorem turn_eq_of_none (nobody : crowd.callers[place]? = none) :
    crowd.turn registry place = crowd := by
  unfold turn
  rw [nobody]

theorem turn_eq {caller next : Caller σ} {locked : Bool} {session : Session σ}
    (found : crowd.callers[place]? = some caller)
    (turned : caller.turn registry crowd.locked crowd.session = (next, locked, session)) :
    crowd.turn registry place =
      { callers := crowd.callers.set place next, locked, session
        record := crowd.record ++ caller.asks.map (place, ·) } := by
  unfold turn
  rw [found]
  dsimp only
  rw [turned]

theorem turn_eq_of_silent {caller next : Caller σ} {locked : Bool}
    {session : Session σ} (found : crowd.callers[place]? = some caller)
    (turned : caller.turn registry crowd.locked crowd.session = (next, locked, session))
    (silent : caller.asks = []) :
    crowd.turn registry place =
      { crowd with callers := crowd.callers.set place next, locked, session } := by
  rw [turn_eq found turned, silent, List.map_nil, List.append_nil]

end Crowd

end TableSearch
