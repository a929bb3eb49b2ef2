import TableSearch.Proofs.Index.Changes

/-!
# Calls that run at the same time

Calls of one registry that run at the same time share its session.  A call gives way to others only
where it waits for the database: it hands over a statement, at some later time the database executes
it, and at some later time yet the call takes up its work again.
-/

namespace TableSearch

open Sql Operation

variable {σ : Type}

/-! ## Processes -/

/-- An operation in pieces: it is cut wherever it waits for the database to execute a statement
whose rows do not matter. -/
inductive Process (σ : Type) where
  | finish (action : Operation σ Unit)
  | send (prepare : Operation σ Statement) (rest : Process σ)

def Session.sending (session : Session σ) (statement : Statement) : Session σ :=
  { session with
    log := session.log ++ [.executing (onOneLine statement.text)]
    events := session.events ++ [.statement statement] }

/-- A process, and how far it is. -/
inductive Task (σ : Type) where
  /-- The process is about to take up its work. -/
  | paused (process : Process σ)
  /-- The process waits for a statement. -/
  | sent (statement : Statement) (rest : Process σ)
  | finished (result : Except Failure Unit)

def Process.resume (process : Process σ) (session : Session σ) : Task σ × Session σ :=
  match process with
  | finish action =>
    let (result, session) := perform action session
    (.finished result, session)
  | send prepare rest =>
    match perform prepare session with
    | (.ok statement, session) => (.sent statement rest, session.sending statement)
    | (.error failure, session) => (.finished (.error failure), session)

variable [World σ]

def Process.whole : Process σ → Operation σ Unit
  | finish action => action
  | send prepare rest => do
    let statement ← prepare
    run_ statement
    rest.whole

/-- What becomes of a process when its statement has been answered. -/
def Process.answered (rest : Process σ) (answer : Answer) : Process σ :=
  match answer.outcome with
  | .ok _ => rest
  | .error failure => .finish (throw failure)

namespace Task

/-- A turn of a task.  While it waits for a statement, it is the turn of the database. -/
def turn (task : Task σ) (session : Session σ) : Task σ × Session σ :=
  match task with
  | paused process => process.resume session
  | sent statement rest =>
    let (answer, world) := World.execute statement session.world
    (.paused (rest.answered answer), { session with world })
  | finished result => (.finished result, session)

end Task

/-! ## Processes of calls -/

namespace Registry

variable (registry : Registry)

def bindProcess (indexId : String) (binding : Binding) : Process σ :=
  .send
    (do
      registry.ensureReady
      let seconds := World.now (← get).world
      let createdAt ← ofConversion (Value.real (seconds.scale 1000)).toInteger
      return .storeBinding registry.table indexId binding.toJson createdAt)
    (.finish do
      remember indexId binding
      log (.bound indexId binding.schema binding.table))

def deleteProcess (indexId : String) : Process σ :=
  .send
    (do
      registry.ensureReady
      let binding ← requireBinding indexId
      return .dropTable binding.tableName)
    (.send (return .forgetBinding registry.table indexId)
      (.finish do
        forget indexId
        log (.dropped indexId)))

theorem whole_bindProcess (indexId : String) (binding : Binding) :
    (registry.bindProcess indexId binding : Process σ).whole = registry.bind indexId binding := by
  simp only [bindProcess, Process.whole, bind, save, bind_assoc, pure_bind]

theorem whole_deleteProcess (indexId : String) :
    (registry.deleteProcess indexId : Process σ).whole = registry.delete indexId := by
  simp only [deleteProcess, Process.whole, delete, bind_assoc, pure_bind]

end Registry

/-- The change that a call asks for and its process, if it binds or deletes an index. -/
def Call.process? (registry : Registry) : Call → Option (Change × Process σ)
  | bindIndex indexId binding => some (.bind indexId binding, registry.bindProcess indexId binding)
  | bindValue indexId value =>
    match Binding.read value with
    | .valid binding => some (.bind indexId binding, registry.bindProcess indexId binding)
    | .invalid _ => none
  | deleteIndex indexId => some (.release indexId, registry.deleteProcess indexId)
  | _ => none

theorem Call.whole_of_process? {registry : Registry} {call : Call} {change : Change}
    {process : Process σ} (pieces : call.process? registry = some (change, process)) :
    call.change? = some change ∧ process.whole = call.operation registry := by
  cases call with
  | bindIndex indexId binding =>
    cases pieces
    exact ⟨rfl, registry.whole_bindProcess indexId binding⟩
  | bindValue indexId value =>
    cases read : Binding.read value with
    -- A value that is not read as a binding makes no process.
    | invalid faults =>
      simp only [process?, read] at pieces
      cases pieces
    | valid binding =>
      simp only [process?, read, Option.some.injEq, Prod.mk.injEq] at pieces
      obtain ⟨rfl, rfl⟩ := pieces
      rw [change?, registry.whole_bindProcess, operation, Registry.bindValue, read]
      exact ⟨rfl, rfl⟩
  | deleteIndex indexId =>
    cases pieces
    exact ⟨rfl, registry.whole_deleteProcess indexId⟩
  | startup | shutdown | createIndex | describeIndex | listIndexes | nextPage | query | upsert
  | patch | delete => cases pieces

/-! ## Tasks that take turns -/

namespace Task

def isDone : Task σ → Bool
  | finished (.ok _) => true
  | _ => false

def written (change : Change) : Task σ → List Change
  | sent statement _ => if statement.isBindingWrite then [change] else []
  | _ => []

/-- What the next turn of a task changes in the known bindings. -/
def made (change : Change) : Task σ → List Change
  | paused (.finish _) => [change]
  | _ => []

end Task

/-- Tasks that share a session, each with the change that it is about. -/
structure Workload (σ : Type) where
  tasks : List (Change × Task σ)
  session : Session σ

namespace Workload

def ofCalls (registry : Registry) (calls : List Call) (session : Session σ) : Workload σ where
  tasks := (calls.filterMap (Call.process? registry)).map fun (change, process) =>
    (change, .paused process)
  session := session

def turn (load : Workload σ) (place : Nat) : Workload σ :=
  match load.tasks[place]? with
  | none => load
  | some (change, task) =>
    let (next, session) := task.turn load.session
    { tasks := load.tasks.set place (change, next), session }

def run (order : List Nat) (load : Workload σ) : Workload σ := order.foldl turn load

def Succeeds (load : Workload σ) : Prop := load.tasks.all (·.2.isDone) = true

def writtenAt (load : Workload σ) (place : Nat) : List Change :=
  load.tasks[place]?.elim [] fun (change, task) => task.written change

def madeAt (load : Workload σ) (place : Nat) : List Change :=
  load.tasks[place]?.elim [] fun (change, task) => task.made change

def written : List Nat → Workload σ → List Change
  | [], _ => []
  | place :: order, load => load.writtenAt place ++ written order (load.turn place)

def made : List Nat → Workload σ → List Change
  | [], _ => []
  | place :: order, load => load.madeAt place ++ made order (load.turn place)

end Workload

end TableSearch
