import TableSearch.Proofs.Index.Creation
import TableSearch.Proofs.Index.Plans
import TableSearch.Proofs.Index.Preparation

/-!
# The statements that create an index

Behind the initialization of its registry, the creation of an index is a fixed sequence of
statements: one for the table, one for each vector index, and one that stores the binding.  The
first statement that fails ends the creation, and then the known bindings are those from before.
-/

namespace TableSearch

open Sql Operation

variable {σ α : Type} [World σ]

/-! ## Runs of statements -/

/-- The session after several statements, whatever the answers are. -/
def Session.executedAll (session : Session σ) (statements : List Statement) : Session σ :=
  statements.foldl Session.executed session

theorem Session.records_executedAll (session : Session σ) (statements : List Statement) :
    Records (statements.map .statement) session (session.executedAll statements) := by
  induction statements generalizing session with
  | nil => exact .refl session
  | cons statement rest ih =>
    exact (session.records_executed statement).trans (ih (session.executed statement))

@[simp] theorem Session.bindings_executedAll (session : Session σ) (statements : List Statement) :
    (session.executedAll statements).bindings = session.bindings := by
  induction statements generalizing session with
  | nil => rfl
  | cons statement rest ih => exact ih (session.executed statement)

@[simp] theorem Session.ready_executedAll (session : Session σ) (statements : List Statement) :
    (session.executedAll statements).ready = session.ready := by
  induction statements generalizing session with
  | nil => rfl
  | cons statement rest ih => exact ih (session.executed statement)

namespace Operation

def runAll : List Statement → Operation σ Unit
  | [] => return
  | statement :: rest => do
    run_ statement
    runAll rest

theorem runAll_append (front rest : List Statement) :
    (runAll (front ++ rest) : Operation σ Unit) = runAll front >>= fun _ => runAll rest := by
  induction front with
  | nil => rfl
  | cons statement front ih => rw [List.cons_append, runAll, runAll, ih, bind_assoc]

theorem perform_run_of_succeeds {statement : Statement} {session : Session σ}
    (succeeds : statement.succeeds session.world = true) :
    perform (run_ statement) session = (.ok (), session.executed statement) := by
  obtain ⟨outcome, sent⟩ := exists_run_of_succeeds succeeds
  exact perform_bind_eq_ok.mpr ⟨outcome, _, sent, rfl⟩

theorem exists_run_of_fails {statement : Statement} {session : Session σ}
    (fails : statement.succeeds session.world = false) :
    ∃ failure, perform (run_ statement) session = (.error failure, session.executed statement) := by
  rw [Statement.succeeds, Answer.isSuccess] at fails
  rw [perform_run_]
  cases answered : Answer.outcome (World.execute statement session.world).1 with
  | error failure => exact ⟨failure, rfl⟩
  | ok outcome =>
    rw [answered] at fails
    cases fails

theorem perform_runAll {statements : List Statement} {session : Session σ}
    (succeed : AllSucceed statements session.world) :
    perform (runAll statements) session = (.ok (), session.executedAll statements) := by
  induction statements generalizing session with
  | nil => rfl
  | cons statement rest ih =>
    exact perform_bind_eq_ok.mpr
      ⟨(), _, perform_run_of_succeeds succeed.1, ih succeed.2⟩

theorem perform_runAll_eq_ok {statements : List Statement} {session after : Session σ}
    (done : perform (runAll statements) session = (.ok (), after)) :
    after = session.executedAll statements := by
  induction statements generalizing session with
  | nil =>
    cases done
    rfl
  | cons statement rest ih =>
    obtain ⟨_, middle, first, done⟩ := perform_bind_eq_ok.mp done
    rw [perform_run_, Prod.mk.injEq] at first
    rw [ih done, ← first.2]
    rfl

/-- The first statement that fails is the last one that is sent. -/
theorem exists_runAll_of_fails {front rest : List Statement} {statement : Statement}
    {session : Session σ} (succeed : AllSucceed front session.world)
    (fails : statement.succeeds (advance (front.map .statement) session.world) = false)
    (next : Unit → Operation σ α) :
    ∃ failure, perform (runAll (front ++ statement :: rest) >>= next) session =
      (.error failure, session.executedAll (front ++ [statement])) := by
  have reached := (session.records_executedAll front).world
  rw [← reached] at fails
  obtain ⟨failure, failed⟩ := exists_run_of_fails fails
  refine ⟨failure, ?_⟩
  rw [runAll_append, bind_assoc, perform_bind, perform_runAll succeed]
  change perform ((run_ statement >>= fun _ => runAll rest) >>= next) _ = _
  rw [bind_assoc, perform_bind, failed, Session.executedAll, Session.executedAll,
    List.foldl_append]
  rfl

end Operation

/-! ## Created indexes -/

namespace Registry

variable (registry : Registry) (indexId schemaName : String) (fields : IndexSchema) (key : String)
  (createdAt : Int)

def tableStatements : List Statement :=
  .createTable ⟨schemaName, indexId⟩ fields ::
    fields.vectors.map fun (column, metric) => .createIndex ⟨schemaName, indexId⟩ column metric

def creationStatements : List Statement :=
  tableStatements indexId schemaName fields ++
    [.storeBinding registry.table indexId (fields.binding schemaName indexId key).toJson createdAt]

theorem createIndexes_eq_runAll (table : TableName) (columns : List (String × Metric)) :
    (createIndexes table columns : Operation σ Unit) =
      runAll (columns.map fun (column, metric) => .createIndex table column metric) := by
  induction columns with
  | nil => rfl
  | cons column rest ih => rw [createIndexes, ih, List.map_cons, runAll]

/-- The time at which a binding is stored, as the clock of a world shows it. -/
def storingTime (world : σ) : Except ConversionError Int :=
  (Value.real ((World.now world).scale 1000)).toInteger

/-- A schema from which an index can be created: its fields can be read, one of them is the key, and
each of them has a type for its column. -/
structure AcceptsSchema (schema : Value) (fields : IndexSchema) (key : String) : Prop where
  read : readSchema schema = .ok fields
  keyed : fields.key = .ok key
  typed : fields.requireColumnTypes = .ok ()

variable {registry indexId schemaName fields key createdAt} {schema : Value}
  {session middle : Session σ} (accepts : AcceptsSchema schema fields key)
  (initialized : perform registry.ensureReady session = (.ok (), middle))
  (clock : storingTime
    (advance ((tableStatements indexId schemaName fields).map .statement) middle.world) =
      .ok createdAt)

include accepts initialized clock

/-- Behind its initialization, a registry creates an index by its statements. -/
theorem perform_createIndex :
    perform (registry.createIndex indexId schemaName schema) session =
      perform (do
        runAll (registry.creationStatements indexId schemaName fields key createdAt)
        remember indexId (fields.binding schemaName indexId key)
        log (.created indexId schemaName)) middle := by
  have tail : perform (registry.createIndex indexId schemaName schema) session =
      perform (do
        runAll (tableStatements indexId schemaName fields)
        registry.save indexId (fields.binding schemaName indexId key)
        log (.created indexId schemaName)) middle := by
    unfold createIndex
    simp only [accepts.read, accepts.keyed, accepts.typed, initialized, createIndexes_eq_runAll,
      perform_bind, ofConversion, perform_ofExcept, Failure.ofSchema, Failure.ofConversion,
      Except.mapError, tableStatements, runAll, bind_assoc]
  rw [tail, creationStatements, runAll_append, bind_assoc, perform_bind, perform_bind]
  split
  next made =>
    -- Only a table that has been created with its indexes asks for the time.
    obtain rfl := perform_runAll_eq_ok made
    rw [← (middle.records_executedAll _).world, storingTime] at clock
    unfold save
    simp only [perform_bind, perform_get, ofConversion, perform_ofExcept, clock, bind_assoc,
      Failure.ofConversion, Except.mapError, runAll, perform_pure]
  next => rfl

/-- When all statements succeed, the index is created and bound. -/
theorem createIndex_succeeds
    (succeed : AllSucceed (registry.creationStatements indexId schemaName fields key createdAt)
      middle.world) :
    ∃ after, perform (registry.createIndex indexId schemaName schema) session = (.ok (), after) ∧
      Records ((registry.creationStatements indexId schemaName fields key createdAt).map .statement)
        middle after ∧
      after.ready = true ∧
      after.bindings.lookup indexId = some (fields.binding schemaName indexId key) := by
  let binding := fields.binding schemaName indexId key
  let statements := registry.creationStatements indexId schemaName fields key createdAt
  let sent := middle.executedAll statements
  have made : perform (registry.createIndex indexId schemaName schema) session =
      (.ok (), { sent with
        bindings := insertEntry indexId binding sent.bindings
        log := sent.log ++ [.created indexId schemaName] }) := by
    rw [perform_createIndex accepts initialized clock, perform_bind, perform_runAll succeed]
    rfl
  obtain ⟨events, world⟩ := middle.records_executedAll statements
  refine ⟨_, made, ⟨events, world⟩, ?_, lookup_insertEntry indexId binding sent.bindings⟩
  exact (middle.ready_executedAll _).trans (registry.ready_of_ensureReady initialized)

/-- A statement that fails is the last one that is sent, and no binding is changed. -/
theorem createIndex_fails {front rest : List Statement} {statement : Statement}
    (split : registry.creationStatements indexId schemaName fields key createdAt =
      front ++ statement :: rest)
    (succeed : AllSucceed front middle.world)
    (fails : statement.succeeds (advance (front.map .statement) middle.world) = false) :
    ∃ failure after,
      perform (registry.createIndex indexId schemaName schema) session = (.error failure, after) ∧
      Records ((front ++ [statement]).map .statement) middle after ∧
      after.bindings = middle.bindings := by
  rw [perform_createIndex accepts initialized clock, split]
  obtain ⟨failure, failed⟩ := exists_runAll_of_fails succeed fails fun _ => do
    remember indexId (fields.binding schemaName indexId key)
    log (.created indexId schemaName)
  exact ⟨failure, _, failed, middle.records_executedAll _, middle.bindings_executedAll _⟩

end Registry

end TableSearch
