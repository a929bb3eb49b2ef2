import TableSearch.Index.Handle
import TableSearch.Index.Page

/-!
# The registry of indexes

The registry creates, binds, describes, lists and deletes indexes.  Bindings are
stored in a table of their own and kept in the session.  Before its first use
the registry initializes itself: it makes sure that the table is there, and loads
the bindings.  An initialization that fails is tried again with the next use.
-/

namespace TableSearch

open Sql Operation

structure Registry where
  /-- The schema of the table of bindings. -/
  schema : String := "pgsearch"
  /-- Whether the extension for vectors is created. -/
  createExtension : Bool := false
  /-- Whether the user has a hook that runs before the initialization. -/
  hasHook : Bool := false
deriving DecidableEq, Repr

/-- How far an index is.  The registry tells only of indexes that are there to be used. -/
inductive IndexStatus where
  | ready
  | initializing
  | error
deriving DecidableEq, Repr

def IndexStatus.name : IndexStatus → String
  | ready => "ready"
  | initializing => "initializing"
  | error => "error"

structure IndexStats where
  indexId : String
  count : Int
  sizeBytes : Int
  dimensions : Option Int
  metric : Option Metric
  status : IndexStatus := .ready
deriving DecidableEq, Repr

structure Capabilities where
  modes : List String
  multiSignal : Bool
  multiVector : Bool
  filters : Bool
  orderBy : Bool
deriving DecidableEq, Repr

structure IndexSummary where
  id : Value
  status : IndexStatus := .ready

namespace Registry

def standardSchema : String := "pgsearch"

/-- The number of items on a page when a listing gives none. -/
def standardLimit : Nat := 100

/-- Reads the parameters of a registry.  The engine and the hook are objects of the
program, which no value can stand for; `withEngine` tells that there is an engine. -/
def read (withEngine : Bool) : Decoder Registry :=
  Decoder.record fun entries =>
    (fun (_ : Unit) schema createExtension (_ : Option Unit) => { schema, createExtension })
      <$> (if withEngine then .valid ()
            else Decoder.required ["engine"] (fun _ => .fault .notEngine) entries)
      <*> Decoder.withDefault ["metadata_schema"] standardSchema Decoder.text entries
      <*> Decoder.withDefault ["create_extension"] false Decoder.flag entries
      <*> Decoder.withDefault ["ensure_init"] none
            (Decoder.optional fun _ => .fault .notCallable) entries

def table (registry : Registry) : TableName := registryTable registry.schema

def capabilities : Capabilities where
  modes := ["vector"]
  multiSignal := false
  multiVector := false
  filters := true
  orderBy := true

variable {σ : Type} [World σ]

/-! ## Bindings in the session -/

def remember (indexId : String) (binding : Binding) : Operation σ Unit :=
  modify fun session =>
    { session with bindings := insertEntry indexId binding session.bindings }

def forget (indexId : String) : Operation σ Unit :=
  modify fun session =>
    { session with bindings := session.bindings.filter (·.1 != indexId) }

def binding? (indexId : String) : Operation σ (Option Binding) := do
  return (← get).bindings.lookup indexId

def requireBinding (indexId : String) : Operation σ Binding := do
  match ← binding? indexId with
  | some binding => return binding
  | none => throw (.notBound indexId)

/-! ## Initialization -/

def runHook : Operation σ Unit := do
  record .hook
  let session ← get
  let (succeeds, world) := World.runHook session.world
  set { session with world }
  if !succeeds then throw .hook

def bindingOfRow (row : Row) : Except Failure (String × Binding) := do
  let config ← Failure.ofConversion (row.column "config")
  let binding ← Failure.ofChecked (Binding.read (← Failure.ofConversion (Json.decode config)))
  match ← Failure.ofConversion (row.column "id") with
  | .text indexId => return (indexId, binding)
  | _ => throw (.conversion .wrongKind)

/-- Takes over the bindings in some rows, one after the other. -/
def loadRows : List Row → Operation σ Unit
  | [] => return
  | row :: rest => do
    let (indexId, binding) ← ofExcept (bindingOfRow row)
    remember indexId binding
    loadRows rest

def prepare (registry : Registry) : Operation σ Unit := do
  if registry.hasHook then runHook
  if registry.createExtension then run_ .createExtension
  run_ (.createSchema registry.schema)
  run_ (.createRegistry registry.table)
  let outcome ← run (.loadBindings registry.table)
  loadRows outcome.rows
  log (.loaded (← get).bindings.length)
  modify fun session => { session with ready := true }

def ensureReady (registry : Registry) : Operation σ Unit := do
  if (← get).ready then return
  registry.prepare

def shutdown : Operation σ Unit := record .dispose

/-! ## Indexes -/

def save (registry : Registry) (indexId : String) (binding : Binding) : Operation σ Unit := do
  let seconds := World.now (← get).world
  let createdAt ← ofConversion (Value.real (seconds.scale 1000)).toInteger
  run_ (.storeBinding registry.table indexId binding.toJson createdAt)
  remember indexId binding

/-- Reads the schema of a new index.  Each of its fields is checked by itself. -/
def readSchema (value : Value) : Except Failure IndexSchema := do
  let entries ← Failure.ofConversion value.toEntries
  entries.mapM fun (name, field) => do return (name, ← Failure.ofChecked (FieldSchema.read field))

def createIndexes (table : TableName) : List (String × Metric) → Operation σ Unit
  | [] => return
  | (column, metric) :: rest => do
    run_ (.createIndex table column metric)
    createIndexes table rest

def createIndex (registry : Registry) (indexId schemaName : String) (schema : Value) :
    Operation σ Unit := do
  let fields ← ofExcept (readSchema schema)
  let key ← ofExcept (Failure.ofSchema fields.key)
  registry.ensureReady
  ofConversion fields.requireColumnTypes
  let table : TableName := ⟨schemaName, indexId⟩
  run_ (.createTable table fields)
  createIndexes table fields.vectors
  registry.save indexId (fields.binding schemaName indexId key)
  log (.created indexId schemaName)

def bind (registry : Registry) (indexId : String) (binding : Binding) : Operation σ Unit := do
  registry.ensureReady
  registry.save indexId binding
  log (.bound indexId binding.schema binding.table)

def bindValue (registry : Registry) (indexId : String) (value : Value) : Operation σ Unit := do
  registry.bind indexId (← ofChecked (Binding.read value))

def firstNumber (outcome : Outcome) (column : String) : Except ConversionError Int :=
  match outcome.rows with
  | [] => .ok 0
  | row :: _ => do (← row.column column).toInteger

def describe (registry : Registry) (indexId : String) : Operation σ IndexStats := do
  registry.ensureReady
  let binding ← requireBinding indexId
  let rows ← run (.countRows binding.tableName)
  let size ← run (.tableSize binding.tableName)
  let count ← ofConversion (firstNumber rows "count")
  let sizeBytes ← ofConversion (firstNumber size "size")
  let vector := binding.vectorField?
  return {
    indexId, count, sizeBytes
    dimensions := vector.bind (·.dimensions)
    metric := vector.bind (·.metric) }

def delete (registry : Registry) (indexId : String) : Operation σ Unit := do
  registry.ensureReady
  let binding ← requireBinding indexId
  run_ (.dropTable binding.tableName)
  run_ (.forgetBinding registry.table indexId)
  forget indexId
  log (.dropped indexId)

/-- Loads a page of a listing.  One row more than wanted tells whether another page
follows. -/
def loadPage (registry : Registry) (params : PageParams) : Operation σ (PageResponse IndexSummary) := do
  let limit := params.limit.getD standardLimit
  let outcome ← run (.listIndexes registry.table params.start params.cursor (limit + 1))
  let rows := outcome.rows.take limit
  let ids ← ofConversion (rows.mapM (·.column "id"))
  let more := limit < outcome.rows.length
  return {
    items := ids.map fun id => { id }
    next := if more then ids.getLastD .null else .null
    last := !more }

def list (registry : Registry) (value : Value) : Operation σ (Page IndexSummary) := do
  registry.ensureReady
  let params ← ofChecked (PageParams.read value)
  Page.load registry.loadPage params

def handle (registry : Registry) (indexId : String) : Handle σ where
  indexId
  resolve := do
    registry.ensureReady
    binding? indexId

end Registry

end TableSearch
