import TableSearch.Binding
import TableSearch.IndexSchema

/-!
# Statements

Every statement that is ever sent to the database, as data.  `Statement.clause`
writes a statement out: names of the caller become quoted names, and values
become parameters.
-/

namespace TableSearch.Sql

inductive Cast where
  | vector
  | json
deriving DecidableEq, Repr

def Cast.text : Cast → String
  | vector => "::vector"
  | json => "::jsonb"

structure Cell where
  value : Value
  cast : Option Cast := none

def Cell.fragment (number : Int) (cell : Cell) : Fragment :=
  .slot number :: (cell.cast.map fun cast => Piece.fixed cast.text).toList

def registryTable (schema : String) : TableName := ⟨schema, "search_indexes"⟩

/-- The name under which this library registers its indexes. -/
def backendId : String := "pgvector"

inductive Statement where
  /-- A statement that is given as text. -/
  | given (sql : String) (params : List Value)
  | createExtension
  | createSchema (schema : String)
  | createRegistry (registry : TableName)
  | loadBindings (registry : TableName)
  | storeBinding (registry : TableName) (indexId : String) (config : String) (createdAt : Int)
  /-- Lists index ids in ascending order.  An empty start and a false cursor restrict nothing. -/
  | listIndexes (registry : TableName) (start : Option String) (cursor : Value) (limit : Nat)
  | forgetBinding (registry : TableName) (indexId : String)
  | createTable (table : TableName) (fields : IndexSchema)
  | createIndex (table : TableName) (column : String) (metric : Metric)
  | dropTable (table : TableName)
  | countRows (table : TableName)
  | tableSize (table : TableName)
  /-- A search, written out before. -/
  | search (clause : Clause)
  /-- Inserts rows, whose first cell is the key, or updates the rows with their keys. -/
  | upsert (table : TableName) (keyColumn : String) (columns : List String)
      (rows : List (List Cell))
  | update (table : TableName) (keyColumn : String) (changes : List (String × Cell)) (key : String)
  | delete (table : TableName) (keyColumn : String) (keys : List Value)

namespace Statement

/-! ## Parts of statements -/

def cellFragments (next : Int) : List Cell → List Fragment
  | [] => []
  | cell :: rest => cell.fragment next :: cellFragments (next + 1) rest

def rowFragments (next : Int) : List (List Cell) → List Fragment
  | [] => []
  | row :: rest =>
    (Fragment.join ", " (cellFragments next row)).inParens ::
      rowFragments (next + row.length) rest

def changeFragments (next : Int) : List (String × Cell) → List Fragment
  | [] => []
  | (column, cell) :: rest =>
    (.name column :: .fixed " = " :: cell.fragment next) :: changeFragments (next + 1) rest

def slots (count : Nat) : List Fragment :=
  (List.range count).map fun i => [.slot (i + 1 : Nat)]

/-- What happens to a row whose key is present. -/
def conflict : List String → Fragment
  | [] => [.fixed "DO NOTHING"]
  | columns =>
    .fixed "DO UPDATE SET " :: Fragment.join ", "
      (columns.map fun column => [.name column, .fixed " = EXCLUDED.", .name column])

def columnDefinition (name : String) (field : FieldSchema) : Fragment :=
  [.name name, .fixed (" " ++ field.columnType ++ if field.isKey then " PRIMARY KEY" else "")]

def indexName (table : TableName) (column : String) : String :=
  table.table ++ "_" ++ column ++ "_idx"

/-- Adds a condition on the ids in a listing when its operand is wanted. -/
def restrict (wanted : Bool) (operand : Value) (condition : Int → Fragment) (clause : Clause) :
    Clause :=
  if wanted then
    ⟨clause.fragment ++ condition (clause.params.length + 1), clause.params ++ [operand]⟩
  else clause

def listing (registry : TableName) (start : Option String) (cursor : Value) (limit : Nat) :
    Clause :=
  let all : Clause :=
    ⟨.fixed "SELECT id FROM " :: registry.fragment ++ [.fixed "\nWHERE backend = ", .slot 1],
     [.text backendId]⟩
  let starting := restrict (start.any (!·.isEmpty)) (.text (start.getD ""))
    (fun n => [.fixed " AND starts_with(id, ", .slot n, .fixed ")"]) all
  let following := restrict cursor.truthy cursor
    (fun n => [.fixed " AND id > ", .slot n]) starting
  restrict true (.int limit) (fun n => [.fixed "\nORDER BY id ASC LIMIT ", .slot n]) following

/-! ## Writing statements out -/

def clause : Statement → Clause
  | given sql params => ⟨[.fixed sql], params⟩
  | createExtension => ⟨[.fixed "CREATE EXTENSION IF NOT EXISTS vector"], []⟩
  | createSchema schema => ⟨[.fixed "CREATE SCHEMA IF NOT EXISTS ", .name schema], []⟩
  | createRegistry registry =>
    ⟨.fixed "CREATE TABLE IF NOT EXISTS " :: registry.fragment ++
      [.fixed (" (\n  id TEXT PRIMARY KEY,\n  backend TEXT NOT NULL,\n" ++
        "  config JSONB NOT NULL,\n  created_at BIGINT NOT NULL\n)")], []⟩
  | loadBindings registry =>
    ⟨.fixed "SELECT id, config FROM " :: registry.fragment ++
      [.fixed " WHERE backend = ", .slot 1], [.text backendId]⟩
  | storeBinding registry indexId config createdAt =>
    ⟨.fixed "INSERT INTO " :: registry.fragment ++
      .fixed " (id, backend, config, created_at)\nVALUES " ::
        (Fragment.join ", " (slots 4)).inParens ++
      [.fixed "\nON CONFLICT (id) DO UPDATE SET config = EXCLUDED.config"],
     [.text indexId, .text backendId, .text config, .int createdAt]⟩
  | listIndexes registry start cursor limit => listing registry start cursor limit
  | forgetBinding registry indexId =>
    ⟨.fixed "DELETE FROM " :: registry.fragment ++ [.fixed " WHERE id = ", .slot 1],
     [.text indexId]⟩
  | createTable table fields =>
    ⟨.fixed "CREATE TABLE " :: table.fragment ++ .fixed " (\n  " ::
      Fragment.join ",\n  " (fields.map fun (name, field) => columnDefinition name field) ++
      [.fixed "\n)"], []⟩
  | createIndex table column metric =>
    ⟨[.fixed "CREATE INDEX ", .name (indexName table column), .fixed "\nON "] ++ table.fragment ++
      [.fixed "\nUSING hnsw (", .name column, .fixed (" " ++ metric.operatorClass ++ ")")], []⟩
  | dropTable table => ⟨.fixed "DROP TABLE IF EXISTS " :: table.fragment, []⟩
  | countRows table => ⟨.fixed "SELECT COUNT(*) AS count FROM " :: table.fragment, []⟩
  | tableSize table =>
    ⟨[.fixed "SELECT pg_total_relation_size(", .slot 1, .fixed "::text::regclass) AS size"],
     [.text table.fragment.text]⟩
  | search clause => clause
  | upsert table keyColumn columns rows =>
    ⟨.fixed "INSERT INTO " :: table.fragment ++ .fixed " " ::
      (Fragment.names (keyColumn :: columns)).inParens ++ .fixed "\nVALUES " ::
      Fragment.join ", " (rowFragments 1 rows) ++ .fixed "\nON CONFLICT " ::
      Fragment.inParens [.name keyColumn] ++ .fixed " " :: conflict columns ++
      [.fixed "\nRETURNING (xmax = 0) as inserted"],
     rows.flatten.map Cell.value⟩
  | update table keyColumn changes key =>
    ⟨.fixed "UPDATE " :: table.fragment ++ .fixed "\nSET " ::
      Fragment.join ", " (changeFragments 1 changes) ++
      [.fixed "\nWHERE ", .name keyColumn, .fixed " = ", .slot (changes.length + 1)],
     changes.map (·.2.value) ++ [.text key]⟩
  | delete table keyColumn keys =>
    ⟨.fixed "DELETE FROM " :: table.fragment ++ [.fixed "\nWHERE ", .name keyColumn, .fixed " IN "] ++
      (Fragment.join ", " (slots keys.length)).inParens, keys⟩

def text (statement : Statement) : String := statement.clause.text

def params (statement : Statement) : List Value := statement.clause.params

end Statement

end TableSearch.Sql
