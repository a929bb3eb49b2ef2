import TableSearch.FieldSchema
import TableSearch.Json.Writer

/-!
# Index bindings

A binding ties the fields of an index to the columns of a table.  It decides
which column a field name means, which field is the primary key, and which
fields a search projects.
-/

namespace TableSearch

/-- The column that stores a field, and what the column holds. -/
structure FieldBinding where
  column : String
  type : String := "string"
  dimensions : Option Int := none
  metric : Option Metric := none
deriving DecidableEq, Repr

namespace FieldBinding

def isVector (field : FieldBinding) : Bool := field.type == FieldSchema.vectorWord

def isObject (field : FieldBinding) : Bool := field.type == ScalarKind.object.name

def ofSchema (name : String) : FieldSchema → FieldBinding
  | .vector dimensions metric _ =>
    { column := name, type := FieldSchema.vectorWord, dimensions := some dimensions,
      metric := some metric }
  | .scalar type _ => { column := name, type := type.name }

def read : Decoder FieldBinding :=
  Decoder.record fun entries =>
    mk <$> Decoder.required ["column"] Decoder.text entries
      <*> Decoder.withDefault ["type"] "string" Decoder.text entries
      <*> Decoder.withDefault ["dimensions"] none (Decoder.optional Decoder.integer) entries
      <*> Decoder.withDefault ["similarity"] none
            (Decoder.optional (Decoder.textAmong .notMember Metric.ofName?)) entries

def toValue (field : FieldBinding) : Value :=
  .map <|
    [("column", .text field.column), ("type", .text field.type)] ++
      (field.dimensions.map fun n => ("dimensions", Value.int n)).toList ++
      (field.metric.map fun m => ("similarity", Value.text m.name)).toList

end FieldBinding

/-- Which fields a search projects. -/
inductive Include where
  /-- All fields or none. -/
  | every (wanted : Bool)
  /-- The fields with these names, in this order. -/
  | named (names : List String)
deriving DecidableEq, Repr

/-- The table of an index, its primary key column, and its fields in order. -/
structure Binding where
  schema : String := "public"
  table : String
  keyColumn : String := "id"
  fields : List (String × FieldBinding) := []
deriving DecidableEq, Repr

namespace Binding

def standardSchema : String := "public"

/-- The name under which a search yields the score of a row.  A field with this
name is never projected. -/
def scoreName : String := "score"

/-- The name under which a search yields the key of a row. -/
def idName : String := "id"

/-- Schema and table of an index without a binding: its name is that of the
table, behind that of the schema and a point if both parts are there. -/
def locate (indexId : String) : String × String :=
  let cs := indexId.toList
  let schema := cs.takeWhile (· != '.')
  let table := (cs.drop schema.length).drop 1
  if schema.isEmpty || table.isEmpty then (standardSchema, indexId)
  else (String.ofList schema, String.ofList table)

def byConvention (indexId : String) : Binding :=
  let (schema, table) := locate indexId
  { schema, table, keyColumn := "id" }

def tableName (binding : Binding) : Sql.TableName := ⟨binding.schema, binding.table⟩

def field? (binding : Binding) (name : String) : Option FieldBinding := binding.fields.lookup name

/-- The column that a field name means; an unbound name means itself. -/
def columnFor (binding : Binding) (name : String) : String :=
  match binding.field? name with
  | some field => field.column
  | none => name

/-- The field of the primary key: the first one whose column is the key column. -/
def keyField (binding : Binding) : String :=
  match binding.fields.find? (·.2.column == binding.keyColumn) with
  | some (name, _) => name
  | none => binding.keyColumn

def projectedFields (binding : Binding) : Option Include → List String
  | some (.every false) => []
  | some (.named names) =>
    names.filter fun name => name != scoreName && (binding.field? name).isSome
  | _ => (binding.fields.map (·.1)).filter (· != scoreName)

def vectorField? (binding : Binding) : Option FieldBinding :=
  (binding.fields.map (·.2)).find? FieldBinding.isVector

def read : Decoder Binding :=
  Decoder.record fun entries =>
    mk <$> Decoder.withDefault ["schema", "schema_name"] standardSchema Decoder.text entries
      <*> Decoder.required ["table"] Decoder.text entries
      <*> Decoder.withDefault ["pkey"] "id" Decoder.text entries
      <*> Decoder.withDefault ["fields"] [] (Decoder.mapOf FieldBinding.read) entries

def toValue (binding : Binding) : Value :=
  .map
    [("schema", .text binding.schema), ("table", .text binding.table),
     ("pkey", .text binding.keyColumn),
     ("fields", .map (binding.fields.map fun (name, field) => (name, field.toValue)))]

def toJson (binding : Binding) : String :=
  match Json.write Json.bindingStyle binding.toValue with
  | .ok text => text
  | .error _ => ""

end Binding

end TableSearch
