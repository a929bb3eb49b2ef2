import TableSearch.Binding
import TableSearch.Text.Literal

/-!
# Index schemas

The schema of a new index names its fields and says what each of them holds.
Exactly one field is the primary key.
-/

namespace TableSearch

inductive SchemaError where
  | noKey
  | severalKeys (fields : List String)
deriving DecidableEq, Repr

def SchemaError.message : SchemaError → String
  | .noKey => "schema must have a field with pk: true"
  | .severalKeys fields => "schema must have exactly one pk field, got " ++ Literal.ofTexts fields

abbrev IndexSchema := List (String × FieldSchema)

namespace IndexSchema

def keys (schema : IndexSchema) : List String := (schema.filter (·.2.isKey)).map (·.1)

def key (schema : IndexSchema) : Except SchemaError String :=
  match schema.keys with
  | [] => .error .noKey
  | [key] => .ok key
  | several => .error (.severalKeys several)

/-- The binding of a new index: a table with the index's name, and columns with
the fields' names. -/
def binding (schema : IndexSchema) (schemaName indexId key : String) : Binding where
  schema := schemaName
  table := indexId
  keyColumn := key
  fields := schema.map fun (name, field) => (name, .ofSchema name field)

/-- Refuses fields whose columns have no type that can be written out. -/
def requireColumnTypes (schema : IndexSchema) : Except ConversionError Unit :=
  if schema.all (·.2.hasColumnType) then .ok () else .error .wrongForm

def vectors (schema : IndexSchema) : List (String × Metric) :=
  schema.filterMap fun (name, field) =>
    match field with
    | .vector _ metric _ => some (name, metric)
    | .scalar _ _ => none

end IndexSchema

end TableSearch
