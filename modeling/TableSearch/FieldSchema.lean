import TableSearch.Decoder
import TableSearch.Metric

/-!
# Field schemas

The schema of a new index says for each field what it holds: a vector, or a
scalar or an array of scalars.  The type of the field's column follows from it.
-/

namespace TableSearch

open Sql

/-- The kinds of values that a scalar field holds. -/
inductive ScalarKind where
  | string
  | int
  | bigint
  | float
  | boolean
  | date
  | object
  | geopoint
deriving DecidableEq, Repr

namespace ScalarKind

def all : List ScalarKind := [string, int, bigint, float, boolean, date, object, geopoint]

def name : ScalarKind → String
  | string => "string"
  | int => "int"
  | bigint => "bigint"
  | float => "float"
  | boolean => "boolean"
  | date => "date"
  | object => "object"
  | geopoint => "geopoint"

def columnType : ScalarKind → String
  | string => "TEXT"
  | int => "INTEGER"
  | bigint => "BIGINT"
  | float => "DOUBLE PRECISION"
  | boolean => "BOOLEAN"
  | date => "TIMESTAMPTZ"
  | object => "JSONB"
  | geopoint => "POINT"

def ofName? (name : String) : Option ScalarKind := all.find? (·.name == name)

@[simp] theorem ofName?_name (kind : ScalarKind) : ofName? kind.name = some kind := by
  cases kind <;> decide

end ScalarKind

/-- A scalar kind, or arrays of it. -/
structure ScalarType where
  kind : ScalarKind
  isArray : Bool
deriving DecidableEq, Repr

namespace ScalarType

/-- The mark behind the name of a kind that makes it the name of arrays. -/
def arrayMark : String := "[]"

def name (type : ScalarType) : String :=
  if type.isArray then type.kind.name ++ arrayMark else type.kind.name

/-- The type with a name.  Only one array mark is taken off. -/
def ofName? (name : String) : Option ScalarType :=
  let reversed := name.toList.reverse
  if reversed.take 2 = [']', '['] then
    (ScalarKind.ofName? (String.ofList (reversed.drop 2).reverse)).map (⟨·, true⟩)
  else (ScalarKind.ofName? name).map (⟨·, false⟩)

def columnType (type : ScalarType) : String :=
  if type.isArray then type.kind.columnType ++ arrayMark else type.kind.columnType

end ScalarType

/-- What a field of an index holds, and whether it is the primary key. -/
inductive FieldSchema where
  | vector (dimensions : Nat) (metric : Metric) (isKey : Bool)
  | scalar (type : ScalarType) (isKey : Bool)
deriving DecidableEq, Repr

namespace FieldSchema

def isKey : FieldSchema → Bool
  | vector _ _ isKey => isKey
  | scalar _ isKey => isKey

def columnType : FieldSchema → String
  | vector dimensions _ _ => "vector(" ++ toString dimensions ++ ")"
  | scalar type _ => type.columnType

/-- Whether the type of the column can be written out.  A number of dimensions with too many digits
has no text. -/
def hasColumnType : FieldSchema → Bool
  | vector dimensions _ _ => (toString dimensions).length ≤ digitLimit
  | scalar _ _ => true

def vectorWord : String := "vector"

def readVector : Decoder FieldSchema :=
  Decoder.record fun entries =>
    (fun _ dimensions metric isKey => vector dimensions metric isKey)
      <$> Decoder.withDefault ["type"] () (Decoder.textAmong .notChoice fun s =>
            if s = vectorWord then some () else none) entries
      <*> Decoder.required ["dimensions"] Decoder.positive entries
      <*> Decoder.withDefault ["similarity"] Metric.standard
            (Decoder.textAmong .notMember Metric.ofName?) entries
      <*> Decoder.withDefault ["pk"] false Decoder.flag entries

def readScalarType : Decoder ScalarType := fun value =>
  (Decoder.text value).andThen fun name =>
    Decoder.orFault (.broken (.knownFieldType name)) (ScalarType.ofName? name)

def readScalar : Decoder FieldSchema :=
  Decoder.record fun entries =>
    scalar <$> Decoder.required ["type"] readScalarType entries
      <*> Decoder.withDefault ["pk"] false Decoder.flag entries

/-- The names under which the two alternatives report their faults. -/
def vectorAlternative : String := "VectorFieldSchema"

def scalarAlternative : String := "ScalarFieldSchema"

def read : Decoder FieldSchema := fun value =>
  ((readVector value).within (.key vectorAlternative)).orElse
    ((readScalar value).within (.key scalarAlternative))

end FieldSchema

end TableSearch
