import TableSearch.Checked
import TableSearch.ErrorKind
import TableSearch.Filter.Reader
import TableSearch.IndexSchema
import TableSearch.Query.Basic
import TableSearch.Settings.DatabaseUrl
import TableSearch.Yaml.Error

/-!
# Failures

Every way in which an operation can fail.  Failures that name a broken rule of
this library have a kind of error and a message; the others are told apart by
their cause alone.
-/

namespace TableSearch

/-- What a missing key is missing from. -/
inductive Subject where
  | document
  | patch
deriving DecidableEq, Repr

def Subject.word : Subject → String
  | document => "Document"
  | patch => "Patch"

inductive Failure where
  | conversion (error : ConversionError)
  | invalid (faults : List Fault)
  | filter (error : FilterError)
  | query (error : QueryError)
  | schema (error : SchemaError)
  | keyMissing (subject : Subject) (field : String)
  | notBound (indexId : String)
  /-- The database refuses a statement. -/
  | database (message : String)
  /-- The user's initialization hook fails. -/
  | hook
  /-- A settings file, named by its path, that holds something else than a mapping. -/
  | notSettings (path : String)
  /-- A settings file whose text has no value. -/
  | settingsText (error : YamlError)
  | url (error : UrlError)
  /-- A log format without any field. -/
  | logFormat
deriving DecidableEq, Repr

namespace Failure

def kind? : Failure → Option ErrorKind
  | filter _ => some .filterParse
  | query _ => some .queryValidation
  | schema _ => some .schemaValidation
  | keyMissing _ _ => some .documentValidation
  | notBound _ => some .indexNotBound
  | notSettings _ => some .invalidArgument
  | _ => none

def message : Failure → String
  | filter error => error.message
  | query error => error.message
  | schema error => error.message
  | keyMissing subject field => missingKeyMessage subject.word field
  | notBound indexId => notBoundMessage indexId
  | database message => message
  | hook => "hook failed"
  | notSettings path => "Configuration file " ++ path ++ " must contain a mapping"
  | _ => ""

/-! ## Results that fail -/

def ofConversion {α : Type} (result : Except ConversionError α) : Except Failure α :=
  result.mapError conversion

def ofFilter {α : Type} (result : Except FilterError α) : Except Failure α :=
  result.mapError filter

def ofQuery {α : Type} (result : Except QueryError α) : Except Failure α :=
  result.mapError query

def ofSchema {α : Type} (result : Except SchemaError α) : Except Failure α :=
  result.mapError schema

def ofUrl {α : Type} (result : Except UrlError α) : Except Failure α :=
  result.mapError url

def ofChecked {α : Type} : Checked α → Except Failure α
  | .valid a => .ok a
  | .invalid faults => .error (invalid faults)

end Failure

end TableSearch
