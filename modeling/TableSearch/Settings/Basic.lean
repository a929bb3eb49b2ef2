import TableSearch.Index.Registry
import TableSearch.Settings.Logging
import TableSearch.Value.Pairs
import TableSearch.Yaml.Reader

/-!
# Settings

The settings of a search index: where its database is and how it is connected to,
how the registry is set up, and how the library reports.
-/

namespace TableSearch

structure Settings where
  databaseUrl : String
  echo : Bool := false
  poolSize : Nat := 5
  maxOverflow : Nat := 10
  schema : String := Registry.standardSchema
  createExtension : Bool := false
  log : LogSettings := {}
deriving DecidableEq, Repr

structure Connection where
  url : DatabaseUrl
  poolSize : Nat
  maxOverflow : Nat
  echo : Bool
deriving DecidableEq, Repr

namespace Settings

def urlStart : String := "postgresql"

/-- Reads the URL of the database.  It is a secret, so a fault tells no more about a
value than that it is no text. -/
def readUrl : Decoder String := fun value =>
  match Decoder.text value with
  | .invalid _ => .fault .notText
  | .valid url =>
    if urlStart.toList.isPrefixOf url.toList then .valid url
    else .fault (.broken .databaseUrl)

def read : Decoder Settings :=
  Decoder.record fun entries =>
    mk <$> Decoder.required ["database_url"] readUrl entries
      <*> Decoder.withDefault ["echo"] false Decoder.flag entries
      <*> Decoder.withDefault ["pool_size"] 5 Decoder.positive entries
      <*> Decoder.withDefault ["max_overflow"] 10 Decoder.natural entries
      <*> Decoder.withDefault ["metadata_schema"] Registry.standardSchema Decoder.text entries
      <*> Decoder.withDefault ["create_extension"] false Decoder.flag entries
      <*> Decoder.withDefault ["log"] {} LogSettings.read entries

def fillUrl (environment : Option String) (entries : Entries) : Entries :=
  let given := ((entries.lookup "database_url").getD .null).truthy
  match given, environment with
  | false, some url => if url.isEmpty then entries else insertEntry "database_url" (.text url) entries
  | _, _ => entries

def ofMapping (environment : Option String) (value : Value) : Except Failure Settings := do
  let pairs ← Failure.ofConversion value.toPairs
  Failure.ofChecked (read (.map (fillUrl environment (Value.textEntries pairs))))

/-- Settings from the text of a file.  A file that says nothing stands for an empty
mapping. -/
def ofFile (environment : Option String) (path text : String) : Except Failure Settings :=
  match Yaml.read text with
  | .error error => .error (.settingsText error)
  | .ok value =>
    if !value.truthy then ofMapping environment (.map [])
    else
      match value with
      | .map entries => ofMapping environment (.map entries)
      | _ => .error (.notSettings path)

def shownUrl (settings : Settings) : String :=
  if settings.databaseUrl.isEmpty then "" else "**********"

def connection (settings : Settings) : Except Failure Connection := do
  let url ← Failure.ofUrl (DatabaseUrl.readSupported (DatabaseUrl.withDriver settings.databaseUrl))
  return {
    url
    poolSize := settings.poolSize
    maxOverflow := settings.maxOverflow
    echo := settings.echo }

def connectionLog (settings : Settings) : List LogEntry := [.connecting settings.poolSize]

def registry (settings : Settings) : Registry :=
  { schema := settings.schema, createExtension := settings.createExtension }

end Settings

end TableSearch
