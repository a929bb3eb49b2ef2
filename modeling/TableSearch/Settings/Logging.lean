import TableSearch.Decoder
import TableSearch.Failure
import TableSearch.Text.UpperCase

/-!
# Log settings

The level from which on the logger reports, and the format of its reports.
Settings are applied to a logger one after the other: each sets the level, but
only the first format is attached.
-/

namespace TableSearch

inductive LevelName where
  | critical
  | fatal
  | error
  | warning
  | warn
  | info
  | debug
  | notSet
deriving DecidableEq, Repr

namespace LevelName

def all : List LevelName := [critical, fatal, error, warning, warn, info, debug, notSet]

def text : LevelName → String
  | critical => "CRITICAL"
  | fatal => "FATAL"
  | error => "ERROR"
  | warning => "WARNING"
  | warn => "WARN"
  | info => "INFO"
  | debug => "DEBUG"
  | notSet => "NOTSET"

def weight : LevelName → Nat
  | critical => 50
  | fatal => 50
  | error => 40
  | warning => 30
  | warn => 30
  | info => 20
  | debug => 10
  | notSet => 0

def ofName? (name : String) : Option LevelName := all.find? (·.text == raiseCase name)

def read : Decoder LevelName := fun value =>
  (Decoder.text value).andThen fun name =>
    Decoder.orFault (.broken (.knownLogLevel name)) (ofName? name)

end LevelName

structure LogSettings where
  level : LevelName := .warning
  format : String := "%(asctime)s [%(levelname)s] %(name)s: %(message)s"
deriving DecidableEq, Repr

namespace LogSettings

def read : Decoder LogSettings :=
  Decoder.record fun entries =>
    mk <$> Decoder.withDefault ["level"] ({} : LogSettings).level LevelName.read entries
      <*> Decoder.withDefault ["format"] ({} : LogSettings).format Decoder.text entries

def messageFormat : String := "%(message)s"

/-- The letters that end a field of a format, in either case. -/
def isConversion (c : Char) : Bool :=
  "diouxefgcrsa%".toList.contains c.toLower || ['ı', 'İ', 'ſ'].contains c

def skipWidth : List Char → List Char
  | '*' :: rest => rest
  | rest => rest.dropWhile fun c => (digitValue? c).isSome

/-- Whether a text begins with the flags, the width, the precision and the letter of
a field. -/
def isFieldEnd (cs : List Char) : Bool :=
  match skipWidth (cs.dropWhile fun c => ['#', '0', '+', ' ', '-'].contains c) with
  | '.' :: rest =>
    let behind := skipWidth rest
    behind.length < rest.length && behind.head?.any isConversion
  | rest => rest.head?.any isConversion

/-- Whether a text begins with a field: a name in parentheses behind a percent sign. -/
def beginsField : List Char → Bool
  | '%' :: '(' :: rest =>
    match rest.takeWhile isWordChar, rest.dropWhile isWordChar with
    | _ :: _, ')' :: rest => isFieldEnd rest
    | _, _ => false
  | _ => false

def hasField : List Char → Bool
  | [] => false
  | c :: rest => beginsField (c :: rest) || hasField rest

end LogSettings

/-- A logger: the weight from which on it reports, and the formats attached to it. -/
structure Logger where
  weight : Nat := 0
  formats : List String := []
deriving DecidableEq, Repr

namespace Logger

/-- Applies settings to a logger.  The level is set even when the format is refused. -/
def apply (settings : LogSettings) (logger : Logger) : Except Failure Unit × Logger :=
  let levelled := { logger with weight := settings.level.weight }
  let format := if settings.format.isEmpty then LogSettings.messageFormat else settings.format
  if !logger.formats.isEmpty then (.ok (), levelled)
  else if LogSettings.hasField format.toList then (.ok (), { levelled with formats := [format] })
  else (.error .logFormat, levelled)

end Logger

end TableSearch
