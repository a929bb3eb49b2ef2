import TableSearch.Binding
import TableSearch.Vector

/-!
# Search queries

A search query ranks by signals, filters, orders and limits.  A signal maps
fields to the vector or text to search for; its entry "weight" carries the
weight of the signal and is no field.
-/

namespace TableSearch

inductive QueryError where
  | noSignals
  | unsupportedInput (kindName : String)
  | severalSignals
  | severalVectors
  | vectorAndText
deriving DecidableEq, Repr

namespace QueryError

/-- The wording for a combination of rankings that one statement cannot give. -/
def fusion (kind : String) : String :=
  "pgvector does not support " ++ kind ++ " fusion. " ++
    "Use a single vector signal, or run multiple queries and fuse client-side."

def message : QueryError → String
  | noSignals => "No ranking signals provided"
  | unsupportedInput kindName => "Unsupported query input type: " ++ kindName
  | severalSignals => fusion "multi-signal"
  | severalVectors => fusion "multi-vector"
  | vectorAndText => fusion "hybrid (vector + text)"

end QueryError

abbrev Signal := Entries

namespace Signal

def weightKey : String := "weight"

def fields (signal : Signal) : Entries := signal.filter (·.1 != weightKey)

def vectors (signal : Signal) : Entries := signal.fields.filter (·.2.isVector)

def texts (signal : Signal) : Entries := signal.fields.filter (·.2.isText)

/-- The first field among the signals that is given a vector.  The signals are gone through one
after the other, and each of them entry by entry. -/
def findVector? : List Signal → Option (String × Value)
  | [] => none
  | signal :: rest =>
    match signal.find? fun entry => entry.1 != weightKey && entry.2.isVector with
    | some entry => some entry
    | none => findVector? rest

/-- The numbers of the vectors and of the texts in a signal, counted entry by entry. -/
def countInputs : Signal → Nat × Nat
  | [] => (0, 0)
  | (field, value) :: rest =>
    let (vectors, texts) := countInputs rest
    if field = weightKey then (vectors, texts)
    else if value.isVector then (vectors + 1, texts)
    else if value.isText then (vectors, texts + 1)
    else (vectors, texts)

/-- Refuses signals whose scores would have to be fused: more than one signal, and
in a single one more than one vector, or a vector beside a text. -/
def check : List Signal → Except QueryError Unit
  | [] => .ok ()
  | [signal] =>
    let (vectors, texts) := countInputs signal
    if vectors > 1 then .error .severalVectors
    else if vectors > 0 && texts > 0 then .error .vectorAndText
    else .ok ()
  | _ => .error .severalSignals

/-- Whether the signals rank by texts only, which a search disregards. -/
def areTexts : List Signal → Bool
  | [signal] =>
    let (vectors, texts) := countInputs signal
    vectors == 0 && texts > 0
  | _ => false

end Signal

structure OrderBy where
  field : String
  descending : Bool := true
deriving DecidableEq, Repr

namespace OrderBy

def directionName (descending : Bool) : String := if descending then "desc" else "asc"

def readDirection : Decoder Bool :=
  Decoder.textAmong .notChoice fun s => [true, false].find? (directionName · == s)

def read : Decoder OrderBy :=
  Decoder.record fun entries =>
    mk <$> Decoder.required ["field"] Decoder.text entries
      <*> Decoder.withDefault ["direction"] true readDirection entries

end OrderBy

structure SearchQuery where
  /-- Signals whose scores are summed. -/
  query : Option (List Signal) := none
  /-- Signals of which the best score counts; they are used when `query` is absent. -/
  max : Option (List Signal) := none
  filter : Option Entries := none
  orderBy : Option OrderBy := none
  topK : Option Nat := none
  offset : Option Nat := none
  minScore : Option Binary64 := none
  included : Option Include := none

namespace SearchQuery

def signals (q : SearchQuery) : List Signal :=
  match q.query with
  | some signals => signals
  | none => q.max.getD []

/-- The names under which the two alternatives of `include` report their faults. -/
def namesAlternative : String := "list[str]"

def flagAlternative : String := "bool"

def readInclude : Decoder Include := fun value =>
  ((Include.named <$> Decoder.listOf Decoder.text value).within (.key namesAlternative)).orElse
    ((Include.every <$> Decoder.flag value).within (.key flagAlternative))

def read : Decoder SearchQuery :=
  Decoder.record fun entries =>
    let field {α : Type} (names : List String) (decode : Decoder α) : Checked (Option α) :=
      Decoder.withDefault names none (Decoder.optional decode) entries
    mk <$> field ["query"] (Decoder.listOf Decoder.entries)
      <*> field ["max"] (Decoder.listOf Decoder.entries)
      <*> field ["filter"] Decoder.entries
      <*> field ["orderBy", "order_by"] OrderBy.read
      <*> field ["topK", "top_k"] Decoder.natural
      <*> field ["offset"] Decoder.natural
      <*> field ["minScore", "min_score"] Decoder.number
      <*> field ["include"] readInclude

def requireSignals (q : SearchQuery) : Except QueryError SearchQuery :=
  if (q.query.any List.isEmpty) || (q.max.any List.isEmpty) then .error .noSignals else .ok q

end SearchQuery

end TableSearch
