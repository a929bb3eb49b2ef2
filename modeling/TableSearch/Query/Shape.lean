import TableSearch.Failure
import TableSearch.Value.Display
import TableSearch.Value.Pairs

/-!
# The shapes of a query

A query may be given as a single signal, as a list of signals or as a mapping of
options.  A mapping counts as one of options as soon as it has one of the option
keys; otherwise it is a signal.  `SearchQuery.ofValue` brings every shape to the
same form.
-/

namespace TableSearch

inductive QueryShape where
  /-- A mapping of fields to what to search for. -/
  | signal (entries : Entries)
  /-- Several signals. -/
  | signals (items : List Value)
  /-- A mapping of options. -/
  | options (entries : Entries)
  /-- A value that is no query. -/
  | unsupported (kindName : String)

namespace QueryShape

def optionKeys : List String :=
  ["query", "max", "filter", "orderBy", "order_by", "topK", "top_k"]

def ofValue : Value → QueryShape
  | .map entries =>
    if optionKeys.any (hasEntry · entries) then options entries else signal entries
  | .list items => signals items
  | .tuple items => signals items
  | .bytes bs => signals (bs.map fun b => .int b.toNat)
  | other => unsupported other.kindName

end QueryShape

namespace Signal

def keyStep (key : Value) : Step :=
  match key with
  | .text s => .key s
  | .bool b => .index b.toNat
  | .int n => if -9223372036854775808 ≤ n ∧ n < 9223372036854775808 then .index n else .key key.literal
  | _ => .key key.literal

def keyMark : Step := .key "[key]"

def ofPairs (pairs : List (Value × Value)) : Checked Signal :=
  (fun entries => entries.foldl (fun signal (key, value) => insertEntry key value signal) []) <$>
    Checked.each
      (fun _ (key, value) =>
        (((·, value) <$> Decoder.text key).within keyMark).within (keyStep key)) 0 pairs

end Signal

namespace SearchQuery

def ofSignals (items : List Value) : Except Failure SearchQuery := do
  let signals ← Failure.ofConversion (items.mapM Value.toPairs)
  Failure.ofChecked <|
    (fun signals => { query := some signals }) <$>
      (Checked.each (fun i pairs => (Signal.ofPairs pairs).within (.index i)) 0 signals).within
        (.key "query")

def ofValue (value : Value) : Except Failure SearchQuery :=
  match QueryShape.ofValue value with
  | .signal entries => .ok { query := some [entries] }
  | .signals [] => .error (.query .noSignals)
  | .signals items => ofSignals items
  | .options entries => do
    let q ← Failure.ofChecked (read (.map entries))
    Failure.ofQuery q.requireSignals
  | .unsupported kindName => .error (.query (.unsupportedInput kindName))

end SearchQuery

/-- What a search is asked for: a value that stands for a query, or the query itself. -/
inductive QueryInput where
  | value (value : Value)
  | query (q : SearchQuery)

instance : Coe Value QueryInput := ⟨.value⟩

/-- The query that is asked for.  One that is given itself stays as it is. -/
def SearchQuery.normalize : QueryInput → Except Failure SearchQuery
  | .value value => ofValue value
  | .query q => Failure.ofQuery q.requireSignals

end TableSearch
