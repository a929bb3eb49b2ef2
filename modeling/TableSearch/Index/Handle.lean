import TableSearch.Index.Hit
import TableSearch.Query.Search
import TableSearch.Query.Shape

/-!
# Working with the documents of an index

A handle queries and changes the documents of one index.  It asks for the
binding of its index anew with every operation, so that it follows later changes;
an index without a binding is found by convention.
-/

namespace TableSearch

open Sql Operation

structure Handle (σ : Type) where
  indexId : String
  /-- Initializes the owner of the handle, and looks up the binding of the index. -/
  resolve : Operation σ (Option Binding)

/-- How many documents were written, and how many of them are new. -/
structure UpsertResult where
  count : Nat := 0
  inserted : Nat := 0
deriving DecidableEq, Repr

def UpsertResult.updated (result : UpsertResult) : Nat := result.count - result.inserted

namespace Sql.Cell

/-- The cell of a field.  The type of a bound field decides on the form of its
value; an unbound field takes the form of a vector if it has one. -/
def ofField (binding : Binding) (field : String) (value : Value) : Except ConversionError Cell :=
  let vector : Except ConversionError Cell := do
    return { value := .text (← Vector.encode value), cast := some .vector }
  let plain : Except ConversionError Cell := .ok { value }
  match value with
  | .null => plain
  | _ =>
    match binding.field? field with
    | none => if value.isVector then vector else plain
    | some bound =>
      if bound.isVector then vector
      else if bound.isObject then do
        return { value := .text (← Json.write Json.documentStyle value), cast := some .json }
      else plain

end Sql.Cell

namespace Document

def key (subject : Subject) (field : String) (document : Value) : Except Failure String := do
  let entries ← Failure.ofConversion document.toEntries
  match entries.lookup field with
  | some (.text key) => .ok key
  | _ => .error (.keyMissing subject field)

/-- The names of all fields of several documents but that of the key, each once and
in the order of their first occurrence. -/
def fieldNames (keyField : String) (documents : List Value) :
    Except ConversionError (List String) := do
  let members := (← documents.mapM Value.toList).flatten
  if members.all Value.isKey then
    let names := members.filterMap fun member =>
      match member with
      | .text name => some name
      | _ => none
    return (names.filter (· != keyField)).eraseDups
  else .error .wrongKind

def row (binding : Binding) (fields : List String) (document : Value) :
    Except Failure (List Cell) := do
  let key ← key .document binding.keyField document
  let entries ← Failure.ofConversion document.toEntries
  let cells ← Failure.ofConversion <| fields.mapM fun field =>
    Cell.ofField binding field ((entries.lookup field).getD .null)
  return { value := .text key } :: cells

def upsert (binding : Binding) (documents : List Value) : Except Failure Statement := do
  let fields ← Failure.ofConversion (fieldNames binding.keyField documents)
  let rows ← documents.mapM (row binding fields)
  return .upsert binding.tableName binding.keyColumn (fields.map binding.columnFor) rows

/-- The changes that a patch makes: all its entries but those of the key. -/
def changes (binding : Binding) (entries : Entries) : Except ConversionError (List (String × Cell)) :=
  (entries.filter fun entry => entry.1 != binding.keyField && entry.1 != binding.keyColumn).mapM
    fun (field, value) => do return (binding.columnFor field, ← Cell.ofField binding field value)

/-- The statement that applies a patch, unless the patch changes nothing. -/
def patch (binding : Binding) (patch : Value) : Except Failure (Option Statement) := do
  let key ← key .patch binding.keyField patch
  let entries ← Failure.ofConversion patch.toEntries
  match ← Failure.ofConversion (changes binding entries) with
  | [] => return none
  | changes => return some (.update binding.tableName binding.keyColumn changes key)

end Document

namespace Handle

variable {σ : Type} [World σ]

def binding (handle : Handle σ) : Operation σ Binding := do
  return (← handle.resolve).getD (.byConvention handle.indexId)

def query (handle : Handle σ) (input : QueryInput) : Operation σ (List Hit) := do
  let q ← ofExcept (SearchQuery.normalize input)
  let binding ← handle.binding
  if Signal.areTexts q.signals then log .ignoredTexts
  let search ← ofExcept (Search.ofBinding q binding)
  let clause ← ofConversion search.clause
  let outcome ← run (.search clause)
  let hits ← ofConversion <| outcome.rows.mapM fun row =>
    Hit.ofRow row handle.indexId (some binding) q.included
  return match q.minScore with
    | none => hits
    | some least => hits.filter fun hit => least.le hit.score

/-- Writes documents: new ones are inserted, the others updated. -/
def upsert (handle : Handle σ) (input : Value) : Operation σ UpsertResult := do
  match ← ofConversion input.toThings with
  | [] => return {}
  | documents =>
    let binding ← handle.binding
    let statement ← ofExcept (Document.upsert binding documents)
    let outcome ← run statement
    let marks ← ofConversion (outcome.rows.mapM (·.column "inserted"))
    let count := marks.length
    let inserted := (marks.filter Value.truthy).length
    log (.upserted count handle.indexId inserted)
    return { count, inserted }

/-- Applies patches one after the other, and counts the changed rows. -/
def applyPatches (binding : Binding) : List Value → Operation σ Int
  | [] => return 0
  | patch :: rest => do
    match ← ofExcept (Document.patch binding patch) with
    | none => applyPatches binding rest
    | some statement =>
      let outcome ← run statement
      return outcome.affected + (← applyPatches binding rest)

def patch (handle : Handle σ) (input : Value) : Operation σ Int := do
  match ← ofConversion input.toThings with
  | [] => return 0
  | patches =>
    let binding ← handle.binding
    let _ ← ofExcept (patches.mapM (Document.key .patch binding.keyField))
    applyPatches binding patches

def delete (handle : Handle σ) (input : Value) : Operation σ Int := do
  match ← ofConversion input.toThings with
  | [] => return 0
  | keys =>
    let binding ← handle.binding
    let outcome ← run (.delete binding.tableName binding.keyColumn keys)
    log (.deleted outcome.affected handle.indexId)
    return outcome.affected

end Handle

end TableSearch
