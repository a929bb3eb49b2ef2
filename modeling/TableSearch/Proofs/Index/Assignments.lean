import TableSearch.Proofs.Index.Plans
import TableSearch.Proofs.Index.RoundTrip
import TableSearch.Proofs.Sql.QuotedNames

/-!
# Assigned columns

A document is written by an upsert or by a patch.  Both leave out the field of the primary key,
and assign every other field to the column that its name means.  A patch also leaves out a field
that is named like the key column; an upsert does not, and neither of the two looks at the column
that a name means.  So they agree as long as no other field bears the name of the key column or
means it.
-/

namespace TableSearch

open Sql Operation

/-! ## Assignments -/

/-- A column, as it stands in a statement, with the value that is bound to it and its cast. -/
structure Sql.Assignment where
  column : String
  value : Value
  cast : Option Cast

namespace Sql

def Assignment.ofCell (column : String) (cell : Cell) : Assignment :=
  ⟨quoteName column, cell.value, cell.cast⟩

/-- What a statement assigns to the columns of one row, besides its key. -/
def Statement.assignments : Statement → List Assignment
  | .upsert _ _ columns [_ :: cells] => columns.zipWith .ofCell cells
  | .update _ _ changes _ => changes.map fun (column, cell) => .ofCell column cell
  | _ => []

end Sql

def Binding.assignment (binding : Binding) (entry : String × Value) :
    Except ConversionError Assignment := do
  return .ofCell (binding.columnFor entry.1) (← Cell.ofField binding entry.1 entry.2)

namespace Document

variable {binding : Binding} {entries : Entries} {key : String}

theorem toEntries_eq_ok {document : Value} :
    document.toEntries = .ok entries ↔ document = .map entries := by
  cases document <;> simp [Value.toEntries]

theorem key_eq_ok {subject : Subject} {field : String} {document : Value} :
    Document.key subject field document = .ok key ↔
      ∃ entries, document = .map entries ∧ entries.lookup field = some (.text key) := by
  simp only [Document.key, bind_eq_ok, Failure.ofConversion, mapError_eq_ok, toEntries_eq_ok]
  refine exists_congr fun entries => and_congr_right fun _ => ⟨fun found => ?_, fun found => ?_⟩
  · split at found
    next same =>
      cases found
      exact same
    next => cases found
  · rw [found]

def others (binding : Binding) (entries : Entries) : Entries :=
  entries.filter fun entry => entry.1 != binding.keyField

def changed (binding : Binding) (entries : Entries) : Entries :=
  entries.filter fun entry => entry.1 != binding.keyField && entry.1 != binding.keyColumn

theorem changed_eq_filter :
    changed binding entries = (others binding entries).filter (·.1 != binding.keyColumn) := by
  rw [changed, others, List.filter_filter]
  simp only [Bool.and_comm]

theorem eraseDups_eq_self {names : List String} (distinct : names.Nodup) :
    names.eraseDups = names := by
  induction names with
  | nil => rfl
  | cons name names ih =>
    obtain ⟨new, rest⟩ := List.nodup_cons.mp distinct
    have kept : names.filter (fun other => !other == name) = names :=
      List.filter_eq_self.mpr fun other mem => by
        simpa using fun same : other = name => new (same ▸ mem)
    rw [List.eraseDups_cons, kept, ih rest]

def keysOf (batch : List Entries) : List String := batch.flatMap fun entries => entries.map (·.1)

/-- The fields of documents are their keys, each at its first occurrence. -/
theorem fieldNames_map (keyField : String) (batch : List Entries) :
    fieldNames keyField (batch.map .map) =
      .ok ((keysOf batch).filter (· != keyField)).eraseDups := by
  have listed : (batch.map Value.map).mapM Value.toList =
      .ok (batch.map fun entries => entries.map fun entry => Value.text entry.1) :=
    mapM_map_eq_ok (fun _ => by rfl) batch
  have members : (batch.map fun entries => entries.map fun entry => Value.text entry.1).flatten =
      (keysOf batch).map .text := by
    simp [keysOf, List.flatMap_def, List.map_flatten, Function.comp_def]
  have keys : ((keysOf batch).map Value.text).all Value.isKey = true := by
    rw [List.all_map, List.all_eq_true]
    exact fun _ _ => rfl
  rw [fieldNames, listed]
  change (if (List.flatten _).all Value.isKey then _ else _) = _
  rw [members, if_pos keys, List.filterMap_map]
  change Except.ok (((keysOf batch).filterMap some).filter (· != keyField)).eraseDups = _
  rw [List.filterMap_some]

theorem fieldNames_singleton (distinct : (entries.map (·.1)).Nodup) :
    fieldNames binding.keyField [.map entries] = .ok ((others binding entries).map (·.1)) := by
  have own : keysOf [entries] = entries.map (·.1) := List.flatMap_singleton ..
  have fields := fieldNames_map binding.keyField [entries]
  rw [own, eraseDups_eq_self (distinct.filter _), List.filter_map] at fields
  exact fields

/-- Every entry of a document but that of the key can be written to its column. -/
def Encodable (binding : Binding) (entries : Entries) : Prop :=
  ∀ entry ∈ entries, entry.1 ≠ binding.keyField →
    ∃ cell, Cell.ofField binding entry.1 entry.2 = .ok cell

theorem zipWith_assignments {rest : Entries} {cells : List Cell}
    (encoded : List.Forall₂ (fun entry cell => Cell.ofField binding entry.1 entry.2 = .ok cell)
      rest cells) :
    rest.mapM binding.assignment =
      .ok ((rest.map fun entry => binding.columnFor entry.1).zipWith .ofCell cells) := by
  rw [mapM_eq_ok]
  induction encoded with
  | nil => exact .nil
  | cons first _ ih =>
    refine .cons ?_ ih
    rw [Binding.assignment, first]
    rfl

/-- One document is written by a statement that assigns all its fields besides the key. -/
theorem exists_upsert (distinct : (entries.map (·.1)).Nodup)
    (keyed : entries.lookup binding.keyField = some (.text key))
    (encodable : Encodable binding entries) :
    ∃ statement, upsert binding [.map entries] = .ok statement ∧
      (others binding entries).mapM binding.assignment = .ok statement.assignments := by
  have each (entry : String × Value) (mem : entry ∈ others binding entries) :
      ∃ cell, Cell.ofField binding entry.1 entry.2 = .ok cell :=
    encodable entry (List.mem_filter.mp mem).1 (bne_iff_ne.mp (List.mem_filter.mp mem).2)
  obtain ⟨cells, encoded⟩ := exists_forall₂ each
  -- A row looks its values up by name, and in a document without repeated names finds its own.
  have written : ((others binding entries).map (·.1)).mapM (fun field =>
      Cell.ofField binding field ((entries.lookup field).getD .null)) = .ok cells := by
    have found : ∀ entry ∈ others binding entries, entries.lookup entry.1 = some entry.2 :=
      fun entry mem => lookup_of_mem distinct (List.mem_filter.mp mem).1
    rw [mapM_eq_ok, List.forall₂_map_left_iff]
    refine ((List.forall₂_and_left _ _).mpr ⟨found, encoded⟩).imp fun entry cell both => ?_
    rw [both.1]
    exact both.2
  have named : Document.key .document binding.keyField (.map entries) = .ok key :=
    key_eq_ok.mpr ⟨entries, rfl, keyed⟩
  refine ⟨.upsert binding.tableName binding.keyColumn _ [{ value := .text key } :: cells], ?_,
    zipWith_assignments encoded⟩
  have rowed : row binding ((others binding entries).map (·.1)) (.map entries) =
      .ok ({ value := .text key } :: cells) := by
    simp only [row, bind_eq_ok, pure_eq_ok, Failure.ofConversion, mapError_eq_ok]
    exact ⟨key, named, entries, rfl, cells, written, rfl⟩
  simp only [upsert, bind_eq_ok, pure_eq_ok, Failure.ofConversion, mapError_eq_ok]
  refine ⟨_, fieldNames_singleton distinct, _, mapM_eq_ok.mpr (.cons rowed .nil), ?_⟩
  rw [List.map_map]
  rfl

/-- A change sets the column of its entry to the encoded value. -/
theorem changes_eq_ok {changes : List (String × Cell)} :
    Document.changes binding entries = .ok changes ↔
      List.Forall₂ (fun entry change => change.1 = binding.columnFor entry.1 ∧
        Cell.ofField binding entry.1 entry.2 = .ok change.2) (changed binding entries) changes := by
  rw [Document.changes, mapM_eq_ok]
  constructor
  · refine fun made => made.imp fun entry change own => ?_
    simp only [bind_eq_ok, pure_eq_ok] at own
    obtain ⟨cell, encoded, rfl⟩ := own
    exact ⟨rfl, encoded⟩
  · refine fun made => made.imp ?_
    rintro entry ⟨_, cell⟩ ⟨rfl, encoded⟩
    exact bind_eq_ok.mpr ⟨cell, encoded, rfl⟩

/-- A patch with its key is written by a statement that makes its changes, unless it makes none. -/
theorem patch_of_changes {changes : List (String × Cell)}
    (keyed : entries.lookup binding.keyField = some (.text key))
    (made : Document.changes binding entries = .ok changes) :
    patch binding (.map entries) = .ok (match changes with
      | [] => none
      | changes => some (.update binding.tableName binding.keyColumn changes key)) := by
  have named : Document.key .patch binding.keyField (.map entries) = .ok key :=
    key_eq_ok.mpr ⟨entries, rfl, keyed⟩
  simp only [patch, bind_eq_ok, Failure.ofConversion, mapError_eq_ok]
  refine ⟨key, named, entries, rfl, changes, made, ?_⟩
  cases changes <;> rfl

/-- What a patch with its key assigns are all its changes. -/
theorem exists_patch (keyed : entries.lookup binding.keyField = some (.text key))
    (encodable : Encodable binding entries) :
    ∃ change, patch binding (.map entries) = .ok change ∧
      (changed binding entries).mapM binding.assignment =
        .ok (change.toList.flatMap Statement.assignments) := by
  obtain ⟨changes, made⟩ : ∃ changes, Document.changes binding entries = .ok changes := by
    simp only [changes_eq_ok]
    refine exists_forall₂ fun entry mem => ?_
    obtain ⟨inside, other⟩ := List.mem_filter.mp mem
    obtain ⟨cell, encoded⟩ :=
      encodable entry inside (bne_iff_ne.mp (Bool.and_eq_true_iff.mp other).1)
    exact ⟨(binding.columnFor entry.1, cell), rfl, encoded⟩
  have assigned : (changed binding entries).mapM binding.assignment =
      .ok (changes.map fun (column, cell) => .ofCell column cell) := by
    rw [mapM_eq_ok, List.forall₂_map_right_iff]
    refine (changes_eq_ok.mp made).imp ?_
    rintro entry ⟨_, cell⟩ ⟨rfl, encoded⟩
    rw [Binding.assignment, encoded]
    rfl
  have written := patch_of_changes keyed made
  -- Without changes there is no statement, and then nothing is assigned either.
  cases changes with
  | nil => exact ⟨none, written, assigned⟩
  | cons change rest =>
    refine ⟨some (.update _ _ (change :: rest) key), written, ?_⟩
    rw [assigned, Option.toList_some, List.flatMap_singleton]
    rfl

theorem columns_of_assignments {rest : Entries} {assignments : List Assignment}
    (assigned : rest.mapM binding.assignment = .ok assignments) :
    assignments.map (·.column) = rest.map fun entry => quoteName (binding.columnFor entry.1) := by
  rw [mapM_eq_ok] at assigned
  induction assigned with
  | nil => rfl
  | cons first _ ih =>
    simp only [Binding.assignment, bind_eq_ok, pure_eq_ok] at first
    obtain ⟨cell, -, rfl⟩ := first
    rw [List.map_cons, List.map_cons, ih]
    rfl

/-- The assignments to all entries besides the key are those that become changes, and leave the
key column alone, exactly if no name crosses that of the key column. -/
theorem assignments_eq_iff {inserted updated : List Assignment}
    (all : (others binding entries).mapM binding.assignment = .ok inserted)
    (some : (changed binding entries).mapM binding.assignment = .ok updated) :
    (inserted = updated ∧ quoteName binding.keyColumn ∉ inserted.map (·.column)) ↔
      ∀ entry ∈ entries, entry.1 ≠ binding.keyField →
        entry.1 ≠ binding.keyColumn ∧ binding.columnFor entry.1 ≠ binding.keyColumn := by
  have isOther {entry : String × Value} : entry ∈ others binding entries ↔
      entry ∈ entries ∧ entry.1 ≠ binding.keyField := by
    rw [others, List.mem_filter, bne_iff_ne]
  rw [columns_of_assignments all]
  rw [changed_eq_filter] at some
  constructor
  · rintro ⟨rfl, keyless⟩ entry mem other
    have inside := isOther.mpr ⟨mem, other⟩
    -- Both lists are of the same length, so nothing was filtered out.
    have whole : ((others binding entries).filter (·.1 != binding.keyColumn)).length =
        (others binding entries).length :=
      (mapM_eq_ok.mp some).length_eq.trans (mapM_eq_ok.mp all).length_eq.symm
    have kept := List.length_filter_eq_length_iff.mp whole entry inside
    refine ⟨bne_iff_ne.mp kept, fun same => keyless ?_⟩
    exact List.mem_map.mpr ⟨entry, inside, congrArg quoteName same⟩
  · intro apart
    have whole : (others binding entries).filter (·.1 != binding.keyColumn) =
        others binding entries :=
      List.filter_eq_self.mpr fun entry mem =>
        bne_iff_ne.mpr (apart entry (isOther.mp mem).1 (isOther.mp mem).2).1
    rw [whole] at some
    refine ⟨Except.ok.inj (all.symm.trans some), fun assigned => ?_⟩
    obtain ⟨entry, mem, same⟩ := List.mem_map.mp assigned
    exact (apart entry (isOther.mp mem).1 (isOther.mp mem).2).2 (quoteName_injective same)

end Document

namespace Handle

variable {σ : Type} [World σ]

/-- Let a document, or a patch, be written whose key is a text and whose other values can be
stored.  The upsert assigns each entry but that of the key field to the column that its name means.
The patch assigns the same entries, except one that is named like the key column.  So both make the
same assignments, and none to the key column, exactly if no entry but that of the key field is named
like the key column or means it. -/
theorem writes_alike_iff {handle : Handle σ} {binding : Binding} {session middle : Session σ}
    {entries : Entries} {key : String}
    (found : perform handle.binding session = (.ok binding, middle))
    (distinct : (entries.map (·.1)).Nodup)
    (keyed : entries.lookup binding.keyField = some (.text key))
    (encodable : Document.Encodable binding entries) :
    ∃ upserts patches : List Statement,
      Records (upserts.map .statement) middle (perform (handle.upsert (.map entries)) session).2 ∧
      Records (patches.map .statement) middle (perform (handle.patch (.map entries)) session).2 ∧
      (Document.others binding entries).mapM binding.assignment =
        .ok (upserts.flatMap Statement.assignments) ∧
      (Document.changed binding entries).mapM binding.assignment =
        .ok (patches.flatMap Statement.assignments) ∧
      ((upserts.flatMap Statement.assignments = patches.flatMap Statement.assignments ∧
          quoteName binding.keyColumn ∉
            (upserts.flatMap Statement.assignments).map (·.column)) ↔
        ∀ entry ∈ entries, entry.1 ≠ binding.keyField →
          entry.1 ≠ binding.keyColumn ∧ binding.columnFor entry.1 ≠ binding.keyColumn) := by
  obtain ⟨statement, written, inserted⟩ := Document.exists_upsert distinct keyed encodable
  obtain ⟨change, patched, updated⟩ := Document.exists_patch keyed encodable
  have named : [Value.map entries].mapM (Document.key .patch binding.keyField) = .ok [key] :=
    mapM_eq_ok.mpr (.cons (Document.key_eq_ok.mpr ⟨entries, rfl, keyed⟩) .nil)
  have one : (Value.map entries).toThings = .ok [.map entries] := rfl
  -- Both calls run the plan of their statements from where the binding was found.
  have upserted := (done_documents found one (List.cons_ne_nil _ _)).records
  have applied := (done_patches found one (List.cons_ne_nil _ _)).records
  rw [Plan.ofDocuments, written, Plan.after, issued_singleton] at upserted
  rw [Plan.ofPatches, named, Plan.after, Plan.ofChanges, patched, Plan.after] at applied
  have whole : [statement].flatMap Statement.assignments = statement.assignments :=
    List.flatMap_singleton ..
  refine ⟨[statement], change.toList, upserted, ?_, whole ▸ inserted, updated, ?_⟩
  · cases change with
    | none => exact applied
    | some update =>
      rw [Plan.ofChanges, issued_singleton] at applied
      exact applied
  · rw [whole]
    exact Document.assignments_eq_iff inserted updated

/-- For example, a document is written alike whose fields are stored under other names. -/
theorem writes_alike_renamed_fields :
    let binding : Binding :=
      { table := "articles", keyColumn := "article_id"
        fields := [("id", { column := "article_id" }), ("body", { column := "content" }),
          ("embedding", { column := "vec", type := "vector" })] }
    let handle : Handle Script := { indexId := "articles", resolve := pure (some binding) }
    let entries : Entries :=
      [("body", .text "t"), ("id", .text "a"), ("embedding", .list []), ("year", .null)]
    ∃ upserts patches : List Statement,
      Records (upserts.map .statement) { world := {} }
        (perform (handle.upsert (.map entries)) { world := {} }).2 ∧
      Records (patches.map .statement) { world := {} }
        (perform (handle.patch (.map entries)) { world := {} }).2 ∧
      upserts.flatMap Statement.assignments = patches.flatMap Statement.assignments ∧
      (patches.flatMap Statement.assignments).map (·.column) =
        ["\"content\"", "\"vec\"", "\"year\""] := by
  intro binding handle entries
  have encodable : Document.Encodable binding entries := by
    unfold Document.Encodable
    simp only [entries, List.forall_mem_cons, List.not_mem_nil, IsEmpty.forall_iff, implies_true,
      and_true]
    exact ⟨fun _ => ⟨_, rfl⟩, fun _ => ⟨_, rfl⟩, fun _ => ⟨_, rfl⟩, fun _ => ⟨_, rfl⟩⟩
  obtain ⟨upserts, patches, upserted, patched, -, updated, alike⟩ :=
    writes_alike_iff (rfl : perform handle.binding { world := {} } = (.ok binding, { world := {} }))
      (by decide) (rfl : entries.lookup binding.keyField = some (.text "a")) encodable
  obtain ⟨same, -⟩ := alike.mpr (by decide)
  exact ⟨upserts, patches, upserted, patched, same,
    (Document.columns_of_assignments updated).trans (by decide +kernel)⟩

/-- A patch drops a field that is named like the key column, although it is stored in a column of
its own and an upsert writes it. -/
theorem crossed_names_written_apart :
    let binding : Binding :=
      { table := "docs", keyColumn := "id"
        fields := [("doc_id", { column := "id" }), ("id", { column := "ext_id" })] }
    let handle : Handle Script := { indexId := "docs", resolve := pure (some binding) }
    let document : Value := .map [("doc_id", .text "a"), ("id", .text "x"), ("title", .text "t")]
    ∃ upsert patch : Statement,
      (perform (handle.upsert document) { world := {} }).2.events = [.statement upsert] ∧
      (perform (handle.patch document) { world := {} }).2.events = [.statement patch] ∧
      binding.keyField = "doc_id" ∧ binding.columnFor "id" ≠ binding.keyColumn ∧
      upsert.assignments = [⟨"\"ext_id\"", .text "x", none⟩, ⟨"\"title\"", .text "t", none⟩] ∧
      patch.assignments = [⟨"\"title\"", .text "t", none⟩] ∧
      upsert.assignments ≠ patch.assignments := by
  refine ⟨.upsert ⟨"public", "docs"⟩ "id" ["ext_id", "title"]
    [[{ value := .text "a" }, { value := .text "x" }, { value := .text "t" }]],
    .update ⟨"public", "docs"⟩ "id" [("title", { value := .text "t" })] "a",
    rfl, rfl, rfl, by decide, rfl, rfl, fun same => ?_⟩
  cases congrArg List.length same

end Handle

end TableSearch
