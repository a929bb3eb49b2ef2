import TableSearch.Proofs.Index.Creation
import TableSearch.Proofs.Index.Storing
import TableSearch.Proofs.Query.ResultRows
import TableSearch.Session.Script

/-!
# Documents are read back

A document that is written to a created index, stored, and found by a search comes back
with the projected fields and with their values.  The way goes over the row of cells that
an upsert makes, over the row of values that the database keeps, and over the columns that
the search selects; each field is in one column all along.
-/

namespace TableSearch

open Sql Operation

/-! ## Written rows -/

/-- For each element on the left there is one at the same place on the right. -/
theorem exists_mem_zip {α β : Type} {R : α → β → Prop} {xs : List α} {ys : List β}
    (each : List.Forall₂ R xs ys) {x : α} (mem : x ∈ xs) : ∃ y, (x, y) ∈ xs.zip ys ∧ R x y := by
  induction each with
  | nil => cases mem
  | cons first _ ih =>
    rcases List.mem_cons.mp mem with same | inside
    · subst same
      exact ⟨_, List.mem_cons_self, first⟩
    · obtain ⟨y, found, related⟩ := ih inside
      exact ⟨y, List.mem_cons_of_mem _ found, related⟩

namespace Document

variable {binding : Binding} {documents : List Value} {entries : Entries}

/-- Every entry of a document has its field among those that are written, unless it is the
key. -/
theorem mem_fieldNames {keyField name : String} {names : List String}
    (found : fieldNames keyField documents = .ok names) (document : .map entries ∈ documents)
    (other : name ≠ keyField) (mem : name ∈ entries.map (·.1)) : name ∈ names := by
  simp only [fieldNames, bind_eq_ok] at found
  obtain ⟨members, listed, found⟩ := found
  split at found
  next =>
    obtain rfl := pure_eq_ok.mp found
    obtain ⟨items, inside, same⟩ := exists_mem_zip (mapM_eq_ok.mp listed) document
    cases same
    obtain ⟨entry, present, rfl⟩ := List.mem_map.mp mem
    refine List.mem_eraseDups.mpr (List.mem_filter.mpr ⟨?_, by simpa using other⟩)
    refine List.mem_filterMap.mpr ⟨.text entry.1, ?_, rfl⟩
    refine List.mem_flatten.mpr ⟨_, (List.of_mem_zip inside).2, ?_⟩
    exact List.mem_map.mpr ⟨entry, present, rfl⟩
  next => cases found

/-- A row has the key of its document, and then a cell for each field. -/
theorem row_eq_ok {names : List String} {cells : List Cell}
    (made : row binding names (.map entries) = .ok cells) :
    ∃ key rest, entries.lookup binding.keyField = some (.text key) ∧
      cells = { value := .text key } :: rest ∧
      List.Forall₂ (fun name cell =>
        Cell.ofField binding name ((entries.lookup name).getD .null) = .ok cell) names rest := by
  simp only [row, key, Value.toEntries, Failure.ofConversion, bind_eq_ok, pure_eq_ok,
    mapError_eq_ok, mapM_eq_ok, Except.ok.injEq] at made
  obtain ⟨key, ⟨_, rfl, found⟩, _, rfl, rest, encoded, rfl⟩ := made
  split at found
  next text same =>
    cases found
    exact ⟨_, rest, same, rfl, encoded⟩
  next => cases found

/-- The parts of a written statement, and the row of one of its documents. -/
theorem upsert_eq_ok {table : TableName} {keyColumn : String} {columns : List String}
    {rows : List (List Cell)} {cells : List Cell}
    (written : upsert binding documents = .ok (.upsert table keyColumn columns rows))
    (document : (.map entries, cells) ∈ documents.zip rows) :
    ∃ names, fieldNames binding.keyField documents = .ok names ∧
      keyColumn = binding.keyColumn ∧ columns = names.map binding.columnFor ∧
      row binding names (.map entries) = .ok cells := by
  simp only [upsert, Failure.ofConversion, bind_eq_ok, pure_eq_ok, mapError_eq_ok, mapM_eq_ok]
    at written
  obtain ⟨names, found, made, each, same⟩ := written
  cases same
  exact ⟨names, found, rfl, rfl, (List.forall₂_iff_zip.mp each).2 document⟩

end Document

/-! ## Stored rows -/

/-- What a stored row gives back in its columns: what was written there, and nothing in the
columns that were not written. -/
structure Stored (columns : List String) (cells : List Cell) (stored : String → Value) : Prop where
  written : ∀ entry ∈ columns.zip cells, Returns entry.2 (stored entry.1)
  absent : ∀ column, column ∉ columns → stored column = .null

/-- The score of a row: constant without a ranking, and otherwise a number or, if the vector
is not there, nothing. -/
inductive Scored : Option Ranking → Value → Prop where
  | constant : Scored none (.int 1)
  | distance (ranking : Ranking) (score : Binary64) : Scored (some ranking) (.real score)
  | missing (ranking : Ranking) : Scored (some ranking) .null

/-- A search of an index selects the columns of its binding. -/
theorem Search.ofBinding_eq_ok {q : SearchQuery} {binding : Binding} {search : Search}
    (accepted : ofBinding q binding = .ok search) :
    search.keyColumn = binding.keyColumn ∧ search.binding = some binding ∧
      search.included = q.included := by
  simp only [ofBinding, ofQuery, bind_eq_ok] at accepted
  obtain ⟨-, -, accepted⟩ := accepted
  split at accepted
  next =>
    cases accepted
    exact ⟨rfl, rfl, rfl⟩
  next =>
    simp only [bind_eq_ok, pure_eq_ok] at accepted
    obtain ⟨_, -, rfl⟩ := accepted
    exact ⟨rfl, rfl, rfl⟩

/-- A score is a number or counts as zero. -/
theorem Scored.scoreOf {ranking : Option Ranking} {score : Value} (scored : Scored ranking score)
    {row : Row} (found : row.lookup Binding.scoreName = some score) :
    ∃ x, Hit.scoreOf row = .ok x := by
  rw [Hit.scoreOf, found]
  cases scored with
  | constant => exact ⟨_, rfl⟩
  | distance => exact ⟨_, rfl⟩
  | missing => exact ⟨_, rfl⟩

/-! ## Documents -/

namespace Document

/-- Whether a hit has the document that was written, as far as it is projected: each of the
projected fields has one entry, whose value is that of the written document. -/
structure ReadBack (fields : IndexSchema) (projected : List String) (written : Entries)
    (document : Option Entries) : Prop where
  nothing : document = none ↔ projected = []
  distinct : ((document.getD []).map (·.1)).Nodup
  keys : ∀ name, name ∈ (document.getD []).map (·.1) ↔ name ∈ projected
  values : ∀ entry ∈ document.getD [], ∀ field, (entry.1, field) ∈ fields →
    field.Gives ((written.lookup entry.1).getD .null) entry.2

theorem readBack_of_entries {fields : IndexSchema} {projected : List String}
    {written document : Entries} (distinct : (document.map (·.1)).Nodup)
    (keys : ∀ name, name ∈ document.map (·.1) ↔ name ∈ projected)
    (values : ∀ entry ∈ document, ∀ field, (entry.1, field) ∈ fields →
      field.Gives ((written.lookup entry.1).getD .null) entry.2) :
    ReadBack fields projected written (if document.isEmpty then none else some document) := by
  cases document with
  | nil =>
    have none_projected : projected = [] :=
      List.eq_nil_iff_forall_not_mem.mpr fun name => (keys name).not.mp List.not_mem_nil
    exact ⟨iff_of_true rfl none_projected, distinct, keys, values⟩
  | cons entry rest =>
    have some_projected : projected ≠ [] :=
      List.ne_nil_of_mem ((keys entry.1).mp List.mem_cons_self)
    exact ⟨iff_of_false nofun some_projected, distinct, keys, values⟩

section Fields

variable {binding : Binding} {fields : IndexSchema} {documents : List Value} {entries : Entries}
  {names : List String} {cells : List Cell} {stored : String → Value}

/-- The column of a field gives back the cell of its value, or null like the cell of an
absent one. -/
theorem exists_cell (found : fieldNames binding.keyField documents = .ok names)
    (document : .map entries ∈ documents) (made : row binding names (.map entries) = .ok cells)
    (stores : Stored (binding.keyColumn :: names) cells stored) {name : String}
    (notKey : name ≠ binding.keyField) (notKeyColumn : name ≠ binding.keyColumn) :
    ∃ cell, Cell.ofField binding name ((entries.lookup name).getD .null) = .ok cell ∧
      Returns cell (stored name) := by
  obtain ⟨key, rest, -, rfl, encoded⟩ := row_eq_ok made
  -- A field that no document of the call has is not written, and its column holds null.
  by_cases written : name ∈ names
  · obtain ⟨cell, inside, encoded⟩ := exists_mem_zip encoded written
    exact ⟨cell, encoded, stores.written (name, cell) (List.mem_cons_of_mem _ inside)⟩
  · have absent : entries.lookup name = none := by
      rw [List.lookup_eq_none_iff]
      intro entry mem
      have other : name ≠ entry.1 := fun same =>
        written (mem_fieldNames found document notKey (List.mem_map.mpr ⟨entry, mem, same.symm⟩))
      exact bne_iff_ne.mpr other
    have null : stored name = .null :=
      stores.absent name (by simp [notKeyColumn, written])
    refine ⟨{ value := .null }, by rw [absent]; rfl, ?_⟩
    rw [null]
    exact .plain .null

theorem stored_key (made : row binding names (.map entries) = .ok cells)
    (stores : Stored (binding.keyColumn :: names) cells stored) :
    ∃ key, entries.lookup binding.keyField = some (.text key) ∧
      stored binding.keyColumn = .text key := by
  obtain ⟨key, rest, found, rfl, -⟩ := row_eq_ok made
  have returned := stores.written (binding.keyColumn, { value := .text key }) List.mem_cons_self
  generalize stored binding.keyColumn = value at returned ⊢
  cases returned
  exact ⟨key, found, rfl⟩

theorem gives_text {field : FieldSchema} {key : String} (fits : field.Fits (.text key)) :
    field.Gives (.text key) (.text key) := by
  cases field with
  | vector => rcases fits with absent | ⟨items, same⟩ <;> contradiction
  | scalar => exact .scalar (.text key)

/-- Every projected field is found in the selected row, with its value. -/
theorem exists_projectField (serves : binding.Serves fields)
    (found : fieldNames binding.keyField documents = .ok names)
    (document : .map entries ∈ documents) (made : row binding names (.map entries) = .ok cells)
    (fits : ∀ field ∈ fields, field.2.Fits ((entries.lookup field.1).getD .null))
    (stores : Stored (binding.keyColumn :: names) cells stored)
    {search : Search} {score : Value} {selection : Row}
    (selected : Selected search stored score selection)
    (keyColumn : search.keyColumn = binding.keyColumn) (bound : search.binding = some binding)
    {name : String} (projected : name ∈ binding.projectedFields search.included)
    (notScore : name ≠ Binding.scoreName)
    (onlyKey : name = Binding.idName → name = binding.keyColumn) :
    ∃ given, Hit.projectField binding selection name = .ok (some (name, given)) ∧
      ∀ field, (name, field) ∈ fields →
        field.Gives ((entries.lookup name).getD .null) given := by
  -- The key is taken from the row itself, any other field from the column with its name.
  by_cases isKey : name = binding.keyField
  · subst isKey
    obtain ⟨key, given, kept⟩ := stored_key made stores
    refine ⟨.text key, Hit.projectField_key ?_, fun field mem => ?_⟩
    · rw [selected.key, keyColumn, kept]
    · have fits := fits _ mem
      rw [given, Option.getD_some] at fits ⊢
      exact gives_text fits
  · have notKeyColumn : name ≠ binding.keyColumn := serves.key ▸ isKey
    obtain ⟨field, mem⟩ := serves.projected _ name projected
    have named := serves.field name field mem
    obtain ⟨cell, encoded, returns⟩ := exists_cell found document made stores isKey notKeyColumn
    obtain ⟨given, decoded, gives⟩ := decodeField_returns named encoded returns (fits _ mem)
    have inRow : selection.lookup name = some (stored name) := by
      refine selected.projected name ?_ (fun same => notKeyColumn (onlyKey same)) notScore
      rw [bound, Selection.projected]
      exact List.mem_map.mpr ⟨name, projected, serves.column name⟩
    refine ⟨given, ?_, fun other inside => ?_⟩
    · refine Hit.projectField_stored isKey named ?_ ?_ ?_ decoded
      all_goals rw [FieldBinding.column_ofSchema]
      · exact fun same => notKeyColumn (onlyKey same)
      · exact notScore
      · exact inRow
    · have here := lookup_of_mem serves.distinct inside
      have same := here.symm.trans (lookup_of_mem serves.distinct mem)
      rw [Option.some.inj same]
      exact gives

end Fields

variable {σ : Type} [World σ]

/-- A document that was written to a created index and stored is read back by every search
that selects its row, whatever fields it wants.  The row is the one that the statement of the
search yields. -/
theorem readBack_of_stored {registry : Registry} {indexId schemaName : String} {schema : Entries}
    {session after : Session σ} {fields : IndexSchema} {binding : Binding}
    (unrepeated : (schema.map (·.1)).Nodup)
    (created : perform (registry.createIndex indexId schemaName (.map schema)) session =
      (.ok (), after))
    (read : Registry.readSchema (.map schema) = .ok fields)
    (bound : after.bindings.lookup indexId = some binding)
    (noScore : ∀ field ∈ fields, field.1 ≠ Binding.scoreName)
    (onlyKey : ∀ field ∈ fields, field.1 = Binding.idName → field.2.isKey = true)
    {documents : List Value} {table : TableName} {keyColumn : String} {columns : List String}
    {rows : List (List Cell)} {entries : Entries} {cells : List Cell} {stored : String → Value}
    (written : upsert binding documents = .ok (.upsert table keyColumn columns rows))
    (document : (.map entries, cells) ∈ documents.zip rows)
    (fits : ∀ field ∈ fields, field.2.Fits ((entries.lookup field.1).getD .null))
    (stores : Stored (keyColumn :: columns) cells stored)
    {q : SearchQuery} {search : Search} {score : Value}
    (accepted : Search.ofBinding q binding = .ok search) (scored : Scored search.ranking score) :
    ∃ row hit, search.row stored score = .ok row ∧
      (∀ clause, search.clause = .ok clause →
        resultRow (Sql.tokens clause.text) stored score = .ok row) ∧
      Hit.ofRow row indexId (some binding) q.included = .ok hit ∧
      entries.lookup binding.keyField = some (.text hit.id) ∧
      ReadBack fields (binding.projectedFields q.included) entries hit.document := by
  have serves := Registry.serves_of_createIndex unrepeated created read bound
  obtain ⟨names, found, rfl, rfl, made⟩ := upsert_eq_ok written document
  rw [List.map_congr_left fun name _ => serves.column name, List.map_id'] at stores
  obtain ⟨sameKey, sameBinding, sameIncluded⟩ := Search.ofBinding_eq_ok accepted
  obtain ⟨row, yields, selected⟩ := exists_selected search stored score
  obtain ⟨key, given, kept⟩ := stored_key made stores
  have keyText : Hit.keyText row = .ok key :=
    Hit.keyText_of_lookup (by rw [selected.key, sameKey, kept])
  obtain ⟨x, scoreOf⟩ := scored.scoreOf selected.score
  -- Each field by itself; the document is then made up of the fields that are wanted.
  have each : ∀ name ∈ binding.projectedFields q.included, ∃ given,
      Hit.projectField binding row name = .ok (some (name, given)) ∧
        ∀ field, (name, field) ∈ fields → field.Gives ((entries.lookup name).getD .null) given := by
    intro name projected
    obtain ⟨field, mem⟩ := serves.projected _ name projected
    have notScore := noScore _ mem
    have onlyKey (same : name = Binding.idName) := serves.marked name field mem (onlyKey _ mem same)
    exact exists_projectField serves found (List.of_mem_zip document).1 made fits stores selected
      sameKey sameBinding (sameIncluded ▸ projected) notScore onlyKey
  obtain ⟨read, collected, distinct, keys, values⟩ := Hit.documentEntries_of_projectField each
  have decoded : Hit.ofRow row indexId (some binding) q.included = .ok
      { id := key, index := indexId, score := x
        document := if read.isEmpty then none else some read } := by
    rw [Hit.ofRow, collected, keyText, scoreOf]
    rfl
  exact ⟨row, _, yields, fun _ written => (Search.resultRow_text written ..).trans yields, decoded,
    given, readBack_of_entries distinct keys values⟩

/-- The database may write numbers without a fraction, and keys in another order. -/
theorem readBack_of_rewritten_texts :
    let schema : Entries :=
      [("id", .map [("type", .text "string"), ("pk", .bool true)]),
        ("place", .map [("type", .text "vector"), ("dimensions", .int 2)]),
        ("more", .map [("type", .text "object")]), ("title", .map [("type", .text "string")])]
    let fields : IndexSchema :=
      [("id", .scalar ⟨.string, false⟩ true), ("place", .vector 2 .cosine false),
        ("more", .scalar ⟨.object, false⟩ false), ("title", .scalar ⟨.string, false⟩ false)]
    let half : Binary64 := .finite false { significand := 4503599627370496, exponent := -53 }
    let entries : Entries :=
      [("id", .text "a"), ("place", .list [.int 1, .real half]),
        ("more", .map [("a", .int 1), ("b", .list [.bool true])])]
    let kept : Entries :=
      [("id", .text "a"), ("place", .text "[1,0.5]"),
        ("more", .text "\x7b\"b\": [true], \"a\": 1\x7d")]
    let stored (column : String) : Value := (kept.lookup column).getD .null
    let binding := fields.binding "public" "points" "id"
    let q : SearchQuery :=
      { query := some [[("place", .list [.int 1, .int 2])]]
        included := some (.named ["title", "place", "unknown", "more", "place", "id"]) }
    ∃ search clause row hit, Registry.readSchema (.map schema) = .ok fields ∧
      Search.ofBinding q binding = .ok search ∧ search.clause = .ok clause ∧
      resultRow (Sql.tokens clause.text) stored (.real .zero) = .ok row ∧
      Hit.ofRow row "points" (some binding) q.included = .ok hit ∧ hit.id = "a" ∧
      ReadBack fields ["title", "place", "more", "place", "id"] entries hit.document := by
  intro schema fields half entries kept stored binding q
  have read : Registry.readSchema (.map schema) = .ok fields := rfl
  let outcome := perform (Registry.createIndex {} "points" "public" (.map schema))
    ({ world := {} } : Session Script)
  have created : outcome = (.ok (), outcome.2) := Prod.ext rfl rfl
  have bound : outcome.2.bindings.lookup "points" = some binding := rfl
  have json : (Value.map [("a", .int 1), ("b", .list [.bool true])]).IsJson := by
    refine .map (by decide) (List.forall_mem_cons.mpr ⟨.int 1, ?_⟩)
    exact List.forall_mem_singleton.mpr (.list (List.forall_mem_singleton.mpr (.bool true)))
  have fits : ∀ field ∈ fields, field.2.Fits ((entries.lookup field.1).getD .null) := by
    refine List.forall_mem_cons.mpr ⟨nofun, List.forall_mem_cons.mpr ⟨.inr ⟨_, rfl⟩, ?_⟩⟩
    exact List.forall_mem_cons.mpr ⟨fun _ => json, List.forall_mem_singleton.mpr nofun⟩
  obtain ⟨place, more, encoded, spelled, written⟩ : ∃ place more,
      Vector.encode (.list [.int 1, .real half]) = .ok place ∧
      Json.write Json.documentStyle (.map [("a", .int 1), ("b", .list [.bool true])]) = .ok more ∧
      upsert binding [.map entries] = .ok (.upsert ⟨"public", "points"⟩ "id" ["place", "more"]
        [[{ value := .text "a" }, { value := .text place, cast := some .vector },
          { value := .text more, cast := some .json }]]) := ⟨_, _, rfl, rfl, rfl⟩
  obtain ⟨one, components, same⟩ : ∃ one,
      Vector.components [.int 1, .real half] = .ok [.real one, .real half] ∧
      (Value.list [.int 1, .real half]).equals (.list [.real one, .real half]) = true :=
    ⟨_, rfl, by decide +kernel⟩
  obtain ⟨reals, converted, vector⟩ := Vector.read_encode encoded
  rw [← Except.ok.inj (components.symm.trans converted)] at vector
  have object := Json.read_write Json.documentStyle_separates rfl json spelled
  -- The stored texts are not those that were written, but they denote the same values.
  obtain ⟨x, numbers, isHalf⟩ : ∃ x, Json.read "[1,0.5]".toList = .ok (.list [.int 1, .real x]) ∧
      x = half := ⟨_, rfl, by decide +kernel⟩
  rw [isHalf] at numbers
  have reordered : Json.read "\x7b\"b\": [true], \"a\": 1\x7d".toList =
    .ok (.map [("b", .list [.bool true]), ("a", .int 1)]) := rfl
  have stores : Stored ["id", "place", "more"] [{ value := .text "a" },
      { value := .text place, cast := some .vector }, { value := .text more, cast := some .json }]
      stored := by
    refine ⟨List.forall_mem_cons.mpr ⟨.plain _, List.forall_mem_cons.mpr ⟨?_, ?_⟩⟩, ?_⟩
    · exact .vector vector (by decide) numbers (by decide) (.inr same)
    · exact List.forall_mem_singleton.mpr (.json object reordered (.inr (by decide)))
    · intro column absent
      have missing : kept.lookup column = none :=
        List.lookup_eq_none_iff.mpr (by simpa [kept] using absent)
      show (kept.lookup column).getD .null = .null
      rw [missing, Option.getD_none]
  obtain ⟨search, ranking, accepted, ranked⟩ : ∃ search ranking,
      Search.ofBinding q binding = .ok search ∧ search.ranking = some ranking := ⟨_, _, rfl, rfl⟩
  have scored : Scored search.ranking (.real .zero) := ranked ▸ .distance ranking .zero
  obtain ⟨clause, converted⟩ := (Search.clause_succeeds accepted).mpr fun vector sought => by
    obtain rfl : Value.list [.int 1, .int 2] = vector := Option.some.inj sought
    exact ⟨_, rfl⟩
  obtain ⟨row, hit, -, yields, decoded, keyed, back⟩ := readBack_of_stored (by decide) created read
    bound (by decide) (by decide) written List.mem_cons_self fits stores
    accepted scored
  have named : Value.text hit.id = .text "a" := Option.some.inj (keyed.symm.trans rfl)
  exact ⟨search, clause, row, hit, read, accepted, converted, yields clause converted, decoded,
    Value.text.inj named, back⟩

end Document

end TableSearch
