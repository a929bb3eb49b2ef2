import TableSearch.Proofs.Index.Assignments
import TableSearch.Proofs.Sql.Writes

/-!
# Documents that are upserted together

The documents of one call may have different fields.  They are written by one INSERT, whose columns
are those of the fields of any of them, and every row has a value for every column.  `Inserts` says
which, and `upsert_inserts` that the statement of a call is read in this way.
-/

namespace TableSearch

open Sql Operation

/-! ## First occurrences -/

/-- What comes first in a part of a list comes first in the list. -/
theorem idxOf_lt_of_filter {kept : String → Bool} {names : List String} {a b : String}
    (keptA : kept a = true) (keptB : kept b = true)
    (before : (names.filter kept).idxOf a < (names.filter kept).idxOf b) :
    names.idxOf a < names.idxOf b := by
  induction names with
  | nil => exact absurd before (Nat.lt_irrefl _)
  | cons name names ih =>
    -- A name that is left out is neither of the two, so it moves both of them by one.
    by_cases isKept : kept name = true
    · rw [List.filter_cons_of_pos isKept] at before
      simp only [List.idxOf_cons] at before ⊢
      cases first : name == a <;> cases second : name == b <;>
        simp only [first, second, cond_true, cond_false] at before ⊢
      · exact Nat.succ_lt_succ (ih (Nat.lt_of_succ_lt_succ before))
      · exact absurd before (Nat.not_lt_zero _)
      · exact Nat.succ_pos _
      · exact absurd before (Nat.lt_irrefl _)
    · have notA : name ≠ a := fun same => isKept (same ▸ keptA)
      have notB : name ≠ b := fun same => isKept (same ▸ keptB)
      rw [List.filter_cons_of_neg isKept] at before
      rw [List.idxOf_cons_ne _ notA, List.idxOf_cons_ne _ notB]
      exact Nat.succ_lt_succ (ih before)

/-- Without repetitions, the members of a list are in the order of their first occurrence. -/
theorem pairwise_eraseDups (names : List String) :
    names.eraseDups.Pairwise fun name other => names.idxOf name < names.idxOf other := by
  cases names with
  | nil => exact .nil
  | cons name names =>
    have others := pairwise_eraseDups (names.filter fun other => !other == name)
    have different {other : String}
        (mem : other ∈ (names.filter fun other => !other == name).eraseDups) : other ≠ name := by
      simpa using (List.mem_filter.mp (List.mem_eraseDups.mp mem)).2
    rw [List.eraseDups_cons]
    refine List.pairwise_cons.mpr ⟨fun other mem => ?_, others.imp_of_mem fun memA memB before => ?_⟩
    · rw [List.idxOf_cons_self, List.idxOf_cons_ne _ (different mem).symm]
      exact Nat.succ_pos _
    · rw [List.idxOf_cons_ne _ (different memA).symm, List.idxOf_cons_ne _ (different memB).symm]
      refine Nat.succ_lt_succ (idxOf_lt_of_filter ?_ ?_ before)
      · simpa using different memA
      · simpa using different memB
termination_by names.length
decreasing_by exact Nat.lt_succ_of_le (List.length_filter_le _ _)

/-- Nor does leaving out some of them change the order of the others. -/
theorem pairwise_eraseDups_filter (kept : String → Bool) (names : List String) :
    (names.filter kept).eraseDups.Pairwise fun name other =>
      names.idxOf name < names.idxOf other := by
  refine (pairwise_eraseDups _).imp_of_mem fun mem mem' before => ?_
  exact idxOf_lt_of_filter (List.mem_filter.mp (List.mem_eraseDups.mp mem)).2
    (List.mem_filter.mp (List.mem_eraseDups.mp mem')).2 before

namespace Document

/-! ## Columns -/

theorem mem_keysOf {batch : List Entries} {name : String} :
    name ∈ keysOf batch ↔ ∃ entries ∈ batch, name ∈ entries.map (·.1) := List.mem_flatMap

variable {binding : Binding}

theorem columnFor_of_mem {name : String} {field : FieldBinding}
    (found : binding.field? name = some field) : binding.columnFor name = field.column := by
  rw [Binding.columnFor, found]

/-- Bound fields share no column with each other or with the key, if bindings share none. -/
theorem columns_nodup {names : List String} (apart : (binding.fields.map (·.2.column)).Nodup)
    (distinct : names.Nodup) (keyless : binding.keyField ∉ names)
    (bound : ∀ name ∈ names, (binding.field? name).isSome = true) :
    (binding.keyColumn :: names.map binding.columnFor).Nodup := by
  have entry (name : String) (mem : name ∈ names) :
      ∃ field, (name, field) ∈ binding.fields ∧ binding.columnFor name = field.column := by
    obtain ⟨field, found⟩ := Option.isSome_iff_exists.mp (bound name mem)
    exact ⟨field, mem_of_lookup found, columnFor_of_mem found⟩
  have same := List.inj_on_of_nodup_map apart
  refine List.nodup_cons.mpr ⟨fun shared => ?_, distinct.map_on fun name mem other mem' equal => ?_⟩
  · obtain ⟨name, mem, isKeyColumn⟩ := List.mem_map.mp shared
    obtain ⟨field, inside, column⟩ := entry name mem
    -- The field of the key is the first one with the key column, so it is this one.
    cases first : binding.fields.find? (·.2.column == binding.keyColumn) with
    | none =>
      have none := List.find?_eq_none.mp first _ inside
      exact none (beq_iff_eq.mpr (column.symm.trans isKeyColumn))
    | some keyEntry =>
      have keyColumn : keyEntry.2.column = binding.keyColumn := by
        simpa using List.find?_some first
      have one := same inside (List.mem_of_find?_eq_some first)
        ((column.symm.trans isKeyColumn).trans keyColumn.symm)
      have isKey : binding.keyField = name := by
        rw [Binding.keyField, first, ← one]
      exact keyless (isKey ▸ mem)
  · obtain ⟨field, inside, column⟩ := entry name mem
    obtain ⟨field', inside', column'⟩ := entry other mem'
    exact congrArg Prod.fst (same inside inside' (column.symm.trans (equal.trans column')))

/-! ## Rows -/

variable {entries : Entries} {key : String} {names : List String}

theorem exists_ofField (encodable : Encodable binding entries) {name : String}
    (other : name ≠ binding.keyField) :
    ∃ cell, Cell.ofField binding name ((entries.lookup name).getD .null) = .ok cell := by
  cases found : entries.lookup name with
  | none => exact ⟨_, rfl⟩
  | some value => exact encodable (name, value) (mem_of_lookup found) other

theorem exists_row (keyed : entries.lookup binding.keyField = some (.text key))
    (encodable : Encodable binding entries) (keyless : binding.keyField ∉ names) :
    ∃ cells, row binding names (.map entries) = .ok ({ value := .text key } :: cells) := by
  obtain ⟨cells, encoded⟩ := exists_forall₂ fun name mem =>
    exists_ofField encodable fun same : name = binding.keyField => keyless (same ▸ mem)
  have named : Document.key .document binding.keyField (.map entries) = .ok key :=
    key_eq_ok.mpr ⟨entries, rfl, keyed⟩
  refine ⟨cells, ?_⟩
  simp only [row, bind_eq_ok, pure_eq_ok, Failure.ofConversion, mapError_eq_ok]
  exact ⟨key, named, entries, rfl, cells, mapM_eq_ok.mpr encoded, rfl⟩

/-- The placeholders of the row of a document: the first one gives the key as it is, the others the
values of fields as they are encoded.  A value that is missing or null is given as it is, too. -/
inductive GivesRow (binding : Binding) (names : List String) (params : List Value)
    (entries : Entries) : List Placeholder → Prop where
  | intro {key : String} {own : Placeholder} {others : List Placeholder}
      (keyed : entries.lookup binding.keyField = some (.text key))
      (gives : own.Gives params { value := .text key })
      (each : List.Forall₂ (fun name placeholder => ∃ cell,
        Cell.ofField binding name ((entries.lookup name).getD .null) = .ok cell ∧
          ((entries.lookup name).getD .null = .null → cell = { value := .null }) ∧
          placeholder.Gives params cell) names others) :
      GivesRow binding names params entries (own :: others)

theorem GivesRow.length {params : List Value} {placeholders : List Placeholder}
    (gives : GivesRow binding names params entries placeholders) :
    placeholders.length = names.length + 1 := by
  cases gives with
  | intro _ _ each => rw [List.length_cons, each.length_eq]

theorem givesRow_of_row {params : List Value} {cells : List Cell} {placeholders : List Placeholder}
    (made : row binding names (.map entries) = .ok cells)
    (give : List.Forall₂ (Placeholder.Gives params) placeholders cells) :
    GivesRow binding names params entries placeholders := by
  obtain ⟨key, rest, keyed, rfl, encoded⟩ := row_eq_ok made
  cases give with
  | cons own others =>
    refine .intro keyed own ((forall₂_through encoded others).imp ?_)
    rintro name placeholder ⟨cell, encoded, gives⟩
    refine ⟨cell, encoded, fun isNull => ?_, gives⟩
    rw [isNull] at encoded
    cases encoded
    rfl

/-! ## Insertions -/

/-- What an INSERT of documents says: which columns it has, what each of its rows gives to each of
them, and what becomes of the rows that are there already. -/
structure Inserts (binding : Binding) (batch : List Entries) (names : List String)
    (insertion : Insertion) (params : List Value) : Prop where
  table : insertion.table = binding.tableName
  /-- The key column comes first, then those of all fields in the order of their first
  occurrence. -/
  columns : insertion.columns = binding.keyColumn :: names.map binding.columnFor
  mem_names : ∀ name, name ∈ names ↔
    name ≠ binding.keyField ∧ ∃ entries ∈ batch, name ∈ entries.map (·.1)
  ordered : names.Pairwise fun name other =>
    (keysOf batch).idxOf name < (keysOf batch).idxOf other
  distinct : (binding.fields.map (·.2.column)).Nodup →
    (∀ name ∈ names, (binding.field? name).isSome = true) → insertion.columns.Nodup
  rows : List.Forall₂ (GivesRow binding names params) batch insertion.rows
  /-- Row by row, and in the whole statement, the placeholders are numbered from one on. -/
  numbers : insertion.rows.flatten.map (·.number) = consecutive 1 params.length
  slots : slots insertion.tokens = consecutive 1 params.length
  count : params.length = batch.length * insertion.columns.length
  conflict : insertion.conflictColumn = binding.keyColumn
  overwritten : insertion.overwritten = names.map binding.columnFor

theorem length_rows {batch : List Entries} {params : List Value} {rows : List (List Placeholder)}
    (give : List.Forall₂ (GivesRow binding names params) batch rows) :
    rows.flatten.length = batch.length * (names.length + 1) := by
  induction give with
  | nil => simp
  | cons first _ ih =>
    rw [List.flatten_cons, List.length_append, first.length, ih, List.length_cons, Nat.succ_mul,
      Nat.add_comm]

/-- Documents with texts as keys, whose other values can be stored, are written by an INSERT that
has a row for each of them. -/
theorem exists_inserts {batch : List Entries}
    (keyed : ∀ entries ∈ batch, ∃ key, entries.lookup binding.keyField = some (.text key))
    (encodable : ∀ entries ∈ batch, Encodable binding entries) :
    ∃ names statement insertion, upsert binding (batch.map .map) = .ok statement ∧
      Sql.tokens statement.text = insertion.tokens ∧
      Inserts binding batch names insertion statement.params := by
  let names := ((keysOf batch).filter (· != binding.keyField)).eraseDups
  have inNames (name : String) :
      name ∈ names ↔ name ≠ binding.keyField ∧ ∃ entries ∈ batch, name ∈ entries.map (·.1) := by
    rw [List.mem_eraseDups, List.mem_filter, bne_iff_ne, mem_keysOf, and_comm]
  have keyless : binding.keyField ∉ names := fun mem => ((inNames _).mp mem).1 rfl
  have ordered : names.Pairwise fun name other =>
      (keysOf batch).idxOf name < (keysOf batch).idxOf other := pairwise_eraseDups_filter _ _
  -- Each row has a cell under every name, also where its document has no entry for it.
  have rowed (entries : Entries) (mem : entries ∈ batch) :
      ∃ cells, row binding names (.map entries) = .ok cells := by
    obtain ⟨key, keyed⟩ := keyed entries mem
    obtain ⟨cells, made⟩ := exists_row keyed (encodable entries mem) keyless
    exact ⟨_, made⟩
  obtain ⟨rows, made⟩ := exists_forall₂ rowed
  have written : upsert binding (batch.map .map) =
      .ok (.upsert binding.tableName binding.keyColumn (names.map binding.columnFor) rows) := by
    simp only [upsert, bind_eq_ok, pure_eq_ok, Failure.ofConversion, mapError_eq_ok, mapM_eq_ok]
    exact ⟨names, fieldNames_map _ batch, rows, List.forall₂_map_left_iff.mpr made, rfl⟩
  have give : List.Forall₂ (GivesRow binding names (rows.flatten.map Cell.value)) batch
      (numberedRows 1 rows) := by
    have each := numberedRows_give (Filter.supplies_paramAt 1 (rows.flatten.map Cell.value))
    exact (forall₂_through made each).imp fun _ _ ⟨_, made, give⟩ => givesRow_of_row made give
  have numbers : (numberedRows 1 rows).flatten.map (·.number) =
      consecutive 1 (rows.flatten.map Cell.value).length := by
    rw [numbers_numberedRows, List.length_map]
  -- A name cannot come before itself, so none is repeated.
  have once : names.Nodup := ordered.imp fun before same => by
    rw [same] at before
    exact Nat.lt_irrefl _ before
  refine ⟨names, _, _, written, upsert_tokens .., ?_⟩
  exact
    { table := rfl
      columns := rfl
      mem_names := inNames
      ordered := ordered
      distinct := fun apart bound => columns_nodup apart once keyless bound
      rows := give
      numbers := numbers
      slots := (Insertion.slots_tokens _).trans numbers
      count := by
        have all := congrArg List.length numbers
        rw [List.length_map, length_consecutive, length_rows give] at all
        rw [List.length_cons, List.length_map]
        exact all.symm
      conflict := rfl
      overwritten := rfl }

end Document

namespace Handle

variable {σ : Type} [World σ]

/-- Documents with texts as keys, whose other values can be stored, are written by one INSERT.  Its
rows are those of the documents in their order; each has the key of its document in the key column,
as it is, and in the columns of the fields of all documents the encoded values of its own, or null.
The placeholders are numbered row by row. -/
theorem upsert_inserts {handle : Handle σ} {binding : Binding} {session middle : Session σ}
    {input : Value} {batch : List Entries}
    (found : perform handle.binding session = (.ok binding, middle))
    (documents : input.toThings = .ok (batch.map .map)) (nonempty : batch ≠ [])
    (keyed : ∀ entries ∈ batch, ∃ key, entries.lookup binding.keyField = some (.text key))
    (encodable : ∀ entries ∈ batch, Document.Encodable binding entries) :
    ∃ names statement insertion,
      Records [.statement statement] middle (perform (handle.upsert input) session).2 ∧
      Sql.tokens statement.text = insertion.tokens ∧
      Document.Inserts binding batch names insertion statement.params := by
  obtain ⟨names, statement, insertion, written, read, inserts⟩ :=
    Document.exists_inserts keyed encodable
  have some : batch.map Value.map ≠ [] := by simpa using nonempty
  have records := (done_documents found documents some).records
  rw [Plan.ofDocuments, written, Plan.after, issued_singleton] at records
  exact ⟨names, statement, insertion, records, read, inserts⟩

/-- For example, two documents that have only their key in common. -/
theorem upsert_inserts_different_fields :
    let binding : Binding :=
      { table := "docs"
        fields := [("vec", { column := "embedding", type := "vector" }),
          ("meta", { column := "meta", type := "object" })] }
    let handle : Handle Script := { indexId := "docs", resolve := pure (some binding) }
    let batch : List Entries :=
      [[("id", .text "a"), ("vec", .list [.int 1])],
        [("title", .null), ("meta", .map []), ("id", .text "b")]]
    ∃ names statement insertion,
      (perform (handle.upsert (.list (batch.map .map))) { world := {} }).2.events =
        [.statement statement] ∧
      Sql.tokens statement.text = insertion.tokens ∧
      Document.Inserts binding batch names insertion statement.params ∧
      Sql.slots insertion.tokens = [1, 2, 3, 4, 5, 6, 7, 8] := by
  intro binding handle batch
  have keyed : ∀ entries ∈ batch,
      ∃ key, entries.lookup binding.keyField = some (.text key) := by
    simp only [batch, List.forall_mem_cons]
    exact ⟨⟨_, rfl⟩, ⟨_, rfl⟩, by simp⟩
  have encodable : ∀ entries ∈ batch, Document.Encodable binding entries := by
    unfold Document.Encodable
    simp only [batch, List.forall_mem_cons, List.not_mem_nil, IsEmpty.forall_iff, implies_true,
      and_true]
    exact ⟨⟨fun _ => ⟨_, rfl⟩, fun _ => ⟨_, rfl⟩⟩,
      ⟨fun _ => ⟨_, rfl⟩, fun _ => ⟨_, rfl⟩, fun _ => ⟨_, rfl⟩⟩⟩
  have documents : (Value.list (batch.map .map)).toThings = .ok (batch.map .map) := rfl
  obtain ⟨names, statement, insertion, records, read, inserts⟩ := upsert_inserts
    (rfl : perform handle.binding { world := {} } = (.ok binding, { world := {} })) documents
    (by simp [batch]) keyed encodable
  have sent := records.events
  have eight : ∃ written, (perform (handle.upsert (.list (batch.map .map)))
      { world := {} }).2.events = [.statement written] ∧ written.params.length = 8 := ⟨_, rfl, rfl⟩
  obtain ⟨written, same, eight⟩ := eight
  cases sent.symm.trans same
  exact ⟨names, statement, insertion, sent, read, inserts, inserts.slots.trans (by rw [eight]; rfl)⟩

/-- The key is given as it is even if its field is bound as one of objects, which are otherwise
encoded and cast. -/
theorem upsert_gives_bare_key :
    let binding : Binding :=
      { table := "docs", fields := [("id", { column := "id", type := "object" })] }
    let handle : Handle Script := { indexId := "docs", resolve := pure (some binding) }
    let entries : Entries := [("id", .text "a")]
    ∃ statement encoded,
      (perform (handle.upsert (.map entries)) { world := {} }).2.events = [.statement statement] ∧
      binding.keyField = "id" ∧ Cell.ofField binding "id" (.text "a") = .ok encoded ∧
      encoded.cast = some .json ∧ encoded.value = .text "\"a\"" ∧
      statement.params = [.text "a"] ∧ Sql.slots (Sql.tokens statement.text) = [1] ∧
      Token.word "jsonb" ∉ Sql.tokens statement.text := by
  refine ⟨.upsert ⟨"public", "docs"⟩ "id" [] [[{ value := .text "a" }]], _, rfl, rfl, rfl, rfl,
    rfl, rfl, ?_, ?_⟩
  · decide +kernel
  · decide +kernel

end Handle

end TableSearch
