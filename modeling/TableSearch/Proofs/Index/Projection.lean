import TableSearch.Index.Hit
import TableSearch.Proofs.Results
import TableSearch.Query.Search

/-!
# Projected columns

The row that a search selects has the key of the stored row, its score, and every column of
a projected field, although the first of several columns with one name hides the others.
The document of a hit collects the projected fields, each of them once.
-/

namespace TableSearch

/-! ## Entries of mappings -/

section Entries

variable {α : Type} {key name : String} {value : α} {entries : List (String × α)}

theorem mem_keys_insertEntry :
    name ∈ (insertEntry key value entries).map (·.1) ↔
      name = key ∨ name ∈ entries.map (·.1) := by
  induction entries with
  | nil => simp [insertEntry]
  | cons entry entries ih =>
    rw [insertEntry]
    split
    next same => simp [same]
    next => simp only [List.map_cons, List.mem_cons, ih]; exact or_left_comm

theorem nodup_insertEntry (distinct : (entries.map (·.1)).Nodup) :
    ((insertEntry key value entries).map (·.1)).Nodup := by
  induction entries with
  | nil => simp [insertEntry]
  | cons entry entries ih =>
    obtain ⟨new, rest⟩ := List.nodup_cons.mp distinct
    rw [insertEntry]
    split
    next same => exact List.nodup_cons.mpr ⟨same ▸ new, rest⟩
    next other =>
      refine List.nodup_cons.mpr ⟨fun mem => ?_, ih rest⟩
      exact (mem_keys_insertEntry.mp mem).elim other new

theorem mem_insertEntry {entry : String × α} (mem : entry ∈ insertEntry key value entries) :
    entry = (key, value) ∨ entry ∈ entries := by
  induction entries with
  | nil => exact .inl (List.mem_singleton.mp mem)
  | cons first entries ih =>
    rw [insertEntry] at mem
    split at mem
    · rcases List.mem_cons.mp mem with same | rest
      · exact .inl same
      · exact .inr (List.mem_cons_of_mem _ rest)
    · rcases List.mem_cons.mp mem with same | rest
      · exact .inr (same ▸ List.mem_cons_self)
      · exact (ih rest).imp_right (List.mem_cons_of_mem _)

theorem lookup_filter (keep : String → Bool) (kept : keep name = true) :
    (entries.filter fun entry => keep entry.1).lookup name = entries.lookup name := by
  induction entries with
  | nil => rfl
  | cons entry entries ih =>
    obtain ⟨first, value⟩ := entry
    rw [List.filter_cons]
    by_cases same : name = first
    · subst same
      rw [if_pos kept, List.lookup_cons_self, List.lookup_cons_self]
    · have other : (name == first) = false := beq_eq_false_iff_ne.mpr same
      split <;> simp only [List.lookup_cons, other, ih]

theorem isSome_lookup_iff :
    (entries.lookup name).isSome = true ↔ name ∈ entries.map (·.1) := by
  rw [List.lookup_isSome_iff, List.mem_map]
  exact ⟨fun ⟨entry, mem, same⟩ => ⟨entry, mem, (beq_iff_eq.mp same).symm⟩,
    fun ⟨entry, mem, same⟩ => ⟨entry, mem, beq_iff_eq.mpr same.symm⟩⟩

theorem lookup_eq_none_iff : entries.lookup name = none ↔ name ∉ entries.map (·.1) := by
  rw [← isSome_lookup_iff, Option.not_isSome_iff_eq_none]

theorem mem_of_lookup (found : entries.lookup name = some value) : (name, value) ∈ entries := by
  obtain ⟨before, rest, same, -⟩ := List.lookup_eq_some_iff.mp found
  rw [same]
  exact List.mem_append_right _ List.mem_cons_self

theorem lookup_of_mem (distinct : (entries.map (·.1)).Nodup) (mem : (name, value) ∈ entries) :
    entries.lookup name = some value := by
  induction entries with
  | nil => cases mem
  | cons entry entries ih =>
    obtain ⟨new, rest⟩ := List.nodup_cons.mp distinct
    rcases List.mem_cons.mp mem with same | inside
    · subst same
      exact List.lookup_cons_self
    · have other : (name == entry.1) = false :=
        beq_eq_false_iff_ne.mpr fun same => new (List.mem_map.mpr ⟨_, inside, same⟩)
      obtain ⟨first, _⟩ := entry
      rw [List.lookup_cons, other]
      exact ih rest inside

theorem lookup_eq_of_perm {others : List (String × α)} (distinct : (entries.map (·.1)).Nodup)
    (perm : entries.Perm others) (name : String) : others.lookup name = entries.lookup name := by
  cases found : entries.lookup name with
  | none =>
    rw [lookup_eq_none_iff, ← (perm.map _).mem_iff]
    exact lookup_eq_none_iff.mp found
  | some value =>
    exact lookup_of_mem ((perm.map _).nodup_iff.mp distinct) (perm.mem_iff.mp (mem_of_lookup found))

theorem lookup_map {names : List String} (mem : name ∈ names) (valueOf : String → α) :
    (names.map fun name => (name, valueOf name)).lookup name = some (valueOf name) := by
  induction names with
  | nil => cases mem
  | cons first names ih =>
    rw [List.map_cons, List.lookup_cons]
    by_cases same : name = first
    · rw [same, beq_self_eq_true]
    · rw [beq_eq_false_iff_ne.mpr same]
      exact ih ((List.mem_cons.mp mem).resolve_left same)

end Entries

/-! ## Rows -/

/-- In a row the first column of a name is the one that is found. -/
theorem lookup_ofValues {columns : List String} {values : List Value} {row : Row}
    (read : Row.ofValues columns values = .ok row) (name : String) :
    row.lookup name = (columns.zip values).lookup name := by
  have added (entries : List (String × Value)) (before : Row) :
      (entries.foldl (fun row entry => if hasEntry entry.1 row then row else row ++ [entry])
        before).lookup name = (before ++ entries).lookup name := by
    induction entries generalizing before with
    | nil => rw [List.foldl_nil, List.append_nil]
    | cons entry entries ih =>
      rw [List.foldl_cons, ih]
      split
      next present =>
        obtain ⟨first, value⟩ := entry
        rw [List.lookup_append, List.lookup_append]
        -- A column that is there already keeps its first value, and lookups find just that one.
        by_cases same : name = first
        · have found : (before.lookup name).isSome = true := by
            obtain ⟨other, mem, named⟩ := List.any_eq_true.mp present
            refine List.lookup_isSome_iff.mpr ⟨other, mem, ?_⟩
            rw [same, beq_iff_eq]
            exact (beq_iff_eq.mp named).symm
          obtain ⟨value, found⟩ := Option.isSome_iff_exists.mp found
          rw [found, Option.some_or, Option.some_or]
        · rw [List.lookup_cons, beq_eq_false_iff_ne.mpr same]
      next => rw [List.append_assoc]; rfl
  rw [Row.ofValues] at read
  split at read
  · cases read
    rw [added]
    rfl
  · cases read

namespace Output

/-- The value of a selected column, for a row whose columns hold some values. -/
def value (stored : String → Value) (score : Value) : Output → Value
  | key column => stored column
  | .score _ => score
  | .stored column => stored column

end Output

namespace Search

def outputs (search : Search) : List Output :=
  Selection.outputs search.keyColumn search.ranking search.binding search.included

def row (search : Search) (stored : String → Value) (score : Value) : Except ConversionError Row :=
  Row.ofValues (search.outputs.map Output.name) (search.outputs.map (Output.value stored score))

end Search

/-- What is found in the row that a search selects from a stored row. -/
structure Selected (search : Search) (stored : String → Value) (score : Value) (row : Row) :
    Prop where
  key : row.lookup Binding.idName = some (stored search.keyColumn)
  score : row.lookup Binding.scoreName = some score
  projected : ∀ column ∈ Selection.projected search.binding search.included,
    column ≠ Binding.idName → column ≠ Binding.scoreName → row.lookup column = some (stored column)

theorem exists_selected (search : Search) (stored : String → Value) (score : Value) :
    ∃ row, search.row stored score = .ok row ∧ Selected search stored score row := by
  have fits : (search.outputs.map Output.name).length =
      (search.outputs.map (Output.value stored score)).length := by
    rw [List.length_map, List.length_map]
  obtain ⟨row, read⟩ : ∃ row, search.row stored score = .ok row := by
    rw [Search.row, Row.ofValues, if_pos fits]
    exact ⟨_, rfl⟩
  refine ⟨row, read, ?_, ?_, ?_⟩
  · rw [lookup_ofValues read]
    rfl
  · rw [lookup_ofValues read]
    rfl
  · intro column mem notKey notScore
    rw [lookup_ofValues read, List.zip_map', Search.outputs, Selection.outputs, List.map_cons,
      List.map_cons, List.map_map, List.lookup_cons, List.lookup_cons]
    -- The first two outputs have names of their own, so other columns are found behind them.
    have key : (column == Binding.idName) = false := beq_eq_false_iff_ne.mpr notKey
    have score : (column == Binding.scoreName) = false := beq_eq_false_iff_ne.mpr notScore
    simp only [Output.name, key, score]
    exact lookup_map mem stored

/-! ## Documents -/

namespace Hit

variable {binding : Binding} {row : Row}

theorem lookup_documentColumns {name : String} (notKey : name ≠ Binding.idName)
    (notScore : name ≠ Binding.scoreName) : (documentColumns row).lookup name = row.lookup name :=
  lookup_filter (fun name => name != Binding.idName && name != Binding.scoreName)
    (by simp [notKey, notScore])

theorem keyText_of_lookup {key : Value} (found : row.lookup Binding.idName = some key) :
    keyText row = .ok key.display := by
  rw [keyText, Row.column, found]
  rfl

theorem projectField_key {key : String} (found : row.lookup Binding.idName = some (.text key)) :
    projectField binding row binding.keyField = .ok (some (binding.keyField, .text key)) := by
  rw [projectField, if_pos rfl, keyText_of_lookup found]
  rfl

theorem projectField_stored {name : String} {field : FieldBinding} {stored given : Value}
    (other : name ≠ binding.keyField) (bound : binding.field? name = some field)
    (notKey : field.column ≠ Binding.idName) (notScore : field.column ≠ Binding.scoreName)
    (found : row.lookup field.column = some stored)
    (decoded : decodeField field stored = .ok given) :
    projectField binding row name = .ok (some (name, given)) := by
  simp only [projectField, if_neg other, bound, lookup_documentColumns notKey notScore, found,
    decoded]
  rfl

/-- The fields that can be read, in the order in which they are wanted. -/
theorem exists_entries {names : List String} {Good : String → Value → Prop}
    (each : ∀ name ∈ names, ∃ value,
      projectField binding row name = .ok (some (name, value)) ∧ Good name value) :
    ∃ entries : Entries, names.mapM (projectField binding row) = .ok (entries.map some) ∧
      entries.map (·.1) = names ∧ ∀ entry ∈ entries, Good entry.1 entry.2 := by
  induction names with
  | nil => exact ⟨[], rfl, rfl, nofun⟩
  | cons name names ih =>
    obtain ⟨value, found, good⟩ := each name List.mem_cons_self
    obtain ⟨entries, read, named, rest⟩ :=
      ih fun other mem => each other (List.mem_cons_of_mem _ mem)
    refine ⟨(name, value) :: entries, ?_, by rw [List.map_cons, named], ?_⟩
    · rw [List.mapM_cons, found, read]
      rfl
    · intro entry mem
      rcases List.mem_cons.mp mem with same | inside
      · exact same ▸ good
      · exact rest entry inside

/-- Entries that are put into a document one after the other. -/
theorem collect (entries before : Entries) (distinct : (before.map (·.1)).Nodup) :
    let document := entries.foldl (fun doc (name, value) => insertEntry name value doc) before
    (document.map (·.1)).Nodup ∧
      (∀ name, name ∈ document.map (·.1) ↔ name ∈ before.map (·.1) ∨ name ∈ entries.map (·.1)) ∧
      ∀ entry ∈ document, entry ∈ before ∨ entry ∈ entries := by
  induction entries generalizing before with
  | nil => exact ⟨distinct, fun name => by simp, fun entry mem => .inl mem⟩
  | cons entry entries ih =>
    obtain ⟨nodup, keys, kept⟩ :=
      ih (insertEntry entry.1 entry.2 before) (nodup_insertEntry distinct)
    refine ⟨nodup, fun name => ?_, fun other mem => ?_⟩
    · rw [List.foldl_cons, keys, mem_keys_insertEntry, List.map_cons, List.mem_cons, or_assoc,
        or_left_comm]
    · rcases kept other mem with old | new
      · rcases mem_insertEntry old with same | old
        · exact .inr (same ▸ List.mem_cons_self)
        · exact .inl old
      · exact .inr (List.mem_cons_of_mem _ new)

/-- A document has exactly the keys of the projected fields, each once, if every one of
these fields can be read. -/
theorem documentEntries_of_projectField {included : Option Include} {Good : String → Value → Prop}
    (each : ∀ name ∈ binding.projectedFields included, ∃ value,
      projectField binding row name = .ok (some (name, value)) ∧ Good name value) :
    ∃ document, documentEntries row (some binding) included = .ok document ∧
      (document.map (·.1)).Nodup ∧
      (∀ name, name ∈ document.map (·.1) ↔ name ∈ binding.projectedFields included) ∧
      ∀ entry ∈ document, Good entry.1 entry.2 := by
  obtain ⟨entries, read, named, good⟩ := exists_entries each
  obtain ⟨distinct, keys, kept⟩ := collect entries [] List.nodup_nil
  refine ⟨_, ?_, distinct, fun name => ?_, fun entry mem => ?_⟩
  · have flat : (entries.map some).filterMap (fun entry => entry) = entries := by
      rw [List.filterMap_map]
      exact List.filterMap_some
    rw [documentEntries, read]
    simp only [bind, Except.bind, pure, Except.pure, flat]
  · rw [keys, named]
    simp
  · exact good entry ((kept entry mem).resolve_left List.not_mem_nil)

end Hit

end TableSearch
