import Mathlib.Data.List.Nodup
import Mathlib.Data.List.Perm.Subperm
import TableSearch.Index.Registry
import TableSearch.Proofs.Index.Projection
import TableSearch.Proofs.Json.RoundTrip

/-!
# The stored form of a binding

A binding is stored as a mapping and read from one.  Reading looks its parts up by name, and so
it does not matter in which order the store gives the entries back.  What order does remain is
that of the fields.
-/

namespace TableSearch

/-! ## Reordered values -/

/-- Values that differ at most in the order in which the entries of their mappings stand. -/
inductive Value.Reordered : Value → Value → Prop where
  | refl (value : Value) : Reordered value value
  | map {entries others : Entries} (keys : (entries.map (·.1)).Perm (others.map (·.1)))
      (each : ∀ key value other, entries.lookup key = some value →
        others.lookup key = some other → Reordered value other) :
      Reordered (.map entries) (.map others)

/-- Entries with the same keys, under which values stand that differ at most in order. -/
structure EntriesReordered (entries others : Entries) : Prop where
  keys : (entries.map (·.1)).Perm (others.map (·.1))
  kept : ∀ key value, entries.lookup key = some value →
    ∃ other, others.lookup key = some other ∧ value.Reordered other

/-- A mapping is given back as a mapping with the same keys. -/
theorem Value.Reordered.exists_entries {entries : Entries} {other : Value}
    (reordered : (Value.map entries).Reordered other) :
    ∃ others, other = .map others ∧ EntriesReordered entries others := by
  cases reordered with
  | refl => exact ⟨entries, rfl, .refl _, fun key value found => ⟨value, found, .refl value⟩⟩
  | @map _ others keys each =>
    refine ⟨others, rfl, keys, fun key value found => ?_⟩
    have present : (others.lookup key).isSome = true := by
      rw [isSome_lookup_iff, ← keys.mem_iff, ← isSome_lookup_iff, found]
      rfl
    obtain ⟨other, given⟩ := Option.isSome_iff_exists.mp present
    exact ⟨other, given, each key value other found given⟩

namespace EntriesReordered

variable {entries others : Entries} (reordered : EntriesReordered entries others) {name : String}

include reordered

theorem lookup_text {s : String} (found : entries.lookup name = some (.text s)) :
    others.lookup name = some (.text s) := by
  obtain ⟨other, given, same⟩ := reordered.kept name _ found
  cases same
  exact given

theorem lookup_int {n : Int} (found : entries.lookup name = some (.int n)) :
    others.lookup name = some (.int n) := by
  obtain ⟨other, given, same⟩ := reordered.kept name _ found
  cases same
  exact given

theorem lookup_eq_none (absent : entries.lookup name = none) : others.lookup name = none := by
  rw [lookup_eq_none_iff, ← reordered.keys.mem_iff]
  exact lookup_eq_none_iff.mp absent

end EntriesReordered

/-! ## Reading records -/

namespace Decoder

@[simp] theorem text_text (s : String) : text (.text s) = .valid s := rfl

variable {α : Type} {decode : Decoder α} {entries : Entries} {name : String} {value : Value}

theorem required_of_lookup {a : α} (found : entries.lookup name = some value)
    (valid : decode value = .valid a) : required [name] decode entries = .valid a := by
  simp only [required, findField?, List.findSome?, found, Option.map_some, valid]
  rfl

theorem withDefault_of_lookup {others : List String} {assumed a : α}
    (found : entries.lookup name = some value) (valid : decode value = .valid a) :
    withDefault (name :: others) assumed decode entries = .valid a := by
  simp only [withDefault, findField?, List.findSome?, found, Option.map_some, valid]
  rfl

theorem withDefault_of_absent {assumed : α} (absent : entries.lookup name = none) :
    withDefault [name] assumed decode entries = .valid assumed := by
  simp only [withDefault, findField?, List.findSome?, absent, Option.map_none]

theorem mapOf_eq_valid {results : List (String × α)}
    (each : List.Forall₂ (fun entry result => entry.1 = result.1 ∧ decode entry.2 = .valid result.2)
      entries results) : mapOf decode (.map entries) = .valid results := by
  have from_ (position : Nat) : Checked.each
      (fun _ entry => (Prod.mk entry.1 <$> decode entry.2).within (.key entry.1)) position entries =
        .valid results := by
    induction each generalizing position with
    | nil => rfl
    | @cons entry result entries results first _ ih =>
      obtain ⟨name, value⟩ := entry
      obtain ⟨same, valid⟩ := first
      cases same
      rw [Checked.each, ih, valid]
      rfl
  exact from_ 0

end Decoder

/-! ## Reading bindings -/

theorem FieldBinding.read_of_lookup {entries : Entries} {field : FieldBinding}
    (column : entries.lookup "column" = some (.text field.column))
    (type : entries.lookup "type" = some (.text field.type))
    (dimensions : entries.lookup "dimensions" = field.dimensions.map .int)
    (metric : entries.lookup "similarity" = field.metric.map fun metric => .text metric.name) :
    read (.map entries) = .valid field := by
  have sized : Decoder.withDefault ["dimensions"] none (Decoder.optional Decoder.integer) entries =
      .valid field.dimensions := by
    cases same : field.dimensions with
    | none => exact Decoder.withDefault_of_absent (by rw [dimensions, same, Option.map_none])
    | some n =>
      exact Decoder.withDefault_of_lookup (by rw [dimensions, same, Option.map_some]) rfl
  -- An entry that is left out stands for none, and one that is there is read by its name.
  have measured : Decoder.withDefault ["similarity"] none
      (Decoder.optional (Decoder.textAmong .notMember Metric.ofName?)) entries =
        .valid field.metric := by
    cases same : field.metric with
    | none => exact Decoder.withDefault_of_absent (by rw [metric, same, Option.map_none])
    | some m =>
      refine Decoder.withDefault_of_lookup (by rw [metric, same, Option.map_some]) ?_
      simp only [Decoder.optional, Decoder.textAmong, Metric.ofName?_name]
      rfl
  rw [read, Decoder.record, Decoder.required_of_lookup column (Decoder.text_text _),
    Decoder.withDefault_of_lookup type (Decoder.text_text _), sized, measured]
  rfl

theorem Binding.read_of_lookup {entries : Entries} {fields : List (String × FieldBinding)}
    {schema table keyColumn : String} {bound : Value}
    (schema_ : entries.lookup "schema" = some (.text schema))
    (table_ : entries.lookup "table" = some (.text table))
    (keyColumn_ : entries.lookup "pkey" = some (.text keyColumn))
    (fields_ : entries.lookup "fields" = some bound)
    (read_ : Decoder.mapOf FieldBinding.read bound = .valid fields) :
    read (.map entries) = .valid { schema, table, keyColumn, fields } := by
  rw [read, Decoder.record, Decoder.withDefault_of_lookup schema_ (Decoder.text_text _),
    Decoder.required_of_lookup table_ (Decoder.text_text _),
    Decoder.withDefault_of_lookup keyColumn_ (Decoder.text_text _),
    Decoder.withDefault_of_lookup fields_ read_]
  rfl

/-- A stored field is read back, in whatever order its parts are given. -/
theorem FieldBinding.read_of_reordered {field : FieldBinding} {given : Value}
    (same : field.toValue.Reordered given) : read given = .valid field := by
  obtain ⟨others, rfl, reordered⟩ := same.exists_entries
  -- What is left out of the stored form must be missing in the given one, too.
  refine read_of_lookup (reordered.lookup_text rfl) (reordered.lookup_text rfl) ?_ ?_
  · cases same : field.dimensions with
    | none =>
      refine reordered.lookup_eq_none ?_
      rw [same]
      cases field.metric <;> rfl
    | some n =>
      refine reordered.lookup_int ?_
      rw [same]
      rfl
  · cases same : field.metric with
    | none =>
      refine reordered.lookup_eq_none ?_
      rw [same]
      cases field.dimensions <;> rfl
    | some m =>
      refine reordered.lookup_text ?_
      rw [same]
      cases field.dimensions <;> rfl

namespace Binding

def storedFields (binding : Binding) : Entries :=
  binding.fields.map fun entry => (entry.1, entry.2.toValue)

theorem toValue_eq (binding : Binding) :
    binding.toValue = .map
      [("schema", .text binding.schema), ("table", .text binding.table),
       ("pkey", .text binding.keyColumn), ("fields", .map binding.storedFields)] := rfl

theorem keys_storedFields (binding : Binding) :
    binding.storedFields.map (·.1) = binding.fields.map (·.1) := List.map_map

theorem lookup_storedFields {binding : Binding} (names : (binding.fields.map (·.1)).Nodup)
    {name : String} {field : FieldBinding} (mem : (name, field) ∈ binding.fields) :
    binding.storedFields.lookup name = some field.toValue := by
  rw [← keys_storedFields] at names
  exact lookup_of_mem names (List.mem_map.mpr ⟨_, mem, rfl⟩)

/-- The stored form of a binding is read as the binding itself. -/
theorem read_toValue (binding : Binding) : read binding.toValue = .valid binding := by
  have fields : Decoder.mapOf FieldBinding.read (.map binding.storedFields) =
      .valid binding.fields := by
    refine Decoder.mapOf_eq_valid ?_
    rw [storedFields, List.forall₂_map_left_iff, List.forall₂_same]
    exact fun entry _ => ⟨rfl, FieldBinding.read_of_reordered (.refl _)⟩
  exact read_of_lookup rfl rfl rfl rfl fields

end Binding

/-! ## Bindings with the same fields -/

/-- Bindings that differ at most in the order of their fields. -/
structure Binding.Rearranged (binding other : Binding) : Prop where
  schema : other.schema = binding.schema
  table : other.table = binding.table
  keyColumn : other.keyColumn = binding.keyColumn
  fields : binding.fields.Perm other.fields

namespace Binding.Rearranged

variable {binding other : Binding}

theorem refl (binding : Binding) : binding.Rearranged binding := ⟨rfl, rfl, rfl, .refl _⟩

theorem symm (same : binding.Rearranged other) : other.Rearranged binding :=
  ⟨same.schema.symm, same.table.symm, same.keyColumn.symm, same.fields.symm⟩

theorem trans {third : Binding} (left : binding.Rearranged other)
    (right : other.Rearranged third) : binding.Rearranged third :=
  ⟨right.schema.trans left.schema, right.table.trans left.table,
    right.keyColumn.trans left.keyColumn, left.fields.trans right.fields⟩

/-- The stored forms of bindings that differ in the order of their fields do so, too. -/
theorem reordered (same : binding.Rearranged other) (names : (binding.fields.map (·.1)).Nodup) :
    binding.toValue.Reordered other.toValue := by
  have fields : (Value.map binding.storedFields).Reordered (.map other.storedFields) := by
    refine .map ?_ fun key value given found here => ?_
    · rw [Binding.keys_storedFields, Binding.keys_storedFields]
      exact same.fields.map _
    · obtain ⟨⟨name, field⟩, mem, stored⟩ := List.mem_map.mp (mem_of_lookup found)
      cases stored
      have distinct := (same.fields.map (·.1)).nodup_iff.mp names
      rw [Binding.lookup_storedFields distinct (same.fields.mem_iff.mp mem)] at here
      cases here
      exact .refl _
  -- Apart from the fields both forms have the same texts at the same places.
  rw [Binding.toValue_eq, Binding.toValue_eq]
  refine .map (.refl _) fun key value given found here => ?_
  have mem := mem_of_lookup found
  simp only [List.mem_cons, List.not_mem_nil, or_false, Prod.mk.injEq] at mem
  rcases mem with ⟨rfl, rfl⟩ | ⟨rfl, rfl⟩ | ⟨rfl, rfl⟩ | ⟨rfl, rfl⟩
  · cases here
    exact same.schema ▸ .refl _
  · cases here
    exact same.table ▸ .refl _
  · cases here
    exact same.keyColumn ▸ .refl _
  · cases here
    exact fields

end Binding.Rearranged

/-- Entries of which each is found among others, and which have the same keys, are these others. -/
theorem perm_of_keys_perm {α : Type} {entries others : List (String × α)}
    (distinct : (entries.map (·.1)).Nodup) (keys : (entries.map (·.1)).Perm (others.map (·.1)))
    (inside : ∀ other ∈ others, other ∈ entries) : entries.Perm others := by
  have unrepeated : others.Nodup := List.Nodup.of_map _ (keys.nodup_iff.mp distinct)
  have length : entries.length = others.length := by simpa using keys.length_eq
  exact ((List.subperm_of_subset unrepeated inside).perm_of_length_le (Nat.le_of_eq length)).symm

/-- A stored binding is read back, in whatever order its parts are given, up to the order of its
fields. -/
theorem Binding.exists_read_of_reordered {binding : Binding} {given : Value}
    (names : (binding.fields.map (·.1)).Nodup) (reordered : binding.toValue.Reordered given) :
    ∃ reloaded, read given = .valid reloaded ∧ binding.Rearranged reloaded := by
  rw [toValue_eq] at reordered
  obtain ⟨parts, rfl, parted⟩ := reordered.exists_entries
  obtain ⟨bound, found, same⟩ := parted.kept "fields" _ rfl
  obtain ⟨entries, rfl, permuted⟩ := same.exists_entries
  have keys : (binding.fields.map (·.1)).Perm (entries.map (·.1)) := by
    have keys := permuted.keys
    rwa [keys_storedFields] at keys
  -- Under each key stands the stored form of the field with that name.
  have stored : ∀ entry ∈ entries, ∃ field : String × FieldBinding,
      field ∈ binding.fields ∧ entry.1 = field.1 ∧ FieldBinding.read entry.2 = .valid field.2 := by
    intro entry mem
    have named : entry.1 ∈ binding.fields.map (·.1) := keys.mem_iff.mpr (List.mem_map_of_mem mem)
    obtain ⟨⟨name, field⟩, inside, same⟩ := List.mem_map.mp named
    obtain ⟨given, here, form⟩ := permuted.kept name _ (lookup_storedFields names inside)
    have own := lookup_of_mem (keys.nodup_iff.mp names) mem
    rw [← same, here] at own
    cases own
    exact ⟨(name, field), inside, same.symm, FieldBinding.read_of_reordered form⟩
  -- Read in the given order, these are all fields, since no name is missing or repeated.
  obtain ⟨fields, each⟩ := exists_forall₂ stored
  have sameKeys : entries.map (·.1) = fields.map (·.1) :=
    map_eq_map_of_forall₂ each fun _ _ both => both.2.1
  have inside : ∀ field ∈ fields, field ∈ binding.fields := by
    intro field mem
    obtain ⟨entry, -, bound, -⟩ := exists_mem_of_forall₂ each.flip mem
    exact bound
  refine ⟨_, read_of_lookup (parted.lookup_text rfl) (parted.lookup_text rfl)
    (parted.lookup_text rfl) found
    (Decoder.mapOf_eq_valid (each.imp fun _ _ both => both.2)), rfl, rfl, rfl, ?_⟩
  exact perm_of_keys_perm names (sameKeys ▸ keys) inside

/-! ## Stored texts -/

/-- What is stored of a field has no real numbers, and its only integer is the number of
dimensions. -/
theorem FieldBinding.isExact_toValue {P : Int → Prop} {field : FieldBinding}
    (sized : ∀ n, field.dimensions = some n → P n) : field.toValue.IsExact P := by
  obtain ⟨column, type, dimensions, metric⟩ := field
  refine .map ?_ ?_
  · cases dimensions <;> cases metric <;> simp
  · cases dimensions with
    | none => cases metric <;> simp [Value.IsExact.text]
    | some n =>
      have size : Value.IsExact P (.int n) := .int (sized n rfl)
      cases metric <;> simp [Value.IsExact.text, size]

namespace Binding

/-- A binding without a number of dimensions that is too long to be read. -/
def IsReadable (binding : Binding) : Prop :=
  ∀ field ∈ binding.fields, ∀ n, field.2.dimensions = some n → Json.IsShort n

variable {binding : Binding} (names : (binding.fields.map (·.1)).Nodup)

include names

theorem isExact_toValue {P : Int → Prop}
    (sized : ∀ field ∈ binding.fields, ∀ n, field.2.dimensions = some n → P n) :
    binding.toValue.IsExact P := by
  have fields : (Value.map binding.storedFields).IsExact P := by
    refine .map (by rwa [keys_storedFields]) fun entry mem => ?_
    obtain ⟨field, inside, rfl⟩ := List.mem_map.mp mem
    exact FieldBinding.isExact_toValue (sized field inside)
  rw [toValue_eq]
  refine .map (by simp) fun entry mem => ?_
  simp only [List.mem_cons, List.not_mem_nil, or_false] at mem
  rcases mem with rfl | rfl | rfl | rfl
  · exact .text _
  · exact .text _
  · exact .text _
  · exact fields

/-- The text under which a binding is stored is that of its stored form. -/
theorem write_toValue : Json.write Json.bindingStyle binding.toValue = .ok binding.toJson := by
  have exact_ : binding.toValue.IsExact fun _ => True :=
    isExact_toValue names fun _ _ _ _ => trivial
  obtain ⟨text, written⟩ : ∃ text, Json.write Json.bindingStyle binding.toValue = .ok text :=
    Json.exists_write exact_.isJson fun _ _ => Json.exists_writeInteger nofun
  rw [toJson, written]

end Binding

/-! ## Rows of the table of bindings -/

/-- A row of the table of bindings is read from its two columns. -/
theorem Registry.bindingOfRow_eq_ok {row : Row} {indexId : String} {binding : Binding} :
    bindingOfRow row = .ok (indexId, binding) ↔
      ∃ stored config, row.column "config" = .ok stored ∧ Json.decode stored = .ok config ∧
        Binding.read config = .valid binding ∧ row.column "id" = .ok (.text indexId) := by
  have checked {config : Value} {binding : Binding} :
      Failure.ofChecked (Binding.read config) = .ok binding ↔
        Binding.read config = .valid binding := by
    cases Binding.read config <;> simp [Failure.ofChecked]
  simp only [bindingOfRow, bind_eq_ok, Failure.ofConversion, mapError_eq_ok, checked]
  constructor
  · rintro ⟨stored, kept, config, decoded, other, read, id, given, same⟩
    split at same
    next =>
      cases same
      exact ⟨stored, config, kept, decoded, read, given⟩
    next => cases same
  · rintro ⟨stored, config, kept, decoded, read, given⟩
    exact ⟨stored, kept, config, decoded, binding, read, _, given, rfl⟩

end TableSearch
