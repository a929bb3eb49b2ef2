import TableSearch.Proofs.Index.Projection
import TableSearch.Proofs.Session.Progress
import TableSearch.Index.Registry

/-!
# Created indexes

The creation of an index reads its schema, checks that one field is the primary key, and
leaves a binding in the session.  The columns of this binding bear the names of the fields,
so the column of every field is the field's name, and the key field is the one that the
schema marks.
-/

namespace TableSearch

open Operation

variable {σ α β : Type}

/-! ## The binding that is left -/

@[simp] theorem lookup_insertEntry (key : String) (value : α) (entries : List (String × α)) :
    (insertEntry key value entries).lookup key = some value := by
  induction entries with
  | nil => rw [insertEntry, List.lookup_cons_self]
  | cons entry entries ih =>
    obtain ⟨first, old⟩ := entry
    rw [insertEntry]
    split
    next => exact List.lookup_cons_self
    next other =>
      rw [List.lookup_cons, beq_eq_false_iff_ne.mpr (Ne.symm other)]
      exact ih

theorem lookup_insertEntry_of_ne {key name : String} (value : α) {entries : List (String × α)}
    (other : name ≠ key) : (insertEntry key value entries).lookup name = entries.lookup name := by
  have apart : (name == key) = false := beq_eq_false_iff_ne.mpr other
  induction entries with
  | nil => rw [insertEntry, List.lookup_cons, apart]
  | cons entry entries ih =>
    obtain ⟨first, old⟩ := entry
    rw [insertEntry]
    split
    next same => rw [List.lookup_cons, List.lookup_cons, same, apart]
    next => rw [List.lookup_cons, List.lookup_cons, ih]

namespace Registry

theorem readSchema_eq_ok {schema : Entries} {fields : IndexSchema}
    (read : readSchema (.map schema) = .ok fields) :
    fields.map (·.1) = schema.map (·.1) := by
  refine (map_eq_map_of_forall₂ (mapM_eq_ok.mp read) ?_).symm
  rintro ⟨name, value⟩ field found
  simp only [bind_eq_ok, pure_eq_ok] at found
  obtain ⟨field, -, rfl⟩ := found
  rfl

variable [World σ]

theorem createIndex_eq_ok {registry : Registry} {indexId schemaName : String} {schema : Value}
    {session after : Session σ}
    (created : perform (registry.createIndex indexId schemaName schema) session = (.ok (), after)) :
    ∃ fields key, readSchema schema = .ok fields ∧ fields.key = .ok key ∧
      after.bindings.lookup indexId = some (fields.binding schemaName indexId key) := by
  simp only [createIndex, save, perform_bind_eq_ok, perform_ofExcept_eq_ok] at created
  obtain ⟨fields, _, ⟨read, -⟩, key, _, ⟨keyed, -⟩, _, ready, -, _, typed, -, _, table, -,
    _, vectors, -, _, saved, ⟨_, _, -, _, _, -, _, stored, -, remembered⟩, logged⟩ := created
  refine ⟨fields, key, read, mapError_eq_ok.mp keyed, ?_⟩
  cases remembered
  cases logged
  exact lookup_insertEntry _ _ _

end Registry

/-! ## Names and columns -/

@[simp] theorem FieldBinding.column_ofSchema (name : String) (field : FieldSchema) :
    (FieldBinding.ofSchema name field).column = name := by
  cases field <;> rfl

namespace IndexSchema

variable {fields : IndexSchema} {schemaName indexId key name : String}

theorem map_fields_binding :
    (fields.binding schemaName indexId key).fields.map (·.1) = fields.map (·.1) := by
  rw [binding, List.map_map]
  rfl

theorem field?_binding {field : FieldSchema} (distinct : (fields.map (·.1)).Nodup)
    (mem : (name, field) ∈ fields) :
    (fields.binding schemaName indexId key).field? name = some (.ofSchema name field) := by
  refine lookup_of_mem ?_ (List.mem_map.mpr ⟨(name, field), mem, rfl⟩)
  rw [map_fields_binding]
  exact distinct

theorem exists_field {bound : FieldBinding}
    (found : (fields.binding schemaName indexId key).field? name = some bound) :
    ∃ field, (name, field) ∈ fields ∧ bound = .ofSchema name field := by
  obtain ⟨⟨_, field⟩, inside, same⟩ := List.mem_map.mp (mem_of_lookup found)
  cases same
  exact ⟨field, inside, rfl⟩

theorem columnFor_binding (name : String) :
    (fields.binding schemaName indexId key).columnFor name = name := by
  rw [Binding.columnFor]
  split
  next bound found =>
    obtain ⟨field, -, rfl⟩ := exists_field found
    exact FieldBinding.column_ofSchema name field
  next => rfl

theorem keys_of_key (found : fields.key = .ok key) : fields.keys = [key] := by
  rw [IndexSchema.key] at found
  split at found
  next => cases found
  next same =>
    cases found
    exact same
  next => cases found

theorem eq_key (found : fields.key = .ok key) {field : FieldSchema} (mem : (name, field) ∈ fields)
    (marked : field.isKey = true) : name = key := by
  have inside : name ∈ fields.keys :=
    List.mem_map.mpr ⟨(name, field), List.mem_filter.mpr ⟨mem, marked⟩, rfl⟩
  rw [keys_of_key found] at inside
  exact List.mem_singleton.mp inside

theorem keyField_binding :
    (fields.binding schemaName indexId key).keyField = key := by
  rw [Binding.keyField]
  split
  next name bound first =>
    obtain ⟨field, -, same⟩ := List.mem_map.mp (List.mem_of_find?_eq_some first)
    cases same
    simpa [binding] using List.find?_some first
  next => rfl

theorem mem_projectedFields {included : Option Include}
    (mem : name ∈ (fields.binding schemaName indexId key).projectedFields included) :
    ∃ field, (name, field) ∈ fields := by
  -- Whatever is wanted, no name is projected but those of bound fields.
  have ofAll (every : name ∈ ((fields.binding schemaName indexId key).fields.map (·.1)).filter
      (· != Binding.scoreName)) : ∃ field, (name, field) ∈ fields := by
    have named := (List.mem_filter.mp every).1
    rw [map_fields_binding] at named
    obtain ⟨⟨_, field⟩, inside, rfl⟩ := List.mem_map.mp named
    exact ⟨field, inside⟩
  cases included with
  | none => exact ofAll mem
  | some wanted =>
    cases wanted with
    | every wanted =>
      cases wanted with
      | false => cases mem
      | true => exact ofAll mem
    | named names =>
      obtain ⟨-, bound⟩ := Bool.and_eq_true_iff.mp (List.mem_filter.mp mem).2
      obtain ⟨bound, found⟩ := Option.isSome_iff_exists.mp bound
      obtain ⟨field, inside, -⟩ := exists_field found
      exact ⟨field, inside⟩

end IndexSchema

/-! ## What a binding does for a schema -/

/-- A binding whose columns bear the names of the fields that they store. -/
structure Binding.Serves (binding : Binding) (fields : IndexSchema) : Prop where
  distinct : (fields.map (·.1)).Nodup
  column : ∀ name, binding.columnFor name = name
  field : ∀ name field, (name, field) ∈ fields → binding.field? name = some (.ofSchema name field)
  projected : ∀ included, ∀ name ∈ binding.projectedFields included, ∃ field, (name, field) ∈ fields
  key : binding.keyField = binding.keyColumn
  marked : ∀ name field, (name, field) ∈ fields → field.isKey = true → name = binding.keyColumn

/-- The binding of a created index serves the fields of its schema. -/
theorem Registry.serves_of_createIndex [World σ] {registry : Registry} {indexId schemaName : String}
    {schema : Entries} {fields : IndexSchema} {binding : Binding} {session after : Session σ}
    (unrepeated : (schema.map (·.1)).Nodup)
    (created : perform (registry.createIndex indexId schemaName (.map schema)) session =
      (.ok (), after))
    (read : readSchema (.map schema) = .ok fields)
    (found : after.bindings.lookup indexId = some binding) : binding.Serves fields := by
  obtain ⟨others, key, same, keyed, remembered⟩ := createIndex_eq_ok created
  cases read.symm.trans same
  cases found.symm.trans remembered
  have distinct : (fields.map (·.1)).Nodup := readSchema_eq_ok read ▸ unrepeated
  exact {
    distinct
    column := IndexSchema.columnFor_binding
    field := fun _ _ => IndexSchema.field?_binding distinct
    projected := fun _ _ => IndexSchema.mem_projectedFields
    key := IndexSchema.keyField_binding
    marked := fun _ _ => IndexSchema.eq_key keyed }

end TableSearch
