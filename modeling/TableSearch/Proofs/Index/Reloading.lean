import TableSearch.Proofs.Index.Creation
import TableSearch.Proofs.Index.Following
import TableSearch.Proofs.Index.OwnColumns
import TableSearch.Proofs.Index.StoredForm
import TableSearch.Proofs.Index.Storing
import TableSearch.Session.Script

/-!
# Bindings that are loaded again

The store keeps the entries of a binding, but not their order.  A binding that comes back with
its fields in another order has the same key field and decodes rows to the same documents.  It
reports the same vector field only if there is nothing to choose from: of several vector fields
the first one counts, and which one is first is up to the store.
-/

namespace TableSearch

open Operation

/-! ## Fields in another order -/

namespace Binding

/-- A binding without a field for its key column calls the key by the name of that column. -/
theorem keyField_of_absent {binding : Binding}
    (absent : ∀ entry ∈ binding.fields, entry.2.column ≠ binding.keyColumn) :
    binding.keyField = binding.keyColumn := by
  have none : binding.fields.find? (·.2.column == binding.keyColumn) = none :=
    List.find?_eq_none.mpr fun entry mem => by simpa using absent entry mem
  rw [keyField, none]

namespace Rearranged

variable {binding other : Binding} (same : binding.Rearranged other)
  (names : (binding.fields.map (·.1)).Nodup)

include same

theorem keyField (columns : (binding.fields.map (·.2.column)).Nodup) :
    other.keyField = binding.keyField := by
  by_cases absent : ∀ entry ∈ binding.fields, entry.2.column ≠ binding.keyColumn
  · have others : ∀ entry ∈ other.fields, entry.2.column ≠ other.keyColumn := fun entry mem =>
      same.keyColumn ▸ absent entry (same.fields.mem_iff.mpr mem)
    rw [keyField_of_absent absent, keyField_of_absent others, same.keyColumn]
  · push Not at absent
    obtain ⟨⟨name, field⟩, mem, key⟩ := absent
    have own := eq_keyField columns mem key
    have others := eq_keyField ((same.fields.map _).nodup_iff.mp columns)
      (same.fields.mem_iff.mp mem) (key.trans same.keyColumn.symm)
    exact others.symm.trans own

include names

theorem field? (name : String) : other.field? name = binding.field? name :=
  lookup_eq_of_perm names same.fields name

theorem mem_projectedFields {included : Option Include} {name : String} :
    name ∈ other.projectedFields included ↔ name ∈ binding.projectedFields included := by
  have every : name ∈ (other.fields.map (·.1)).filter (· != scoreName) ↔
      name ∈ (binding.fields.map (·.1)).filter (· != scoreName) := by
    rw [List.mem_filter, List.mem_filter, (same.fields.map _).mem_iff]
  match included with
  | none => exact every
  | some (.every true) => exact every
  | some (.every false) => exact Iff.rfl
  | some (.named wanted) => simp only [projectedFields, same.field? names]

theorem projectField (columns : (binding.fields.map (·.2.column)).Nodup) (row : Row)
    (name : String) : Hit.projectField other row name = Hit.projectField binding row name := by
  rw [Hit.projectField, Hit.projectField, same.keyField columns, same.field? names]

end Rearranged

end Binding

/-! ## Documents as mappings -/

namespace Hit

/-- Hits that differ at most in the order in which their documents list the fields. -/
structure Agrees (hit other : Hit) : Prop where
  id : other.id = hit.id
  index : other.index = hit.index
  score : other.score = hit.score
  isSome_document : other.document.isSome = hit.document.isSome
  document : ∀ name, (other.document.getD []).lookup name = (hit.document.getD []).lookup name

theorem name_of_projectField {binding : Binding} {row : Row} {name : String}
    {entry : String × Value} (found : projectField binding row name = .ok (some entry)) :
    entry.1 = name := by
  unfold projectField at found
  split at found
  next =>
    simp only [bind_eq_ok, pure_eq_ok, Option.some.injEq] at found
    obtain ⟨_, -, rfl⟩ := found
    rfl
  next =>
    split at found
    next => cases found
    next =>
      split at found
      next => cases found
      next =>
        simp only [bind_eq_ok, pure_eq_ok, Option.some.injEq] at found
        obtain ⟨_, -, rfl⟩ := found
        rfl

variable {binding other : Binding} {row : Row} {included : Option Include}

theorem exists_documentEntries :
    (∃ document, documentEntries row (some binding) included = .ok document) ↔
      ∀ name ∈ binding.projectedFields included,
        ∃ found, projectField binding row name = .ok found := by
  simp only [documentEntries, bind_eq_ok, pure_eq_ok]
  constructor
  · rintro ⟨_, found, read, -⟩ name mem
    obtain ⟨entry, -, here⟩ := exists_mem_of_forall₂ (mapM_eq_ok.mp read) mem
    exact ⟨entry, here⟩
  · intro each
    obtain ⟨found, both⟩ := exists_forall₂ each
    exact ⟨_, found, mapM_eq_ok.mpr both, rfl⟩

/-- A document holds what the projected fields are read as. -/
theorem lookup_documentEntries {document : Entries}
    (read : documentEntries row (some binding) included = .ok document) {name : String}
    {value : Value} :
    document.lookup name = some value ↔
      name ∈ binding.projectedFields included ∧
        projectField binding row name = .ok (some (name, value)) := by
  simp only [documentEntries, bind_eq_ok, pure_eq_ok] at read
  obtain ⟨found, each, same⟩ := read
  have both := mapM_eq_ok.mp each
  obtain ⟨-, keys, kept⟩ : (document.map (·.1)).Nodup ∧
      (∀ name, name ∈ document.map (·.1) ↔
        name ∈ ([] : Entries).map (·.1) ∨ name ∈ (found.filterMap fun entry => entry).map (·.1)) ∧
      ∀ entry ∈ document, entry ∈ [] ∨ entry ∈ found.filterMap fun entry => entry := by
    subst same
    exact collect _ [] List.nodup_nil
  -- Repeated names do not matter: all entries with one name come from the same projection.
  have origin {name : String} {value : Value} (here : document.lookup name = some value) :
      name ∈ binding.projectedFields included ∧
        projectField binding row name = .ok (some (name, value)) := by
    have mem := (kept _ (mem_of_lookup here)).resolve_left List.not_mem_nil
    obtain ⟨_, inside, rfl⟩ := List.mem_filterMap.mp mem
    obtain ⟨wanted, projected, here⟩ := exists_mem_of_forall₂ both.flip inside
    obtain rfl : name = wanted := name_of_projectField here
    exact ⟨projected, here⟩
  refine ⟨origin, ?_⟩
  rintro ⟨projected, here⟩
  obtain ⟨entry, inside, again⟩ := exists_mem_of_forall₂ both projected
  cases here.symm.trans again
  have mem : (name, value) ∈ found.filterMap fun entry => entry :=
    List.mem_filterMap.mpr ⟨_, inside, rfl⟩
  have key := (keys name).mpr (.inr (List.mem_map_of_mem mem))
  obtain ⟨given, present⟩ := Option.isSome_iff_exists.mp (isSome_lookup_iff.mpr key)
  cases here.symm.trans (origin present).2
  exact present

theorem isEmpty_iff_lookup {document : Entries} :
    document.isEmpty = true ↔ ∀ name, document.lookup name = none := by
  cases document with
  | nil => exact ⟨fun _ _ => rfl, fun _ => rfl⟩
  | cons entry document =>
    refine ⟨nofun, fun absent => ?_⟩
    have found : (entry :: document).lookup entry.1 = some entry.2 := List.lookup_cons_self
    cases (absent entry.1).symm.trans found

/-- A row is decoded to the same hit, whatever the order of the fields is. -/
theorem agrees_of_rearranged (same : binding.Rearranged other)
    (names : (binding.fields.map (·.1)).Nodup) (columns : (binding.fields.map (·.2.column)).Nodup)
    {index : String} {hit : Hit} (decoded : ofRow row index (some binding) included = .ok hit) :
    ∃ hit', ofRow row index (some other) included = .ok hit' ∧ hit.Agrees hit' := by
  simp only [ofRow, bind_eq_ok, pure_eq_ok] at decoded
  obtain ⟨document, read, key, keyed, score, scored, rfl⟩ := decoded
  obtain ⟨document', read'⟩ :
      ∃ document', documentEntries row (some other) included = .ok document' := by
    refine exists_documentEntries.mpr fun name projected => ?_
    rw [same.projectField names columns]
    have projected := (same.mem_projectedFields names).mp projected
    exact exists_documentEntries.mp ⟨document, read⟩ name projected
  have lookups (name : String) : document'.lookup name = document.lookup name := by
    refine Option.ext fun value => ?_
    rw [lookup_documentEntries read', lookup_documentEntries read, same.mem_projectedFields names,
      same.projectField names columns]
  -- An empty document is left out of its hit, and lookups tell whether it is empty.
  have empty : document'.isEmpty = document.isEmpty := by
    rw [Bool.eq_iff_iff, isEmpty_iff_lookup, isEmpty_iff_lookup]
    simp only [lookups]
  rw [ofRow, read', keyed, scored]
  refine ⟨_, rfl, rfl, rfl, rfl, ?_, fun name => ?_⟩
  · simp only [empty]
    split <;> rfl
  · simp only [empty]
    split
    next => rfl
    next => exact lookups name

end Hit

/-! ## The vector field -/

namespace Binding

variable {binding : Binding}

theorem vectorField?_eq_none :
    binding.vectorField? = none ↔ ∀ entry ∈ binding.fields, entry.2.isVector = false := by
  simp [vectorField?]

theorem mem_of_vectorField? {field : FieldBinding} (first : binding.vectorField? = some field) :
    ∃ name, (name, field) ∈ binding.fields ∧ field.isVector = true := by
  obtain ⟨⟨name, _⟩, mem, rfl⟩ := List.mem_map.mp (List.mem_of_find?_eq_some first)
  exact ⟨name, mem, List.find?_some first⟩

theorem exists_rearranged_first {entry : String × FieldBinding} (mem : entry ∈ binding.fields)
    (vector : entry.2.isVector = true) :
    ∃ other, binding.Rearranged other ∧ other.vectorField? = some entry.2 := by
  refine ⟨{ binding with fields := entry :: binding.fields.erase entry },
    ⟨rfl, rfl, rfl, List.perm_cons_erase mem⟩, ?_⟩
  simp only [vectorField?, List.map_cons, List.find?_cons, vector]

/-- What is said about the vector field is the same for every order of the fields exactly if it
is the same for all vector fields. -/
theorem forall_rearranged_vectorField?_iff {γ : Type} (f : FieldBinding → Option γ) :
    (∀ other, binding.Rearranged other →
        other.vectorField?.bind f = binding.vectorField?.bind f) ↔
      ∀ left ∈ binding.fields, ∀ right ∈ binding.fields, left.2.isVector = true →
        right.2.isVector = true → f left.2 = f right.2 := by
  constructor
  · intro same left leftMem right rightMem leftVector rightVector
    -- Either field can be the first one, and both orders are compared with the given one.
    obtain ⟨first, rearranged, leftFirst⟩ := exists_rearranged_first leftMem leftVector
    obtain ⟨second, rearranged', rightFirst⟩ := exists_rearranged_first rightMem rightVector
    have left := same first rearranged
    have right := same second rearranged'
    rw [leftFirst, Option.bind_some] at left
    rw [rightFirst, Option.bind_some] at right
    exact left.trans right.symm
  · intro agree other rearranged
    cases first : binding.vectorField? with
    | none =>
      have none : other.vectorField? = none := vectorField?_eq_none.mpr fun entry mem =>
        vectorField?_eq_none.mp first entry (rearranged.fields.mem_iff.mpr mem)
      rw [none]
    | some field =>
      obtain ⟨name, mem, vector⟩ := mem_of_vectorField? first
      cases found : other.vectorField? with
      | none =>
        have scalar := vectorField?_eq_none.mp found _ (rearranged.fields.mem_iff.mp mem)
        cases vector.symm.trans scalar
      | some field' =>
        obtain ⟨name', mem', vector'⟩ := mem_of_vectorField? found
        exact agree _ (rearranged.fields.mem_iff.mpr mem') _ mem vector' vector

/-- What is true of a binding in every order of its fields is true of it however it is stored. -/
theorem forall_reloaded_iff {P : Binding → Prop} (names : (binding.fields.map (·.1)).Nodup) :
    (∀ config reloaded, binding.toValue.Reordered config → read config = .valid reloaded →
        P reloaded) ↔
      ∀ other, binding.Rearranged other → P other := by
  constructor
  · -- A binding in another order is read from its own stored form.
    intro each other rearranged
    exact each _ other (rearranged.reordered names) (read_toValue other)
  · intro each config reloaded reordered found
    obtain ⟨other, read, rearranged⟩ := exists_read_of_reordered names reordered
    cases found.symm.trans read
    exact each _ rearranged

def reported (binding : Binding) : Option Int × Option Metric :=
  (binding.vectorField?.bind (·.dimensions), binding.vectorField?.bind (·.metric))

/-- The report is the same for every order of the fields exactly if all vector fields agree. -/
theorem forall_rearranged_reported_iff :
    (∀ other, binding.Rearranged other → other.reported = binding.reported) ↔
      ∀ left ∈ binding.fields, ∀ right ∈ binding.fields, left.2.isVector = true →
        right.2.isVector = true →
          left.2.dimensions = right.2.dimensions ∧ left.2.metric = right.2.metric := by
  simp only [reported, Prod.mk.injEq, forall_and]
  rw [forall_rearranged_vectorField?_iff, forall_rearranged_vectorField?_iff]

end Binding

/-! ## Created indexes -/

namespace IndexSchema

variable {fields : IndexSchema} {schemaName indexId key name : String}

theorem map_columns_binding :
    (fields.binding schemaName indexId key).fields.map (·.2.column) = fields.map (·.1) := by
  rw [binding, List.map_map]
  exact List.map_congr_left fun entry _ => FieldBinding.column_ofSchema _ _

theorem mem_vectors_binding {bound : FieldBinding} :
    (name, bound) ∈ (fields.binding schemaName indexId key).fields ∧ bound.isVector = true ↔
      ∃ dimensions metric isKey, (name, .vector dimensions metric isKey) ∈ fields ∧
        bound = .ofSchema name (.vector dimensions metric isKey) := by
  constructor
  · rintro ⟨mem, vector⟩
    obtain ⟨⟨_, field⟩, inside, same⟩ := List.mem_map.mp mem
    cases same
    cases field with
    | vector dimensions metric isKey => exact ⟨dimensions, metric, isKey, inside, rfl⟩
    | scalar type isKey =>
      rw [FieldBinding.isVector_scalar] at vector
      cases vector
  · rintro ⟨dimensions, metric, isKey, inside, rfl⟩
    exact ⟨List.mem_map.mpr ⟨_, inside, rfl⟩, rfl⟩

def HasUniformVectors (fields : IndexSchema) : Prop :=
  ∀ name dimensions metric isKey, (name, FieldSchema.vector dimensions metric isKey) ∈ fields →
    ∀ name' dimensions' metric' isKey',
      (name', FieldSchema.vector dimensions' metric' isKey') ∈ fields →
        dimensions = dimensions' ∧ metric = metric'

theorem hasUniformVectors_iff :
    fields.HasUniformVectors ↔
      ∀ other, (fields.binding schemaName indexId key).Rearranged other →
        other.reported = (fields.binding schemaName indexId key).reported := by
  rw [Binding.forall_rearranged_reported_iff]
  constructor
  · rintro uniform ⟨name, left⟩ leftMem ⟨name', right⟩ rightMem leftVector rightVector
    obtain ⟨n, m, k, mem, rfl⟩ := mem_vectors_binding.mp ⟨leftMem, leftVector⟩
    obtain ⟨n', m', k', mem', rfl⟩ := mem_vectors_binding.mp ⟨rightMem, rightVector⟩
    obtain ⟨rfl, rfl⟩ := uniform _ _ _ _ mem _ _ _ _ mem'
    exact ⟨rfl, rfl⟩
  · intro agree name n m k mem name' n' m' k' mem'
    obtain ⟨left, leftVector⟩ := mem_vectors_binding.mpr ⟨n, m, k, mem, rfl⟩
    obtain ⟨right, rightVector⟩ := mem_vectors_binding.mpr ⟨n', m', k', mem', rfl⟩
    obtain ⟨dimensions, metric⟩ := agree _ left _ right leftVector rightVector
    exact ⟨Int.ofNat.inj (Option.some.inj dimensions), Option.some.inj metric⟩

end IndexSchema

namespace Registry

variable {σ : Type} [World σ]

/-- What a description reports about vectors is said by the binding. -/
theorem describe_reported {registry : Registry} {indexId : String} {stats : IndexStats}
    {session after : Session σ} (ready : session.ready = true)
    (described : perform (registry.describe indexId) session = (.ok stats, after)) :
    ∃ binding, session.bindings.lookup indexId = some binding ∧
      (stats.dimensions, stats.metric) = binding.reported := by
  simp only [describe, perform_bind_eq_ok, registry.perform_ensureReady ready,
    perform_requireBinding_eq_ok] at described
  obtain ⟨_, _, same, binding, _, ⟨bound, -⟩, _, _, -, _, _, -, _, _, -, _, _, -, told⟩ := described
  cases same
  cases told
  exact ⟨binding, bound, rfl⟩

/-- The binding of a created index comes back with the same key field and decodes rows to the
same hits, in whatever order the store returns its keys.  A description gives the report of the
binding that is known at the time, and the report is the same for every order exactly if the
vector fields of the schema do not differ. -/
theorem reloaded_binding {registry : Registry} {indexId schemaName : String} {schema : Entries}
    {session after : Session σ} (unrepeated : (schema.map (·.1)).Nodup)
    (created : perform (registry.createIndex indexId schemaName (.map schema)) session =
      (.ok (), after)) :
    ∃ fields binding, readSchema (.map schema) = .ok fields ∧
      after.bindings.lookup indexId = some binding ∧
      (∀ row stored config, row.column "id" = .ok (.text indexId) →
        row.column "config" = .ok stored → Json.decode stored = .ok config →
        binding.toValue.Reordered config →
        ∃ reloaded, bindingOfRow row = .ok (indexId, reloaded) ∧
          reloaded.keyField = binding.keyField ∧
          ∀ found index included,
            (∀ hit, Hit.ofRow found index (some binding) included = .ok hit →
              ∃ hit', Hit.ofRow found index (some reloaded) included = .ok hit' ∧
                hit.Agrees hit') ∧
            (∀ hit, Hit.ofRow found index (some reloaded) included = .ok hit →
              ∃ hit', Hit.ofRow found index (some binding) included = .ok hit' ∧
                hit.Agrees hit')) ∧
      (∀ (current later : Session σ) stats, current.ready = true →
        perform (registry.describe indexId) current = (.ok stats, later) →
        ∃ known, current.bindings.lookup indexId = some known ∧
          (stats.dimensions, stats.metric) = known.reported) ∧
      ((∀ config reloaded, binding.toValue.Reordered config →
          Binding.read config = .valid reloaded → reloaded.reported = binding.reported) ↔
        fields.HasUniformVectors) := by
  obtain ⟨fields, key, read, -, remembered⟩ := createIndex_eq_ok created
  have distinct : (fields.map (·.1)).Nodup := readSchema_eq_ok read ▸ unrepeated
  have names : ((fields.binding schemaName indexId key).fields.map (·.1)).Nodup :=
    IndexSchema.map_fields_binding ▸ distinct
  have columns : ((fields.binding schemaName indexId key).fields.map (·.2.column)).Nodup :=
    IndexSchema.map_columns_binding ▸ distinct
  refine ⟨fields, _, read, remembered, fun row stored config id kept decoded reordered => ?_,
    fun _ _ _ ready described => describe_reported ready described, ?_⟩
  · obtain ⟨reloaded, given, same⟩ := Binding.exists_read_of_reordered names reordered
    have loaded := bindingOfRow_eq_ok.mpr ⟨stored, config, kept, decoded, given, id⟩
    refine ⟨reloaded, loaded, same.keyField columns, fun found index included => ⟨?_, ?_⟩⟩
    · exact fun hit decoded => Hit.agrees_of_rearranged same names columns decoded
    -- The loaded binding has the same fields in another order, so the converse has its conditions,
    -- too.
    · have names' := (same.fields.map _).nodup_iff.mp names
      have columns' := (same.fields.map _).nodup_iff.mp columns
      exact fun hit decoded => Hit.agrees_of_rearranged same.symm names' columns' decoded
  · rw [Binding.forall_reloaded_iff names, ← IndexSchema.hasUniformVectors_iff]

/-- For example, with one vector field there is nothing to choose from. -/
theorem reloaded_binding_one_vector :
    let schema : Entries :=
      [("id", .map [("type", .text "string"), ("pk", .bool true)]),
        ("vec", .map [("type", .text "vector"), ("dimensions", .int 3)])]
    let session : Session Script := { world := {}, ready := true }
    ∃ after binding stats later,
      perform (createIndex {} "docs" "public" (.map schema)) session = (.ok (), after) ∧
      after.bindings.lookup "docs" = some binding ∧
      perform (describe {} "docs") after = (.ok stats, later) ∧
      (stats.dimensions, stats.metric) = (some 3, some .cosine) ∧
      ∀ config reloaded, binding.toValue.Reordered config →
        Binding.read config = .valid reloaded → reloaded.reported = (some 3, some .cosine) := by
  intro schema session
  let outcome := perform (createIndex {} "docs" "public" (.map schema)) session
  have created : outcome = (.ok (), outcome.2) := Prod.ext rfl rfl
  obtain ⟨fields, binding, read, bound, -, describes, reports⟩ := reloaded_binding (by decide) created
  have known : readSchema (.map schema) =
      .ok [("id", .scalar ⟨.string, false⟩ true), ("vec", .vector 3 .cosine false)] := rfl
  cases known.symm.trans read
  obtain ⟨_, same, reported⟩ : ∃ known, outcome.2.bindings.lookup "docs" = some known ∧
      known.reported = (some 3, some .cosine) := ⟨_, rfl, rfl⟩
  cases bound.symm.trans same
  obtain ⟨stats, later, described⟩ :
      ∃ stats later, perform (describe {} "docs") outcome.2 = (.ok stats, later) := ⟨_, _, rfl⟩
  obtain ⟨known, found, told⟩ := describes _ _ _ rfl described
  cases bound.symm.trans found
  have uniform : IndexSchema.HasUniformVectors
      [("id", .scalar ⟨.string, false⟩ true), ("vec", .vector 3 .cosine false)] := by
    intro name n m k mem name' n' m' k' mem'
    simp only [List.mem_cons, Prod.mk.injEq, reduceCtorEq, and_false, false_or, List.not_mem_nil,
      or_false, FieldSchema.vector.injEq] at mem mem'
    obtain ⟨-, rfl, rfl, -⟩ := mem
    obtain ⟨-, rfl, rfl, -⟩ := mem'
    exact ⟨rfl, rfl⟩
  refine ⟨_, binding, stats, later, created, bound, described, told.trans reported,
    fun config reloaded reordered read => ?_⟩
  rw [reports.mpr uniform config reloaded reordered read, reported]

/-- With two different vector fields the report can change, although nothing was written. -/
theorem reloaded_binding_two_vectors :
    let fields : IndexSchema :=
      [("id", .scalar ⟨.string, false⟩ true), ("title_vec", .vector 3 .cosine false),
        ("body", .vector 768 .dotProduct false)]
    let binding := fields.binding "public" "docs" "id"
    binding.reported = (some 3, some .cosine) ∧
      ∃ config reloaded, binding.toValue.Reordered config ∧
        Binding.read config = .valid reloaded ∧
        reloaded.reported = (some 768, some .dotProduct) := by
  intro fields binding
  let other : Binding :=
    { binding with
      fields := [("id", .ofSchema "id" (.scalar ⟨.string, false⟩ true)),
        ("body", .ofSchema "body" (.vector 768 .dotProduct false)),
        ("title_vec", .ofSchema "title_vec" (.vector 3 .cosine false))] }
  have rearranged : binding.Rearranged other := ⟨rfl, rfl, rfl, .cons _ (.swap _ _ _)⟩
  exact ⟨rfl, other.toValue, other, rearranged.reordered (by decide), other.read_toValue, rfl⟩

end Registry

end TableSearch
