import TableSearch.Proofs.Index.Changes
import TableSearch.Proofs.Index.StoredForm
import TableSearch.Session.Script

/-!
# The table of bindings

The rows of the table of bindings, and what a database is taken to do to them: `BindingTable`
lists this for the statements of a registry that initializes itself and then creates, binds and
deletes indexes.  From it follows what a call that creates, binds or deletes an index does to the
rows when it succeeds.
-/

namespace TableSearch

open Sql Operation

/-! ## Rows -/

structure BindingRow where
  id : String
  backend : String
  config : String
deriving DecidableEq, Repr

namespace BindingRow

def isOwn (row : BindingRow) : Bool := row.backend == backendId

/-- Inserts a row, or changes the configuration alone of the row that has its id. -/
def store (id config : String) : List BindingRow → List BindingRow
  | [] => [⟨id, backendId, config⟩]
  | row :: rows =>
    if row.id = id then { row with config } :: rows else row :: store id config rows

def remove (id : String) (rows : List BindingRow) : List BindingRow := rows.filter (·.id != id)

/-- The binding that is read from a row, for a store that shows a configuration as some value. -/
def Holds (shown : String → Value) (row : BindingRow) (binding : Binding) : Prop :=
  ∃ config, Json.decode (shown row.config) = .ok config ∧ Binding.read config = .valid binding

theorem Holds.unique {shown : String → Value} {row : BindingRow} {binding other : Binding}
    (left : row.Holds shown binding) (right : row.Holds shown other) : binding = other := by
  obtain ⟨config, decoded, read⟩ := left
  obtain ⟨_, again, read'⟩ := right
  cases decoded.symm.trans again
  cases read.symm.trans read'
  rfl

variable {id config : String} {row : BindingRow} {rows : List BindingRow}

theorem map_id_store : (store id config rows).map (·.id) =
    if id ∈ rows.map (·.id) then rows.map (·.id) else rows.map (·.id) ++ [id] := by
  induction rows with
  | nil => rfl
  | cons first rows ih =>
    rw [store]
    by_cases same : first.id = id
    · have inside : id ∈ (first :: rows).map (·.id) := List.mem_cons.mpr (.inl same.symm)
      rw [if_pos same, if_pos inside]
      rfl
    · have apart : id ∈ (first :: rows).map (·.id) ↔ id ∈ rows.map (·.id) := by
        rw [List.map_cons, List.mem_cons, or_iff_right (Ne.symm same)]
      rw [if_neg same, List.map_cons, ih]
      simp only [apart]
      split <;> rfl

theorem nodup_store (distinct : (rows.map (·.id)).Nodup) :
    ((store id config rows).map (·.id)).Nodup := by
  rw [map_id_store]
  split
  next => exact distinct
  next new =>
    refine List.nodup_append.mpr ⟨distinct, List.nodup_singleton _, fun other mem _ last => ?_⟩
    rw [List.mem_singleton.mp last]
    exact fun same => new (same ▸ mem)

/-- A stored row keeps its backend, or is a new one of this library. -/
theorem mem_store (distinct : (rows.map (·.id)).Nodup) (mem : row ∈ store id config rows) :
    (row.id ≠ id ∧ row ∈ rows) ∨
      (row.id = id ∧ row.config = config ∧
        (row.isOwn = true ∨ ∃ old ∈ rows, old.id = id ∧ old.backend = row.backend)) := by
  induction rows with
  | nil =>
    cases List.mem_singleton.mp mem
    exact .inr ⟨rfl, rfl, .inl rfl⟩
  | cons first rows ih =>
    obtain ⟨new, distinct⟩ := List.nodup_cons.mp distinct
    rw [store] at mem
    split at mem
    next same =>
      -- The row found first is the only one with the id, so the rest is apart from it.
      rcases List.mem_cons.mp mem with rfl | inside
      · exact .inr ⟨same, rfl, .inr ⟨first, List.mem_cons_self, same, rfl⟩⟩
      · refine .inl ⟨fun other => new ?_, List.mem_cons_of_mem _ inside⟩
        exact List.mem_map.mpr ⟨row, inside, other.trans same.symm⟩
    next other =>
      rcases List.mem_cons.mp mem with rfl | inside
      · exact .inl ⟨other, List.mem_cons_self⟩
      · rcases ih distinct inside with ⟨apart, kept⟩ | ⟨same, config, own | ⟨old, mem, named⟩⟩
        · exact .inl ⟨apart, List.mem_cons_of_mem _ kept⟩
        · exact .inr ⟨same, config, .inl own⟩
        · exact .inr ⟨same, config, .inr ⟨old, List.mem_cons_of_mem _ mem, named⟩⟩

theorem mem_store_of_ne (mem : row ∈ rows) (other : row.id ≠ id) : row ∈ store id config rows := by
  induction rows with
  | nil => cases mem
  | cons first rows ih =>
    rw [store]
    split
    next same =>
      rcases List.mem_cons.mp mem with rfl | inside
      · exact absurd same other
      · exact List.mem_cons_of_mem _ inside
    next =>
      rcases List.mem_cons.mp mem with rfl | inside
      · exact List.mem_cons_self
      · exact List.mem_cons_of_mem _ (ih inside)

theorem exists_mem_store : ∃ row ∈ store id config rows, row.id = id := by
  have named : id ∈ (store id config rows).map (·.id) := by
    rw [map_id_store]
    split
    next inside => exact inside
    next => exact List.mem_append_right _ (List.mem_singleton_self id)
  exact List.mem_map.mp named

def others (rows : List BindingRow) : List BindingRow := rows.filter fun row => !row.isOwn

/-- The rows of others are kept unless one of them has the id of the stored row. -/
theorem others_store (own : ∀ row ∈ rows, row.id = id → row.isOwn = true) :
    others (store id config rows) = others rows := by
  induction rows with
  | nil => rfl
  | cons first rows ih =>
    rw [store]
    split
    next same =>
      have mine : first.isOwn = true := own first List.mem_cons_self same
      have still : ({ first with config } : BindingRow).isOwn = true := mine
      simp [others, mine, still]
    next =>
      have rest := ih fun row mem => own row (List.mem_cons_of_mem _ mem)
      simp only [others, List.filter_cons] at rest ⊢
      rw [rest]

theorem others_remove (own : ∀ row ∈ rows, row.id = id → row.isOwn = true) :
    others (remove id rows) = others rows := by
  rw [others, remove, List.filter_filter, others]
  refine List.filter_congr fun row mem => ?_
  by_cases same : row.id = id
  · simp [own row mem same]
  · simp [same]

theorem mem_remove : row ∈ remove id rows ↔ row ∈ rows ∧ row.id ≠ id := by
  rw [remove, List.mem_filter, bne_iff_ne]

theorem nodup_remove (distinct : (rows.map (·.id)).Nodup) :
    ((remove id rows).map (·.id)).Nodup :=
  distinct.sublist (List.filter_sublist.map _)

end BindingRow

def Change.write (rows : List BindingRow) : Change → List BindingRow
  | bind indexId binding => BindingRow.store indexId binding.toJson rows
  | release indexId => BindingRow.remove indexId rows

/-! ## The database -/

variable {σ : Type} [World σ]

def Accepts (statement : Statement) (world : σ) (result : ResultSet) (next : σ) : Prop :=
  World.execute statement world = (.ok result, next)

/-- A store shows the text of a value without real numbers as that value, except for the order of
keys.  What it shows of other texts is left open. -/
structure ShowsTexts (shown : String → Value) : Prop where
  kept : ∀ {value config : Value} {text : String}, value.IsExact (fun _ => True) →
    Json.write Json.bindingStyle value = .ok text → Json.decode (shown text) = .ok config →
      value.Reordered config
  readable : ∀ {value : Value} {text : String}, value.IsExact Json.IsShort →
    Json.write Json.bindingStyle value = .ok text → ∃ config, Json.decode (shown text) = .ok config

theorem ShowsTexts.text : ShowsTexts .text where
  kept exact_ written decoded := by
    cases Json.eq_of_read_write Json.bindingStyle_separates exact_.isJson written decoded
    exact .refl _
  readable exact_ written :=
    ⟨_, Json.read_write_of_short Json.bindingStyle_separates exact_.isJson
      (Json.oversized_not_mem_spelled exact_) written⟩

namespace ShowsTexts

variable {shown : String → Value} (faithful : ShowsTexts shown) {binding : Binding}
  (names : (binding.fields.map (·.1)).Nodup) {row : BindingRow}
  (written : row.config = binding.toJson)

include faithful names

/-- What is shown of a written binding is read as the binding, up to the order of its fields. -/
theorem exists_read {config : Value}
    (decoded : Json.decode (shown binding.toJson) = .ok config) :
    ∃ reloaded, Binding.read config = .valid reloaded ∧ binding.Rearranged reloaded :=
  Binding.exists_read_of_reordered names <|
    faithful.kept (Binding.isExact_toValue names fun _ _ _ _ => trivial)
      (Binding.write_toValue names) decoded

include written

theorem rearranged {other : Binding} (holds : row.Holds shown other) :
    binding.Rearranged other := by
  obtain ⟨config, decoded, read⟩ := holds
  obtain ⟨reloaded, again, same⟩ := faithful.exists_read names (written ▸ decoded)
  cases read.symm.trans again
  exact same

theorem exists_holds (short : binding.IsReadable) : ∃ other, row.Holds shown other := by
  obtain ⟨config, decoded⟩ :=
    faithful.readable (Binding.isExact_toValue names short) (Binding.write_toValue names)
  obtain ⟨reloaded, read, -⟩ := faithful.exists_read names decoded
  exact ⟨reloaded, config, written ▸ decoded, read⟩

end ShowsTexts

/-- What a database does to the rows of the table of bindings, if it is there, with each of the
accepted statements of a registry.  It shows a stored configuration as some value. -/
structure BindingTable (table : TableName) (rows : σ → Option (List BindingRow))
    (shown : String → Value) : Prop where
  hook : ∀ world, rows (World.runHook world).2 = rows world
  createExtension : ∀ {world result next}, Accepts .createExtension world result next →
    rows next = rows world
  createSchema : ∀ {schema world result next}, Accepts (.createSchema schema) world result next →
    rows next = rows world
  createRegistry : ∀ {world result next}, Accepts (.createRegistry table) world result next →
    rows next = some ((rows world).getD [])
  /-- All rows of this library are listed, in any order. -/
  loadBindings : ∀ {world result next}, Accepts (.loadBindings table) world result next →
    rows next = rows world ∧ ∃ listed : List BindingRow,
      listed.Perm (((rows world).getD []).filter (·.isOwn)) ∧
      result.columns = some ["id", "config"] ∧
      result.rows = listed.map fun row => [.text row.id, shown row.config]
  storeBinding : ∀ {indexId config createdAt world result next},
    Accepts (.storeBinding table indexId config createdAt) world result next →
      ∃ before, rows world = some before ∧ rows next = some (BindingRow.store indexId config before)
  forgetBinding : ∀ {indexId world result next},
    Accepts (.forgetBinding table indexId) world result next →
      ∃ before, rows world = some before ∧ rows next = some (BindingRow.remove indexId before)
  /-- A table that is there is not created again. -/
  createTable : ∀ {created fields world result next},
    Accepts (.createTable created fields) world result next →
      ∀ before, rows world = some before → rows next = some before
  createIndex : ∀ {indexed column metric world result next},
    Accepts (.createIndex indexed column metric) world result next → rows next = rows world
  /-- The dropped table may be this one. -/
  dropTable : ∀ {dropped world result next}, Accepts (.dropTable dropped) world result next →
    rows next = none ∨ rows next = rows world
  shown : ShowsTexts shown

/-! ## Accepted statements -/

theorem accepts_of_run {statement : Statement} {outcome : Outcome} {session after : Session σ}
    (done : perform (run statement) session = (.ok outcome, after)) :
    after = session.executed statement ∧ ∃ result,
      Accepts statement session.world result after.world ∧
        Outcome.ofResult result = .ok outcome := by
  rw [perform_run, Prod.mk.injEq] at done
  obtain ⟨accepted, rfl⟩ := done
  refine ⟨rfl, ?_⟩
  cases answer : (World.execute statement session.world).1 with
  | error message =>
    rw [answer] at accepted
    cases accepted
  | ok result =>
    rw [answer, Answer.outcome_ok] at accepted
    exact ⟨result, Prod.ext answer rfl, mapError_eq_ok.mp accepted⟩

theorem accepts_of_run_ {statement : Statement} {session after : Session σ}
    (done : perform (run_ statement) session = (.ok (), after)) :
    after = session.executed statement ∧ ∃ result,
      Accepts statement session.world result after.world := by
  unfold run_ at done
  obtain ⟨outcome, _, ran, same⟩ := perform_bind_eq_ok.mp done
  cases same
  obtain ⟨executed, result, accepted, -⟩ := accepts_of_run ran
  exact ⟨executed, result, accepted⟩

namespace BindingTable

variable {registry : Registry} {rows : σ → Option (List BindingRow)} {shown : String → Value}
  (laws : BindingTable registry.table rows shown) {session after : Session σ}

include laws

theorem save {indexId : String} {binding : Binding} {before : List BindingRow}
    (saved : perform (registry.save indexId binding) session = (.ok (), after))
    (there : rows session.world = some before) :
    rows after.world = some (BindingRow.store indexId binding.toJson before) := by
  simp only [Registry.save, perform_bind_eq_ok] at saved
  obtain ⟨_, _, same, createdAt, _, converted, _, stored, written, remembered⟩ := saved
  cases same
  rw [ofConversion, perform_ofExcept_eq_ok] at converted
  obtain ⟨-, rfl⟩ := converted
  obtain ⟨-, result, accepted⟩ := accepts_of_run_ written
  obtain ⟨old, found, next⟩ := laws.storeBinding accepted
  cases there.symm.trans found
  cases remembered
  exact next

theorem createIndexes {table : TableName} {columns : List (String × Metric)}
    (created : perform (Registry.createIndexes table columns) session = (.ok (), after)) :
    rows after.world = rows session.world := by
  induction columns generalizing session with
  | nil =>
    cases created
    rfl
  | cons column columns ih =>
    obtain ⟨_, middle, first, rest⟩ := perform_bind_eq_ok.mp created
    obtain ⟨-, result, accepted⟩ := accepts_of_run_ first
    rw [ih rest, laws.createIndex accepted]

theorem rows_bind {indexId : String} {binding : Binding} {before : List BindingRow}
    (ready : session.ready = true) (there : rows session.world = some before)
    (done : perform (registry.bind indexId binding) session = (.ok (), after)) :
    rows after.world = some (BindingRow.store indexId binding.toJson before) := by
  simp only [Registry.bind, perform_bind_eq_ok, registry.perform_ensureReady ready] at done
  obtain ⟨_, _, same, _, stored, saved, logged⟩ := done
  cases same
  have written := laws.save saved there
  cases logged
  exact written

theorem rows_createIndex {indexId schemaName : String} {schema : Value} {before : List BindingRow}
    (ready : session.ready = true) (there : rows session.world = some before)
    (done : perform (registry.createIndex indexId schemaName schema) session = (.ok (), after)) :
    ∃ binding, Registry.newBinding? indexId schemaName schema = some binding ∧
      rows after.world = some (BindingRow.store indexId binding.toJson before) := by
  simp only [Registry.createIndex, perform_bind_eq_ok, ofConversion, perform_ofExcept_eq_ok] at done
  obtain ⟨fields, _, ⟨read, rfl⟩, key, _, ⟨keyed, rfl⟩, _, prepared, same, _, _, ⟨-, rfl⟩, _,
    created, table, _, indexed, vectors, _, stored, saved, logged⟩ := done
  rw [registry.perform_ensureReady ready] at same
  cases same
  obtain ⟨-, result, accepted⟩ := accepts_of_run_ table
  -- Neither the new table nor its vector indexes touch the rows, and then the binding is saved.
  have there := laws.createTable accepted before there
  rw [← laws.createIndexes vectors] at there
  have written := laws.save saved there
  cases logged
  exact ⟨_, Registry.newBinding?_eq_some read (mapError_eq_ok.mp keyed), written⟩

theorem rows_delete {indexId : String} {before : List BindingRow} (ready : session.ready = true)
    (there : rows session.world = some before)
    (done : perform (registry.delete indexId) session = (.ok (), after)) :
    rows after.world = some (BindingRow.remove indexId before) := by
  simp only [Registry.delete, perform_bind_eq_ok, registry.perform_ensureReady ready,
    Registry.perform_requireBinding_eq_ok] at done
  obtain ⟨_, _, same, binding, _, ⟨-, rfl⟩, _, dropped, drop, _, removed, remove, _, _, forget,
    logged⟩ := done
  cases same
  obtain ⟨-, result, droppedTable⟩ := accepts_of_run_ drop
  obtain ⟨-, result, forgotten⟩ := accepts_of_run_ remove
  obtain ⟨old, found, next⟩ := laws.forgetBinding forgotten
  -- Had the dropped table been that of the bindings, there were no row to be deleted.
  have nonempty : rows dropped.world ≠ none := by rw [found]; exact Option.some_ne_none _
  have kept := (laws.dropTable droppedTable).resolve_left nonempty
  cases there.symm.trans (kept.symm.trans found)
  cases forget
  cases logged
  exact next

/-- A call that creates, binds or deletes an index changes the rows as it changes the known
bindings, if it succeeds. -/
theorem step {call : Call} {change : Change} {before : List BindingRow}
    (asked : call.change? = some change) (ready : session.ready = true)
    (there : rows session.world = some before)
    (done : perform (call.operation registry) session = (.ok (), after)) :
    rows after.world = some (change.write before) := by
  cases call with
  | createIndex indexId schemaName schema =>
    obtain ⟨binding, made, written⟩ := laws.rows_createIndex ready there done
    rw [Call.change?, made] at asked
    cases asked
    exact written
  | bindIndex indexId binding =>
    cases asked
    exact laws.rows_bind ready there done
  | bindValue indexId value =>
    simp only [Call.operation, Registry.bindValue, perform_bind_eq_ok, ofChecked,
      perform_ofExcept_eq_ok] at done
    obtain ⟨binding, _, ⟨read, rfl⟩, done⟩ := done
    rw [Call.change?, read] at asked
    cases asked
    exact laws.rows_bind ready there done
  | deleteIndex indexId =>
    cases asked
    exact laws.rows_delete ready there done
  | startup | shutdown | describeIndex | listIndexes | nextPage | query | upsert | patch | delete =>
    cases asked

end BindingTable

end TableSearch
