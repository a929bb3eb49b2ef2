import Mathlib.Data.List.TakeWhile
import TableSearch.Proofs.Index.Assignments
import TableSearch.Proofs.Index.Refusing
import TableSearch.Proofs.Query.Naming

/-!
# The statements that are sent

Every statement that a registry or a handle sends is written from the arguments of its call and from
the binding of its index.  `Call.Asks` and `Call.Writes` say which names of theirs it has, and where
they stand when its text is read; `Call.statements_read` says that no other statement is ever sent,
whatever the names are.
-/

namespace TableSearch

open Sql Operation

/-! ## Bindings of handles -/

/-- The binding with which a handle works: the one that is known for its index, or else one by
convention.  By convention the index is called like its table; what stands in front of its first
point is the name of the schema, unless there is nothing in front of it or behind it. -/
inductive Binding.IsFor (known : List (String × Binding)) (indexId : String) : Binding → Prop where
  | known {binding : Binding} (found : known.lookup indexId = some binding) :
      IsFor known indexId binding
  | divided {schema table : String} (unbound : known.lookup indexId = none)
      (parts : indexId = schema ++ "." ++ table) (first : '.' ∉ schema.toList)
      (front : schema ≠ "") (behind : table ≠ "") : IsFor known indexId { schema, table }
  | whole (unbound : known.lookup indexId = none)
      (undivided : ∀ schema table, indexId = schema ++ "." ++ table → '.' ∉ schema.toList →
        schema = "" ∨ table = "") : IsFor known indexId { table := indexId }

namespace Binding

variable {known : List (String × Binding)} {indexId : String}

theorem locate_of_parts {schema table : String} (parts : indexId = schema ++ "." ++ table)
    (first : '.' ∉ schema.toList) :
    locate indexId =
      if schema.toList.isEmpty || table.toList.isEmpty then (standardSchema, indexId)
      else (schema, table) := by
  have letters : indexId.toList = schema.toList ++ '.' :: table.toList := by simp [parts]
  have front : indexId.toList.takeWhile (· != '.') = schema.toList := by
    have before : ∀ c ∈ schema.toList, (c != '.') = true := fun c mem =>
      bne_iff_ne.mpr fun same => first (same ▸ mem)
    rw [letters, List.takeWhile_append_of_pos before]
    simp
  have behind : (indexId.toList.drop schema.toList.length).drop 1 = table.toList := by
    rw [letters, List.drop_left]
    rfl
  simp only [locate, front, behind, String.ofList_toList]

theorem locate_of_undivided
    (undivided : ∀ schema table, indexId = schema ++ "." ++ table → '.' ∉ schema.toList →
      schema = "" ∨ table = "") : locate indexId = (standardSchema, indexId) := by
  by_cases divided : '.' ∈ indexId.toList
  · obtain ⟨front, behind, letters, first⟩ := List.eq_append_cons_of_mem divided
    have parts : indexId = String.ofList front ++ "." ++ String.ofList behind := by
      rw [← String.toList_inj, letters]
      simp
    have none := undivided _ _ parts (by simpa using first)
    rw [locate_of_parts parts (by simpa using first), if_pos]
    simpa using none
  · have all : indexId.toList.takeWhile (· != '.') = indexId.toList :=
      List.takeWhile_eq_self_iff.mpr fun c mem =>
        bne_iff_ne.mpr fun same => divided (same ▸ mem)
    simp [locate, all]

theorem isFor_current (known : List (String × Binding)) (indexId : String) :
    IsFor known indexId (current known indexId) := by
  unfold current
  cases found : known.lookup indexId with
  | some binding => exact .known found
  | none =>
    rw [Option.getD_none, byConvention]
    by_cases divided : ∃ schema table, (indexId = schema ++ "." ++ table ∧ '.' ∉ schema.toList) ∧
        schema ≠ "" ∧ table ≠ ""
    · obtain ⟨schema, table, ⟨parts, first⟩, front, behind⟩ := divided
      rw [locate_of_parts parts first, if_neg (by simpa using ⟨front, behind⟩)]
      exact .divided found parts first front behind
    · have undivided : ∀ schema table, indexId = schema ++ "." ++ table → '.' ∉ schema.toList →
          schema = "" ∨ table = "" := by
        intro schema table parts first
        by_contra both
        exact divided ⟨schema, table, ⟨parts, first⟩, not_or.mp both⟩
      rw [locate_of_undivided undivided]
      exact .whole found undivided

theorem IsFor.eq_of_lookup {binding other : Binding} (isFor : IsFor known indexId other)
    (found : known.lookup indexId = some binding) : other = binding := by
  cases isFor with
  | known found' => exact Option.some.inj (found'.symm.trans found)
  | divided unbound | whole unbound => cases unbound.symm.trans found

end Binding

variable {σ α : Type} [World σ]

/-! ## What calls ask for -/

namespace Call

def stores? : Call → Option String
  | createIndex indexId _ _ | bindIndex indexId _ | bindValue indexId _ => some indexId
  | _ => none

/-- The statements that a call of a registry with certain bindings asks for, apart from searches.
Schemas, tables and columns are those of its arguments and of the binding that it works with. -/
inductive Asks (registry : Registry) (known : List (String × Binding)) :
    Call → Statement → Prop where
  | createTable {indexId schemaName : String} {entries : Entries} {fields : IndexSchema}
      (each : fields.IsReadFrom entries) :
      Asks registry known (.createIndex indexId schemaName (.map entries))
        (.createTable ⟨schemaName, indexId⟩ fields)
  | createVectorIndex {indexId schemaName name : String} {entries : Entries} {fields : IndexSchema}
      {dimensions : Nat} {metric : Metric} {isKey : Bool} (each : fields.IsReadFrom entries)
      (mem : (name, .vector dimensions metric isKey) ∈ fields) :
      Asks registry known (.createIndex indexId schemaName (.map entries))
        (.createIndex ⟨schemaName, indexId⟩ name metric)
  | storeBinding {call : Call} {indexId config : String} {createdAt : Int}
      (stores : call.stores? = some indexId) :
      Asks registry known call
        (.storeBinding ⟨registry.schema, "search_indexes"⟩ indexId config createdAt)
  | countRows {indexId : String} {binding : Binding}
      (found : known.lookup indexId = some binding) :
      Asks registry known (.describeIndex indexId) (.countRows ⟨binding.schema, binding.table⟩)
  | tableSize {indexId : String} {binding : Binding}
      (found : known.lookup indexId = some binding) :
      Asks registry known (.describeIndex indexId) (.tableSize ⟨binding.schema, binding.table⟩)
  | dropTable {indexId : String} {binding : Binding}
      (found : known.lookup indexId = some binding) :
      Asks registry known (.deleteIndex indexId) (.dropTable ⟨binding.schema, binding.table⟩)
  | forgetBinding {indexId : String} :
      Asks registry known (.deleteIndex indexId)
        (.forgetBinding ⟨registry.schema, "search_indexes"⟩ indexId)
  | listIndexes {value : Value} {params : PageParams} {limit : Nat}
      (given : PageParams.read value = .valid params) :
      Asks registry known (.listIndexes value)
        (.listIndexes ⟨registry.schema, "search_indexes"⟩ params.start params.cursor limit)
  | nextPage {page : Page IndexSummary} {limit : Nat} :
      Asks registry known (.nextPage page)
        (.listIndexes ⟨registry.schema, "search_indexes"⟩ page.params.start page.response.next
          limit)
  | upsert {indexId : String} {input : Value} {batch : List Entries} {binding : Binding}
      {column : String → String} {names : List String} {rows : List (List Cell)}
      (listed : input.toThings = .ok (batch.map .map)) (isFor : binding.IsFor known indexId)
      (means : ∀ field, Binding.Means (some binding) field (column field))
      (named : names = ((Document.keysOf batch).filter (· != binding.keyField)).eraseDups)
      (encoded : (batch.map Value.map).mapM (Document.row binding names) = .ok rows) :
      Asks registry known (.upsert indexId input)
        (.upsert ⟨binding.schema, binding.table⟩ binding.keyColumn (names.map column) rows)
  | update {indexId key : String} {input : Value} {patches : List Value} {entries : Entries}
      {binding : Binding} {column : String → String} {changes : List (String × Cell)}
      (listed : input.toThings = .ok patches) (mem : .map entries ∈ patches)
      (isFor : binding.IsFor known indexId)
      (means : ∀ field, Binding.Means (some binding) field (column field))
      (set : List.Forall₂ (fun entry change => change.1 = column entry.1 ∧
        Cell.ofField binding entry.1 entry.2 = .ok change.2)
          (Document.changed binding entries) changes) :
      Asks registry known (.patch indexId input)
        (.update ⟨binding.schema, binding.table⟩ binding.keyColumn changes key)
  | delete {indexId : String} {input : Value} {keys : List Value} {binding : Binding}
      (listed : input.toThings = .ok keys) (isFor : binding.IsFor known indexId) :
      Asks registry known (.delete indexId input)
        (.delete ⟨binding.schema, binding.table⟩ binding.keyColumn keys)

/-- The bindings that a registry knows when a call does its own work, with the initialization of the
registry behind it. -/
def known (registry : Registry) (before : Session σ) : List (String × Binding) :=
  (perform registry.ensureReady before).2.bindings

/-- The statements that a call sends from a session, each with the tokens that its text is meant to
have. -/
inductive Writes (registry : Registry) (before : Session σ) :
    Call → Statement → List Token → Prop where
  /-- With its first use a registry initializes itself. -/
  | opening {call : Call} {statement : Statement} {tokens : List Token}
      (fresh : before.ready = false) (mem : .statement statement ∈ registry.preparation)
      (skeleton : statement.skeleton? = some tokens) : Writes registry before call statement tokens
  | asked {call : Call} {statement : Statement} {tokens : List Token}
      (asks : call.Asks registry (known registry before) statement)
      (skeleton : statement.skeleton? = some tokens) : Writes registry before call statement tokens
  | searched {indexId : String} {input : QueryInput} {q : SearchQuery} {tree : Option Filter}
      {binding : Binding} {column : String → String} {search : Search} {clause : Clause}
      (normalized : SearchQuery.normalize input = .ok q) (parsed : q.tree = .ok tree)
      (isFor : binding.IsFor (known registry before) indexId)
      (means : ∀ field, Binding.Means (some binding) field (column field))
      (accepted : Search.ofBinding q binding = .ok search) (written : search.clause = .ok clause) :
      Writes registry before (.query indexId input) (.search clause)
        (q.tokens ⟨binding.schema, binding.table⟩ binding.keyColumn (some binding) column tree)

/-- A statement that a call sends from a session, and whose text is read as it is meant. -/
def IsRead (registry : Registry) (before : Session σ) (call : Call) (statement : Statement) :
    Prop :=
  ∃ tokens, call.Writes registry before statement tokens ∧
    Fragment.Spells statement.clause.fragment tokens

theorem Asks.isRead {registry : Registry} {before : Session σ} {call : Call} {statement : Statement}
    (asks : call.Asks registry (known registry before) statement) {tokens : List Token}
    (skeleton : statement.skeleton? = some tokens) : call.IsRead registry before statement :=
  ⟨tokens, .asked asks skeleton, Statement.skeleton_spells skeleton⟩

end Call

/-! ## Registries that are ready -/

/-- An operation that sends only statements with a property when its registry is ready and knows
certain bindings. -/
def SendsKnowing (P : Statement → Prop) (known : List (String × Binding)) (action : Operation σ α) :
    Prop :=
  ∀ session : Session σ, session.ready = true → session.bindings = known →
    Sent P session (perform action session).2

namespace SendsKnowing

variable {β : Type} {P : Statement → Prop} {known : List (String × Binding)}

omit [World σ] in
theorem of_sends {action : Operation σ α} (sends : Sends P action) : SendsKnowing P known action :=
  fun session _ _ => sends session

omit [World σ] in
theorem discard {action : Operation σ α} (sends : SendsKnowing P known action) :
    SendsKnowing P known (Functor.discard action) := by
  intro session ready knows
  rw [perform_discard]
  exact sends session ready knows

omit [World σ] in
theorem bind_ofExcept {result : Except Failure α} {next : α → Operation σ β}
    (rest : ∀ a, result = .ok a → SendsKnowing P known (next a)) :
    SendsKnowing P known (ofExcept result >>= next) := by
  intro session ready knows
  rw [perform_bind, perform_ofExcept]
  cases result with
  | ok a => exact rest a rfl session ready knows
  | error failure => exact (isProgress_sent P).refl session

theorem bind_ensureReady {registry : Registry} {next : Unit → Operation σ β}
    (rest : SendsKnowing P known (next ())) :
    SendsKnowing P known (registry.ensureReady >>= next) := by
  intro session ready knows
  rw [perform_bind, registry.perform_ensureReady ready]
  exact rest session ready knows

omit [World σ] in
theorem bind_requireBinding {indexId : String} {next : Binding → Operation σ β}
    (rest : ∀ binding, known.lookup indexId = some binding → Sends P (next binding)) :
    SendsKnowing P known (Registry.requireBinding indexId >>= next) := by
  rintro session ready rfl
  rw [perform_bind, Registry.perform_requireBinding]
  cases found : session.bindings.lookup indexId with
  | some binding => exact rest binding found session
  | none => exact (isProgress_sent P).refl session

end SendsKnowing

namespace Registry

variable {P : Statement → Prop}

omit [World σ] in
theorem sends_remember (indexId : String) (binding : Binding) :
    Sends P (remember indexId binding : Operation σ Unit) := Sends.modify fun _ => rfl

omit [World σ] in
theorem sends_forget (indexId : String) : Sends P (forget indexId : Operation σ Unit) :=
  Sends.modify fun _ => rfl

theorem sends_save {registry : Registry} {indexId : String} {binding : Binding}
    (stores : ∀ config createdAt, P (.storeBinding registry.table indexId config createdAt)) :
    Sends P (registry.save indexId binding : Operation σ Unit) := by
  have progress : IsProgress (Sent P : Session σ → Session σ → Prop) := isProgress_sent P
  refine .bind progress (.get progress) fun session => ?_
  refine .bind progress (.ofExcept progress _) fun createdAt => ?_
  exact .bind progress (Sends.run_ (stores _ _)) fun _ => sends_remember indexId binding

theorem sends_createIndexes {table : TableName} {columns : List (String × Metric)}
    (creates : ∀ column metric, (column, metric) ∈ columns → P (.createIndex table column metric)) :
    Sends P (createIndexes table columns : Operation σ Unit) := by
  have progress : IsProgress (Sent P : Session σ → Session σ → Prop) := isProgress_sent P
  induction columns with
  | nil => exact .pure progress _
  | cons column rest ih =>
    refine .bind progress (Sends.run_ (creates _ _ List.mem_cons_self)) fun _ => ?_
    exact ih fun _ _ mem => creates _ _ (List.mem_cons_of_mem _ mem)

end Registry

/-! ## Statements of plans -/

theorem mem_of_mem_issued {statement : Statement} {statements : List Statement} {world : σ}
    (mem : statement ∈ issued statements world) : statement ∈ statements := by
  induction statements generalizing world with
  | nil => exact mem
  | cons first rest ih =>
    rw [issued] at mem
    rcases List.mem_cons.mp mem with rfl | mem
    · exact List.mem_cons_self
    · split at mem
      next => exact List.mem_cons_of_mem _ (ih mem)
      next => cases mem

namespace Plan

variable {statement : Statement}

omit [World σ] in
theorem exists_of_mem_after {result : Except Failure α} {next : α → Plan}
    (mem : statement ∈ (after result next).statements) :
    ∃ a, result = .ok a ∧ statement ∈ (next a).statements := by
  cases result with
  | ok a => exact ⟨a, rfl, mem⟩
  | error failure => cases mem

omit [World σ] in
theorem exists_of_mem_forThings {input : Value} {next : List Value → Plan}
    (mem : statement ∈ (forThings input next).statements) :
    ∃ things, input.toThings = .ok things ∧ statement ∈ (next things).statements := by
  obtain ⟨things, listed, mem⟩ := exists_of_mem_after mem
  refine ⟨things, mapError_eq_ok.mp listed, ?_⟩
  split at mem
  next => cases mem
  next => exact mem

omit [World σ] in
theorem exists_of_mem_ofChanges {binding : Binding} {patches : List Value}
    (mem : statement ∈ (ofChanges binding patches).statements) :
    ∃ patch ∈ patches, Document.patch binding patch = .ok (some statement) := by
  induction patches with
  | nil => cases mem
  | cons patch rest ih =>
    obtain ⟨change, made, mem⟩ := exists_of_mem_after mem
    cases change with
    | none =>
      obtain ⟨other, inside, made⟩ := ih mem
      exact ⟨other, List.mem_cons_of_mem _ inside, made⟩
    | some written =>
      rcases List.mem_cons.mp mem with rfl | mem
      · exact ⟨patch, List.mem_cons_self, made⟩
      · obtain ⟨other, inside, made⟩ := ih mem
        exact ⟨other, List.mem_cons_of_mem _ inside, made⟩

end Plan

namespace Document

variable {binding : Binding} {statement : Statement}

/-- Documents that are written are mappings, and their fields are the keys of all of them. -/
theorem exists_of_upsert {documents : List Value}
    (written : upsert binding documents = .ok statement) :
    ∃ (batch : List Entries) (rows : List (List Cell)),
      let names := ((keysOf batch).filter (· != binding.keyField)).eraseDups
      documents = batch.map .map ∧ documents.mapM (row binding names) = .ok rows ∧
        statement =
          .upsert binding.tableName binding.keyColumn (names.map binding.columnFor) rows := by
  simp only [upsert, bind_eq_ok, pure_eq_ok, Failure.ofConversion, mapError_eq_ok] at written
  obtain ⟨names, found, rows, made, rfl⟩ := written
  have mappings : ∀ document ∈ documents, ∃ entries, document = Value.map entries := by
    intro document mem
    obtain ⟨cells, -, made⟩ := exists_mem_of_forall₂ (mapM_eq_ok.mp made) mem
    simp only [row, bind_eq_ok] at made
    obtain ⟨key, keyed, -⟩ := made
    obtain ⟨entries, same, -⟩ := key_eq_ok.mp keyed
    exact ⟨entries, same⟩
  obtain ⟨batch, each⟩ := exists_forall₂ mappings
  obtain rfl : documents = batch.map .map :=
    (List.map_id _).symm.trans (map_eq_map_of_forall₂ each fun _ _ same => same)
  rw [fieldNames_map] at found
  cases found
  exact ⟨batch, rows, rfl, made, rfl⟩

/-- A patch that is written is a mapping with a key, and the statement makes its changes. -/
theorem exists_of_patch {patch : Value}
    (written : Document.patch binding patch = .ok (some statement)) :
    ∃ (entries : Entries) (key : String) (changes : List (String × Cell)),
      patch = .map entries ∧ Document.changes binding entries = .ok changes ∧
        statement = .update binding.tableName binding.keyColumn changes key := by
  simp only [Document.patch, bind_eq_ok, Failure.ofConversion, mapError_eq_ok,
    toEntries_eq_ok] at written
  obtain ⟨key, -, entries, rfl, changes, made, written⟩ := written
  refine ⟨entries, key, changes, rfl, made, ?_⟩
  split at written
  next => cases written
  next => exact (Option.some.inj (pure_eq_ok.mp written)).symm

end Document

theorem IndexSchema.exists_of_mem_vectors {fields : IndexSchema} {name : String} {metric : Metric}
    (mem : (name, metric) ∈ fields.vectors) :
    ∃ dimensions isKey, (name, .vector dimensions metric isKey) ∈ fields := by
  obtain ⟨⟨_, field⟩, inside, kept⟩ := List.mem_filterMap.mp mem
  cases field with
  | vector dimensions _ isKey =>
    cases kept
    exact ⟨dimensions, isKey, inside⟩
  | scalar => cases kept

/-! ## Calls -/

namespace Call

variable {registry : Registry} {before : Session σ} {call : Call} {indexId : String}

theorem sends_save (stores : call.stores? = some indexId) (binding : Binding) :
    Sends (IsRead registry before call) (registry.save indexId binding : Operation σ Unit) :=
  Registry.sends_save fun _ _ => Asks.isRead (.storeBinding stores) rfl

theorem sendsKnowing_createIndex (schemaName : String) (schema : Value) :
    SendsKnowing (IsRead registry before (.createIndex indexId schemaName schema))
      (known registry before)
      (registry.createIndex indexId schemaName schema : Operation σ Unit) := by
  refine .bind_ofExcept fun fields read => .bind_ofExcept fun key _ => .bind_ensureReady ?_
  obtain ⟨entries, rfl, each⟩ := Registry.readSchema_iff.mp read
  have progress := isProgress_sent (σ := σ)
    (IsRead registry before (.createIndex indexId schemaName (.map entries)))
  refine .of_sends (.bind progress (.ofExcept progress _) fun _ => ?_)
  refine .bind progress (Sends.run_ (Asks.isRead (.createTable each) rfl)) fun _ => ?_
  refine .bind progress (Registry.sends_createIndexes fun column metric mem => ?_) fun _ =>
    .bind progress (sends_save rfl _) fun _ => Sends.log _
  obtain ⟨dimensions, isKey, inside⟩ := IndexSchema.exists_of_mem_vectors mem
  exact Asks.isRead (.createVectorIndex each inside) rfl

theorem sendsKnowing_bind (stores : call.stores? = some indexId) (binding : Binding) :
    SendsKnowing (IsRead registry before call) (known registry before)
      (registry.bind indexId binding : Operation σ Unit) := by
  have progress := isProgress_sent (σ := σ) (IsRead registry before call)
  refine .bind_ensureReady (.of_sends ?_)
  exact .bind progress (sends_save stores binding) fun _ => Sends.log _

theorem sendsKnowing_describe :
    SendsKnowing (IsRead registry before (.describeIndex indexId)) (known registry before)
      (registry.describe indexId : Operation σ IndexStats) := by
  have progress := isProgress_sent (σ := σ) (IsRead registry before (.describeIndex indexId))
  refine .bind_ensureReady (.bind_requireBinding fun binding found => ?_)
  refine .bind progress (Sends.run (Asks.isRead (.countRows found) rfl)) fun rows => ?_
  refine .bind progress (Sends.run (Asks.isRead (.tableSize found) rfl)) fun size => ?_
  refine .bind progress (.ofExcept progress _) fun count => ?_
  exact .bind progress (.ofExcept progress _) fun _ => .pure progress _

theorem sendsKnowing_delete :
    SendsKnowing (IsRead registry before (.deleteIndex indexId)) (known registry before)
      (registry.delete indexId : Operation σ Unit) := by
  have progress := isProgress_sent (σ := σ) (IsRead registry before (.deleteIndex indexId))
  refine .bind_ensureReady (.bind_requireBinding fun binding found => ?_)
  refine .bind progress (Sends.run_ (Asks.isRead (.dropTable found) rfl)) fun _ => ?_
  refine .bind progress (Sends.run_ (Asks.isRead .forgetBinding rfl)) fun _ => ?_
  exact .bind progress (Registry.sends_forget indexId) fun _ => Sends.log _

/-- The statement of a listing has the start and the cursor of the page that is loaded. -/
theorem sends_load {params : PageParams}
    (lists : ∀ limit, IsRead registry before call
      (.listIndexes registry.table params.start params.cursor limit)) :
    Sends (IsRead registry before call) (Page.load registry.loadPage params : Operation σ _) := by
  have progress := isProgress_sent (σ := σ) (IsRead registry before call)
  refine .bind progress (.bind progress (Sends.run (lists _)) fun outcome => ?_) fun _ =>
    .pure progress _
  exact .bind progress (.ofExcept progress _) fun ids => .pure progress _

theorem sendsKnowing_list (value : Value) :
    SendsKnowing (IsRead registry before (.listIndexes value)) (known registry before)
      (registry.list value : Operation σ (Page IndexSummary)) := by
  refine .bind_ensureReady (.bind_ofExcept fun params read => .of_sends ?_)
  refine sends_load fun limit => ?_
  exact Asks.isRead (.listIndexes (Failure.ofChecked_eq_ok.mp read)) rfl

theorem sends_next (page : Page IndexSummary) :
    Sends (IsRead registry before (.nextPage page))
      (page.next registry.loadPage : Operation σ _) := by
  have progress := isProgress_sent (σ := σ) (IsRead registry before (.nextPage page))
  refine .ite (.pure progress _) (.bind progress (sends_load fun limit => ?_) fun _ =>
    .pure progress _)
  exact Asks.isRead .nextPage rfl

/-! ### Calls of handles -/

theorem isRead_of_ofQuery {input : QueryInput} {statement : Statement}
    (mem : statement ∈ (Plan.ofQuery (.current (known registry before) indexId) input).statements) :
    IsRead registry before (.query indexId input) statement := by
  obtain ⟨q, normalized, mem⟩ := Plan.exists_of_mem_after mem
  obtain ⟨search, accepted, mem⟩ := Plan.exists_of_mem_after mem
  obtain ⟨clause, converted, mem⟩ := Plan.exists_of_mem_after mem
  obtain rfl := List.mem_singleton.mp mem
  have written := mapError_eq_ok.mp converted
  obtain ⟨tree, column, parsed, means, spells⟩ := Search.clause_names accepted written
  exact ⟨_, .searched normalized parsed (Binding.isFor_current _ _) means accepted written, spells⟩

theorem isRead_of_ofDocuments {input : Value} {statement : Statement}
    (mem : statement ∈ (Plan.forThings input
      (.ofDocuments (.current (known registry before) indexId))).statements) :
    IsRead registry before (.upsert indexId input) statement := by
  obtain ⟨documents, listed, mem⟩ := Plan.exists_of_mem_forThings mem
  obtain ⟨_, written, mem⟩ := Plan.exists_of_mem_after mem
  obtain rfl := List.mem_singleton.mp mem
  obtain ⟨batch, rows, rfl, encoded, rfl⟩ := Document.exists_of_upsert written
  exact Asks.isRead (.upsert listed (Binding.isFor_current _ _) (Binding.means_columnFor _) rfl
    encoded) rfl

theorem isRead_of_ofPatches {input : Value} {statement : Statement}
    (mem : statement ∈ (Plan.forThings input
      (.ofPatches (.current (known registry before) indexId))).statements) :
    IsRead registry before (.patch indexId input) statement := by
  obtain ⟨patches, listed, mem⟩ := Plan.exists_of_mem_forThings mem
  obtain ⟨_, -, mem⟩ := Plan.exists_of_mem_after mem
  obtain ⟨patch, inside, written⟩ := Plan.exists_of_mem_ofChanges mem
  obtain ⟨entries, key, changes, rfl, made, rfl⟩ := Document.exists_of_patch written
  exact Asks.isRead (.update listed inside (Binding.isFor_current _ _) (Binding.means_columnFor _)
    (Document.changes_eq_ok.mp made)) rfl

theorem isRead_of_ofKeys {input : Value} {statement : Statement}
    (mem : statement ∈ (Plan.forThings input
      (.ofKeys (.current (known registry before) indexId))).statements) :
    IsRead registry before (.delete indexId input) statement := by
  obtain ⟨keys, listed, mem⟩ := Plan.exists_of_mem_forThings mem
  obtain rfl := List.mem_singleton.mp mem
  exact Asks.isRead (.delete listed (Binding.isFor_current _ _)) rfl

theorem sendsKnowing_handled (handled : call.handled? = some indexId)
    (each : ∀ statement ∈ (call.plan (.current (known registry before) indexId)).statements,
      IsRead registry before call statement) :
    SendsKnowing (IsRead registry before call) (known registry before)
      (call.operation registry : Operation σ Unit) := by
  intro session ready knows
  have done := done_handled registry ready handled
  rw [knows] at done
  refine ⟨_, done.records.events, fun statement mem => each _ ?_⟩
  obtain ⟨_, inside, same⟩ := List.mem_map.mp mem
  cases same
  exact mem_of_mem_issued inside

/-! ### All calls -/

theorem sendsKnowing (registry : Registry) (before : Session σ) (call : Call) :
    SendsKnowing (IsRead registry before call) (known registry before)
      (call.operation registry : Operation σ Unit) := by
  have progress := isProgress_sent (σ := σ) (IsRead registry before call)
  cases call with
  | startup =>
    intro session ready _
    change Sent _ session (perform registry.ensureReady session).2
    rw [registry.perform_ensureReady ready]
    exact progress.refl session
  | shutdown => exact .of_sends (Sends.record nofun)
  | createIndex indexId schemaName schema => exact sendsKnowing_createIndex schemaName schema
  | bindIndex indexId binding => exact sendsKnowing_bind rfl binding
  | bindValue indexId value => exact .bind_ofExcept fun binding _ => sendsKnowing_bind rfl binding
  | describeIndex indexId => exact .discard sendsKnowing_describe
  | deleteIndex indexId => exact sendsKnowing_delete
  | listIndexes value => exact .discard (sendsKnowing_list value)
  | nextPage page => exact .discard (.of_sends (sends_next page))
  | query indexId input => exact sendsKnowing_handled rfl fun _ => isRead_of_ofQuery
  | upsert indexId input => exact sendsKnowing_handled rfl fun _ => isRead_of_ofDocuments
  | patch indexId input => exact sendsKnowing_handled rfl fun _ => isRead_of_ofPatches
  | delete indexId input => exact sendsKnowing_handled rfl fun _ => isRead_of_ofKeys

theorem exists_skeleton_of_mem_preparation {statement : Statement}
    (mem : .statement statement ∈ registry.preparation) :
    ∃ tokens, statement.skeleton? = some tokens := by
  simp only [Registry.preparation, List.mem_append, List.mem_ite_nil_right, List.mem_cons,
    List.not_mem_nil, or_false, reduceCtorEq, and_false, false_or, Event.statement.injEq] at mem
  rcases mem with ⟨-, rfl⟩ | rfl | rfl | rfl <;> exact ⟨_, rfl⟩

theorem sent_ensureReady (registry : Registry) (before : Session σ) (call : Call) :
    Sent (IsRead registry before call) before (perform registry.ensureReady before).2 := by
  cases fresh : before.ready with
  | true =>
    rw [registry.perform_ensureReady fresh]
    exact (isProgress_sent _).refl before
  | false =>
    obtain ⟨added, records, started, -⟩ := (registry.stages_ensureReady fresh).recorded
    refine ⟨added, records.events, fun statement mem => ?_⟩
    have opening := started.subset mem
    obtain ⟨tokens, skeleton⟩ := exists_skeleton_of_mem_preparation opening
    exact ⟨tokens, .opening fresh opening skeleton, Statement.skeleton_spells skeleton⟩

/-- A call sends what it is meant to send, initialized or not. -/
theorem sent (registry : Registry) (before : Session σ) (call : Call) :
    Sent (IsRead registry before call) before (perform (call.operation registry) before).2 := by
  have progress := isProgress_sent (σ := σ) (IsRead registry before call)
  cases guarded : call.isGuarded with
  | true =>
    have guards := call.guards (σ := σ) registry guarded
    cases void : call.isVoid with
    | true =>
      rw [guards.alone void]
      exact progress.refl before
    | false =>
      have begun := sent_ensureReady registry before call
      rw [← guards.opens void, perform_bind]
      split
      next _ middle done =>
        rw [done] at begun
        have knows : middle.bindings = known registry before := by rw [known, done]
        exact progress.trans begun
          (sendsKnowing registry before call middle (registry.ready_of_ensureReady done) knows)
      next failure middle failed =>
        rw [failed] at begun
        exact begun
  | false =>
    -- These two calls do not initialize the registry, and need nothing that it knows.
    cases call with
    | shutdown =>
      have sends : Sends (IsRead registry before .shutdown)
          (Registry.shutdown : Operation σ Unit) := Sends.record nofun
      exact sends before
    | nextPage page => exact (sends_next page).discard progress before
    | _ => cases guarded

/-- Several calls send one after the other what each of them is meant to send. -/
theorem sent_run (registry : Registry) (calls : List Call) (session : Session σ) :
    Sent (fun statement => ∃ earlier call later, calls = earlier ++ call :: later ∧
      call.IsRead registry (run registry earlier session) statement)
      session (run registry calls session) := by
  induction calls generalizing session with
  | nil => exact ⟨[], (List.append_nil _).symm, nofun⟩
  | cons call rest ih =>
    obtain ⟨own, same, isRead⟩ := sent registry session call
    obtain ⟨added, same', others⟩ := ih (perform (call.operation registry) session).2
    refine ⟨own ++ added, ?_, fun statement mem => ?_⟩
    · rw [← List.append_assoc, ← same]
      exact same'
    · rcases List.mem_append.mp mem with mem | mem
      · exact ⟨[], call, rest, rfl, isRead statement mem⟩
      · obtain ⟨earlier, other, later, rfl, read⟩ := others statement mem
        exact ⟨call :: earlier, other, later, rfl, read⟩

/-- Whatever is called and whatever the world answers, every statement that is sent is one that some
call writes with its own names and with those of the binding that it works with.  Its text is read as
the keywords, signs and placeholders of the statement with these names in their places, as quoted
names and as nothing else.  So is the name of a table that is sent as a parameter, and so is the
statement of a query on any table, with a binding or without one. -/
theorem statements_read (registry : Registry) (calls : List Call) (session : Session σ) :
    (∃ added, (run registry calls session).events = session.events ++ added ∧
      ∀ statement, Event.statement statement ∈ added →
        (∃ earlier call later tokens, calls = earlier ++ call :: later ∧
          call.Writes registry (run registry earlier session) statement tokens ∧
          Sql.tokens statement.text = tokens ∧ Token.broken ∉ tokens) ∧
        ∀ table, statement = .tableSize table →
          ∃ text, statement.params = [.text text] ∧ Sql.tokens text = table.tokens) ∧
    ∀ q table keyColumn binding search clause,
      Search.ofQuery q table keyColumn binding = .ok search → search.clause = .ok clause →
        ∃ (tree : Option Filter) (column : String → String), q.tree = .ok tree ∧
          (∀ field, Binding.Means binding field (column field)) ∧
          Sql.tokens clause.text = q.tokens table keyColumn binding column tree ∧
          Token.broken ∉ Sql.tokens clause.text := by
  obtain ⟨added, same, sent⟩ := sent_run registry calls session
  refine ⟨⟨added, same, fun statement mem => ⟨?_, ?_⟩⟩, ?_⟩
  · obtain ⟨earlier, call, later, split, tokens, writes, spells⟩ := sent statement mem
    exact ⟨earlier, call, later, tokens, split, writes, spells.read, spells.unbroken⟩
  · rintro table rfl
    exact ⟨table.fragment.text, rfl, table.spells.read⟩
  · intro q table keyColumn binding search clause accepted written
    obtain ⟨tree, column, parsed, means, spells⟩ := Search.clause_names accepted written
    have read : Sql.tokens clause.text = _ := spells.read
    exact ⟨tree, column, parsed, means, read, read ▸ spells.unbroken⟩

/-- So are a search and an insert under names with quotes, comments, placeholders and line breaks in
them, and under empty ones. -/
theorem statements_read_hostile :
    let schema := "x\"; DROP TABLE t; --"
    let binding : Binding :=
      { schema, table := "$1", keyColumn := ""
        fields := [("title\n", { column := "a\"b" }), ("/*", { column := "\"" })] }
    let session : Session Script := { world := {}, ready := true, bindings := [("docs", binding)] }
    let sought : Value :=
      .map [("filter", .map [("title\n", .text "v"), ("--", .null)]),
        ("orderBy", .map [("field", .text "")])]
    let document : Value := .map [("", .text "k"), ("/*", .int 1), ("';", .null)]
    (∃ select, Event.statement select ∈ (run {} [.query "docs" sought] session).events ∧
      Sql.tokens select.text =
        [.word "SELECT", .name "", .word "as", .word "id", .mark ',', .word "1", .word "as",
          .word "score", .mark ',', .name "a\"b", .mark ',', .name "\"",
          .word "FROM", .name schema, .mark '.', .name "$1",
          .word "WHERE", .name "a\"b", .sign "=", .slot 1, .word "AND", .name "--", .word "IS",
          .word "NULL",
          .word "ORDER", .word "BY", .name schema, .mark '.', .name "$1", .mark '.', .name "",
          .word "DESC", .word "LIMIT", .slot 2]) ∧
    ∃ insert, Event.statement insert ∈ (run {} [.upsert "docs" document] session).events ∧
      Sql.tokens insert.text =
        [.word "INSERT", .word "INTO", .name schema, .mark '.', .name "$1",
          .mark '(', .name "", .mark ',', .name "\"", .mark ',', .name "';", .mark ')',
          .word "VALUES", .mark '(', .slot 1, .mark ',', .slot 2, .mark ',', .slot 3, .mark ')',
          .word "ON", .word "CONFLICT", .mark '(', .name "", .mark ')', .word "DO", .word "UPDATE",
          .word "SET", .name "\"", .sign "=", .word "EXCLUDED", .mark '.', .name "\"", .mark ',',
          .name "';", .sign "=", .word "EXCLUDED", .mark '.', .name "';",
          .word "RETURNING", .mark '(', .word "xmax", .sign "=", .word "0", .mark ')', .word "as",
          .word "inserted"] := by
  intro schema binding session sought document
  -- A call that is alone in its run is the one that has written the statement.
  have alone {call : Call} {statement : Statement}
      (sent : Event.statement statement ∈ (run {} [call] session).events) :
      ∃ tokens, call.Writes {} session statement tokens ∧ Sql.tokens statement.text = tokens := by
    obtain ⟨⟨added, same, read⟩, -⟩ := statements_read {} [call] session
    rw [same] at sent
    obtain ⟨⟨earlier, other, later, tokens, split, writes, reads, -⟩, -⟩ := read _ sent
    cases earlier with
    | nil =>
      cases split
      exact ⟨tokens, writes, reads⟩
    | cons => simp at split
  have bound : (known {} session).lookup "docs" = some binding := rfl
  constructor
  · have sent : Event.statement (.search _) ∈ (run {} [.query "docs" sought] session).events :=
      .head _
    obtain ⟨tokens, writes, reads⟩ := alone sent
    refine ⟨_, sent, reads.trans ?_⟩
    cases writes with
    | opening fresh => cases fresh
    | asked asks => cases asks
    | searched normalized parsed isFor means accepted written =>
      cases (rfl : SearchQuery.normalize sought = .ok _).symm.trans normalized
      cases parsed
      cases isFor.eq_of_lookup bound
      cases Binding.eq_columnFor means
      rfl
  · have sent : Event.statement (.upsert ⟨schema, "$1"⟩ "" ["\"", "';"]
        [[{ value := .text "k" }, { value := .int 1 }, { value := .null }]]) ∈
          (run {} [.upsert "docs" document] session).events := .head _
    obtain ⟨tokens, writes, reads⟩ := alone sent
    refine ⟨_, sent, reads.trans ?_⟩
    cases writes with
    | opening fresh => cases fresh
    | asked _ skeleton =>
      cases skeleton
      rfl

end Call

end TableSearch
