import TableSearch.Proofs.Index.BindingTable
import TableSearch.Proofs.Index.Provisioning
import TableSearch.Proofs.Index.Reloading
import TableSearch.Proofs.Query.Answering
import TableSearch.Proofs.Query.Scoring
import TableSearch.Proofs.Sql.Skeleton

/-!
# Vector indexes and the searches that they serve

A database uses the index of a vector column for a search only if the search orders by the distance
operator that the operator class of the index supports.  The class is written when an index is
created and the operator with every search, by way of the schema, the binding and its stored form.
Here both are read back from the statements.
-/

namespace TableSearch

open Sql Operation

/-! ## Indexes that are read from statements -/

/-- An HNSW index on a vector column. -/
structure Sql.VectorIndex where
  table : TableName
  column : String
  operatorClass : String

namespace Sql

def vectorIndex? : List Token → Option VectorIndex
  | [.word "CREATE", .word "INDEX", .name _, .word "ON", .name schema, .mark '.', .name table,
      .word "USING", .word "hnsw", .mark '(', .name column, .word operatorClass, .mark ')'] =>
    some ⟨⟨schema, table⟩, column, operatorClass⟩
  | _ => none

def Statement.createdIndex? (statement : Statement) : Option VectorIndex :=
  vectorIndex? (Sql.tokens statement.text)

/-- The operator by which an index with an operator class finds the nearest rows. -/
def supportedOperator? : String → Option String
  | "vector_cosine_ops" => some "<=>"
  | "vector_l2_ops" => some "<->"
  | "vector_ip_ops" => some "<#>"
  | _ => none

/-- A statement searches the table of an index for the rows that are nearest by the distance which
the index supports, and makes its score of this distance alone. -/
structure VectorIndex.Serves (index : VectorIndex) (statement : List Token) : Prop where
  table : clauseAt "FROM" statement = index.table.tokens
  ranks : ∃ distance, orderDistance? statement = some distance ∧
    distance.column = index.column ∧
    supportedOperator? index.operatorClass = some distance.operator ∧
    ∃ score, (scoreTokens? statement).bind arithmetic? = some score ∧ score.distances = [distance]

theorem supportedOperator?_operatorClass (metric : Metric) :
    supportedOperator? metric.operatorClass = some metric.distanceOperator := by
  cases metric <;> rfl

theorem Statement.tokens_text {statement : Statement} {tokens : List Token}
    (known : statement.skeleton? = some tokens) : Sql.tokens statement.text = tokens :=
  (skeleton_spells known).read

theorem Statement.createdIndex?_createIndex (table : TableName) (column : String)
    (metric : Metric) :
    (createIndex table column metric).createdIndex? =
      some ⟨table, column, metric.operatorClass⟩ := by
  rw [createdIndex?, tokens_text rfl]
  rfl

end Sql

/-! ## Created tables -/

namespace Sql.Statement

theorem suffix_columnTokens_iff {name : String} {field : FieldSchema} :
    words ["PRIMARY", "KEY"] <:+ columnTokens name field ↔ field.isKey = true := by
  rw [columnTokens]
  constructor
  · intro ends
    by_contra other
    rw [if_neg other, List.append_nil, ← List.reverse_prefix] at ends
    -- The last token would have to be the type of a column.
    cases field with
    | vector => simp [typeTokens, inParens, words] at ends
    | scalar type =>
      obtain ⟨kind, isArray⟩ := type
      cases isArray <;> cases kind <;> simp [typeTokens, kindTokens, words] at ends
  · intro isKey
    rw [if_pos isKey]
    exact List.suffix_append _ _

end Sql.Statement

namespace IndexSchema

section

variable {fields : IndexSchema} {key name : String} {field : FieldSchema}

theorem isKey_iff (distinct : (fields.map (·.1)).Nodup) (keyed : fields.key = .ok key)
    (mem : (name, field) ∈ fields) : field.isKey = true ↔ name = key := by
  refine ⟨eq_key keyed mem, ?_⟩
  rintro rfl
  have inside : name ∈ fields.keys := keys_of_key keyed ▸ List.mem_singleton_self name
  obtain ⟨⟨_, other⟩, marked, rfl⟩ := List.mem_map.mp inside
  obtain ⟨mem', isKey⟩ := List.mem_filter.mp marked
  have same := (lookup_of_mem distinct mem).symm.trans (lookup_of_mem distinct mem')
  cases same
  exact isKey

theorem key_mem (keyed : fields.key = .ok key) : key ∈ fields.map (·.1) := by
  have inside : key ∈ fields.keys := keys_of_key keyed ▸ List.mem_singleton_self key
  obtain ⟨entry, marked, same⟩ := List.mem_map.mp inside
  exact List.mem_map.mpr ⟨entry, (List.mem_filter.mp marked).1, same⟩

theorem mem_vectors {dimensions : Nat} {metric : Metric} {isKey : Bool}
    (mem : (name, .vector dimensions metric isKey) ∈ fields) : (name, metric) ∈ fields.vectors :=
  List.mem_filterMap.mpr ⟨_, mem, rfl⟩

end

/-- A statement creates the table of an index: it defines a column for each field, in their order,
and that of the key alone is the primary key. -/
structure Defines (fields : IndexSchema) (key : String) (table : TableName)
    (statement : Statement) : Prop where
  columns : Sql.tokens statement.text = words ["CREATE", "TABLE"] ++ table.tokens ++
    inParens (listed (fields.map fun (name, field) => Statement.columnTokens name field))
  key_mem : key ∈ fields.map (·.1)
  primary : ∀ name field, (name, field) ∈ fields →
    (words ["PRIMARY", "KEY"] <:+ Statement.columnTokens name field ↔ name = key)

variable {fields : IndexSchema} {key : String}

theorem defines_createTable (distinct : (fields.map (·.1)).Nodup) (keyed : fields.key = .ok key)
    (table : TableName) : fields.Defines key table (.createTable table fields) where
  columns := Statement.tokens_text rfl
  key_mem := key_mem keyed
  primary _ _ mem := Statement.suffix_columnTokens_iff.trans (isKey_iff distinct keyed mem)

/-- Vector indexes are created for the vector fields, with the operator classes of their metrics. -/
theorem map_createdIndex? (table : TableName) :
    (fields.vectors.map fun (column, metric) => Statement.createIndex table column metric).map
        Statement.createdIndex? =
      fields.vectors.map fun (column, metric) => some ⟨table, column, metric.operatorClass⟩ := by
  simp only [List.map_map, Function.comp_def, Statement.createdIndex?_createIndex]

end IndexSchema

/-! ## Bindings of created indexes -/

/-- The bindings that a registry can know an index by whose binding it has stored: the stored one,
and one that is read from what a store shows of it. -/
inductive Binding.KnownAs (binding : Binding) : Binding → Prop where
  | created : KnownAs binding binding
  | loaded {shown : String → Value} {config : Value} {known : Binding}
      (faithful : ShowsTexts shown) (decoded : Json.decode (shown binding.toJson) = .ok config)
      (read : Binding.read config = .valid known) : KnownAs binding known

theorem Binding.KnownAs.rearranged {binding known : Binding} (as : binding.KnownAs known)
    (names : (binding.fields.map (·.1)).Nodup) : binding.Rearranged known := by
  cases as with
  | created => exact .refl binding
  | loaded faithful decoded read =>
    obtain ⟨_, again, same⟩ := faithful.exists_read names decoded
    cases read.symm.trans again
    exact same

namespace IndexSchema

variable {fields : IndexSchema} {schemaName indexId key name : String} {known : Binding}

theorem nodup_binding (distinct : (fields.map (·.1)).Nodup) :
    ((fields.binding schemaName indexId key).fields.map (·.1)).Nodup :=
  map_fields_binding ▸ distinct

/-- However an index is known, a vector field is bound to its own column, with its own metric. -/
theorem field?_known {dimensions : Nat} {metric : Metric} {isKey : Bool}
    (distinct : (fields.map (·.1)).Nodup)
    (as : (fields.binding schemaName indexId key).KnownAs known)
    (mem : (name, .vector dimensions metric isKey) ∈ fields) :
    known.field? name = some (.ofSchema name (.vector dimensions metric isKey)) := by
  have same := as.rearranged (nodup_binding distinct)
  rw [same.field? (nodup_binding distinct), field?_binding distinct mem]

theorem tableName_known (distinct : (fields.map (·.1)).Nodup)
    (as : (fields.binding schemaName indexId key).KnownAs known) :
    known.tableName = ⟨schemaName, indexId⟩ := by
  have same := as.rearranged (nodup_binding distinct)
  rw [Binding.tableName, same.schema, same.table]
  rfl

/-- Dimensions that can be written into the type of a column can be read back. -/
theorem isReadable_binding (typed : fields.requireColumnTypes = .ok ()) :
    (fields.binding schemaName indexId key).IsReadable := by
  rintro ⟨name, bound⟩ mem n sized
  obtain ⟨⟨_, field⟩, inside, same⟩ := List.mem_map.mp mem
  cases same
  have short : fields.all (·.2.hasColumnType) = true := by
    by_contra other
    rw [requireColumnTypes, if_neg other] at typed
    cases typed
  have short := List.all_eq_true.mp short _ inside
  cases field with
  | scalar => cases sized
  | vector dimensions =>
    cases sized
    rw [FieldSchema.hasColumnType, decide_eq_true_eq] at short
    exact short

/-- What a store shows of the binding of a new index can be read. -/
theorem exists_known_loaded {shown : String → Value} (faithful : ShowsTexts shown)
    (distinct : (fields.map (·.1)).Nodup) (typed : fields.requireColumnTypes = .ok ()) :
    ∃ config known,
      Json.decode (shown (fields.binding schemaName indexId key).toJson) = .ok config ∧
        Binding.read config = .valid known := by
  have names : ((fields.binding schemaName indexId key).fields.map (·.1)).Nodup :=
    nodup_binding distinct
  obtain ⟨config, decoded⟩ := faithful.readable
    (Binding.isExact_toValue names (isReadable_binding typed)) (Binding.write_toValue names)
  obtain ⟨known, read, -⟩ := faithful.exists_read names decoded
  exact ⟨config, known, decoded, read⟩

end IndexSchema

/-! ## Searches -/

/-- A query seeks the nearest rows by a field: it has no order of its own, and its only signal gives
a vector for the field. -/
structure SearchQuery.SeeksNearest (q : SearchQuery) (field : String) (vector : Value) : Prop where
  unordered : q.orderBy = none
  single : ∃ signal, q.signals = [signal] ∧ (field, vector) ∈ signal
  isVector : vector.isVector = true

namespace Search

variable {search : Search} {clause : Clause} {ranking : Ranking}

/-- Without an order of its own a ranked search is served by an index on the column of its ranking,
if the index has been created for the metric. -/
theorem serves_of_ranking (ranked : search.ranking = some ranking) (unordered : search.order = none)
    (written : search.clause = .ok clause) :
    VectorIndex.Serves ⟨search.table, ranking.column, ranking.metric.operatorClass⟩
      (Sql.tokens clause.text) := by
  have table : clauseAt "FROM" search.tokens = search.table.tokens := by
    rw [search.clauseAt_tokens (by decide)]
    rfl
  have order : orderDistance? search.tokens = some ranking.measure := by
    rw [orderDistance?, clauseAt_order, orderTokens, unordered, ranked]
    exact ranking.distance?_measure
  have score : scoreTokens? search.tokens = some ranking.scoreTokens := by
    rw [scoreTokens?, clauseAt_selection, selectedAs?_selectionTokens ranked]
  rw [tokens_text written]
  refine ⟨table, ranking.measure, order, rfl, supportedOperator?_operatorClass ranking.metric, ?_⟩
  refine ⟨ranking.metric.scoreOf ranking.measure, ?_, Metric.distances_scoreOf⟩
  rw [score]
  exact ranking.arithmetic?_scoreTokens

/-- An accepted query for the nearest rows by a vector field is served by an index on the column of
the field, if the index has been created for the metric of the field. -/
theorem serves_of_seeksNearest {q : SearchQuery} {known : Binding} {field : String} {vector : Value}
    {bound : FieldBinding} {metric : Metric} (seeks : q.SeeksNearest field vector)
    (isField : field ≠ Signal.weightKey) (accepted : ofBinding q known = .ok search)
    (written : search.clause = .ok clause) (found : known.field? field = some bound)
    (measured : bound.metric = some metric) :
    VectorIndex.Serves ⟨known.tableName, bound.column, metric.operatorClass⟩
      (Sql.tokens clause.text) := by
  obtain ⟨signal, single, mem⟩ := seeks.single
  have parts := eq_of_ofQuery accepted
  have checked : Signal.check [signal] = .ok () := by
    simp only [ofBinding, ofQuery, bind_eq_ok, Failure.ofQuery, mapError_eq_ok] at accepted
    obtain ⟨_, checked, -⟩ := accepted
    exact single ▸ checked
  have inside : (field, vector) ∈ signal.vectors :=
    List.mem_filter.mpr ⟨List.mem_filter.mpr ⟨mem, bne_iff_ne.mpr isField⟩, seeks.isVector⟩
  -- There is one signal and one vector in it, so this is what the rows are ranked by.
  have sought := Signal.findVector?_of_check checked (List.mem_singleton.mpr rfl) inside
  have ranked : search.ranking = some ⟨bound.column, metric, vector⟩ := by
    rw [parts, ranking, Ranking.ofSignals?, single, sought, Option.map_some]
    simp only [Ranking.ofField, Option.bind_some, found, measured, Option.getD_some]
  have table : search.table = known.tableName := by rw [parts]
  have unordered : search.order = none := by rw [parts, seeks.unordered]
  exact table ▸ serves_of_ranking ranked unordered written

end Search

namespace Registry

variable {σ : Type} [World σ]

/-- An accepted query of a handle is sent as its one statement. -/
theorem records_query {registry : Registry} {indexId : String} {known : Binding}
    {session : Session σ} {input : QueryInput} {q : SearchQuery} {search : Search}
    {clause : Clause}
    (ready : session.ready = true) (knows : session.bindings.lookup indexId = some known)
    (read : SearchQuery.normalize input = .ok q) (accepted : Search.ofBinding q known = .ok search)
    (written : search.clause = .ok clause) :
    Records [.statement (.search clause)] session
      (perform ((registry.handle indexId).query input) session).2 := by
  have found := registry.perform_binding indexId ready
  have known : Binding.current session.bindings indexId = known := by
    rw [Binding.current, knows]
    rfl
  have records := (Handle.done_query found input).records
  rw [known, Plan.ofQuery, read, Plan.after, accepted, Plan.after, written] at records
  change Records ((issued [.search clause] session.world).map .statement) session _ at records
  rwa [issued_singleton] at records

/-- The creation of an index and the searches by its vector fields agree.  The table is created
first, then a vector index for each vector field in their order, and the binding is stored last; the
first of these statements that fails ends the creation, which leaves the known bindings alone.
Through the binding that is known since, and through any that a store gives back, a search by a
vector field orders by the distance that its index supports, and makes its score of it. -/
theorem vector_indexes_serve {registry : Registry} {indexId schemaName key : String}
    {schema : Entries} {fields : IndexSchema} {createdAt : Int} {session middle : Session σ}
    (unrepeated : (schema.map (·.1)).Nodup) (accepts : AcceptsSchema (.map schema) fields key)
    (initialized : perform registry.ensureReady session = (.ok (), middle))
    (clock : storingTime
      (advance ((tableStatements indexId schemaName fields).map .statement) middle.world) =
        .ok createdAt) :
    let table : TableName := ⟨schemaName, indexId⟩
    let binding := fields.binding schemaName indexId key
    let statements := registry.creationStatements indexId schemaName fields key createdAt
    let creation := perform (registry.createIndex indexId schemaName (.map schema)) session
    fields.map (·.1) = schema.map (·.1) ∧
    (∃ define indexes, statements = define :: indexes ++
        [.storeBinding registry.table indexId binding.toJson createdAt] ∧
      fields.Defines key table define ∧
      indexes.map Statement.createdIndex? =
        fields.vectors.map fun (column, metric) => some ⟨table, column, metric.operatorClass⟩) ∧
    (AllSucceed statements middle.world → creation.1 = .ok () ∧
      Records (statements.map .statement) middle creation.2 ∧ creation.2.ready = true ∧
      creation.2.bindings.lookup indexId = some binding) ∧
    (∀ front statement rest, statements = front ++ statement :: rest →
      AllSucceed front middle.world →
      statement.succeeds (advance (front.map .statement) middle.world) = false →
        ∃ failure, creation.1 = .error failure ∧
          Records ((front ++ [statement]).map .statement) middle creation.2 ∧
          creation.2.bindings = middle.bindings) ∧
    (∀ shown, ShowsTexts shown → ∃ config known,
      Json.decode (shown binding.toJson) = .ok config ∧ Binding.read config = .valid known) ∧
    ∀ name dimensions metric isKey, (name, .vector dimensions metric isKey) ∈ fields →
      name ≠ Signal.weightKey →
      let index : VectorIndex := ⟨table, name, metric.operatorClass⟩
      (∃ statement ∈ statements, statement.createdIndex? = some index) ∧
      ∀ known, binding.KnownAs known →
      ∀ current : Session σ, current.ready = true →
        current.bindings.lookup indexId = some known →
      ∀ input q vector search clause, SearchQuery.normalize input = .ok q →
        q.SeeksNearest name vector → Search.ofBinding q known = .ok search →
        search.clause = .ok clause →
          Records [.statement (.search clause)] current
              (perform ((registry.handle indexId).query input) current).2 ∧
            index.Serves (Sql.tokens clause.text) := by
  intro table binding statements creation
  have named : fields.map (·.1) = schema.map (·.1) := readSchema_eq_ok accepts.read
  have distinct : (fields.map (·.1)).Nodup := named ▸ unrepeated
  refine ⟨named, ⟨_, _, rfl, IndexSchema.defines_createTable distinct accepts.keyed table,
    IndexSchema.map_createdIndex? table⟩, fun succeed => ?_, ?_, fun shown faithful => ?_, ?_⟩
  · obtain ⟨after, made, records, ready, bound⟩ :=
      createIndex_succeeds accepts initialized clock succeed
    rw [show creation = (.ok (), after) from made]
    exact ⟨rfl, records, ready, bound⟩
  · intro front statement rest split succeed fails
    obtain ⟨failure, after, made, records, kept⟩ :=
      createIndex_fails accepts initialized clock split succeed fails
    rw [show creation = (.error failure, after) from made]
    exact ⟨failure, rfl, records, kept⟩
  · exact IndexSchema.exists_known_loaded faithful distinct accepts.typed
  · intro name dimensions metric isKey mem isField index
    refine ⟨⟨.createIndex table name metric, ?_, Statement.createdIndex?_createIndex _ _ _⟩, ?_⟩
    -- Each vector field of the schema has a statement of its own behind that of the table.
    · have created := List.mem_map_of_mem (f := fun (column, metric) =>
        Statement.createIndex table column metric) (IndexSchema.mem_vectors mem)
      exact List.mem_append_left _ (List.mem_cons_of_mem _ created)
    · intro known as current ready knows input q vector search clause read seeks accepted written
      refine ⟨records_query ready knows read accepted written, ?_⟩
      have bound := IndexSchema.field?_known distinct as mem
      have serves := Search.serves_of_seeksNearest seeks isField accepted written bound rfl
      rwa [IndexSchema.tableName_known distinct as] at serves

/-- For example, a search by a euclidean vector in a new index uses the distance of its index, and
so it does when the binding has been read from its stored text. -/
theorem vector_indexes_serve_euclidean :
    let schema : Entries :=
      [("id", .map [("type", .text "string"), ("pk", .bool true)]),
        ("v", .map [("type", .text "vector"), ("dimensions", .int 3),
          ("similarity", .text "euclidean")])]
    let registry : Registry := {}
    let creation := perform (registry.createIndex "docs" "public" (.map schema))
      ({ world := {}, ready := true } : Session Script)
    let sought : Value := .map [("v", .list [.int 1, .int 0, .int 2])]
    let query := (registry.handle "docs").query sought
    let Served (current : Session Script) : Prop := ∃ clause,
      Records [.statement (.search clause)] current (perform query current).2 ∧
        VectorIndex.Serves ⟨⟨"public", "docs"⟩, "v", "vector_l2_ops"⟩ (Sql.tokens clause.text)
    creation.1 = .ok () ∧ Served creation.2 ∧
      ∃ binding config known, creation.2.bindings.lookup "docs" = some binding ∧
        Json.decode (.text binding.toJson) = .ok config ∧ Binding.read config = .valid known ∧
        Served { world := {}, ready := true, bindings := [("docs", known)] } := by
  intro schema registry creation sought query Served
  let fields : IndexSchema :=
    [("id", .scalar ⟨.string, false⟩ true), ("v", .vector 3 .euclidean false)]
  let binding := fields.binding "public" "docs" "id"
  let session : Session Script := { world := {}, ready := true }
  have accepts : AcceptsSchema (.map schema) fields "id" := ⟨rfl, rfl, rfl⟩
  have initialized : perform registry.ensureReady session = (.ok (), session) := rfl
  obtain ⟨createdAt, clock⟩ : ∃ createdAt, storingTime
      (advance ((tableStatements "docs" "public" fields).map .statement) session.world) =
        .ok createdAt := ⟨_, rfl⟩
  obtain ⟨-, -, succeeds, -, loads, serves⟩ :=
    vector_indexes_serve (by decide) accepts initialized clock
  obtain ⟨created, -, ready, bound⟩ := succeeds ⟨rfl, rfl, rfl, trivial⟩
  obtain ⟨config, known, decoded, read⟩ := loads .text .text
  obtain ⟨-, serves⟩ := serves "v" 3 .euclidean false (by simp [fields]) (by decide)
  let vector : Value := .list [.int 1, .int 0, .int 2]
  let q : SearchQuery := { query := some [[("v", vector)]] }
  have seeks : q.SeeksNearest "v" vector := ⟨rfl, ⟨_, rfl, List.mem_singleton_self _⟩, rfl⟩
  -- The query is accepted under every binding, since only its vector has to be written.
  have served {known : Binding} (as : binding.KnownAs known) {current : Session Script}
      (ready : current.ready = true) (knows : current.bindings.lookup "docs" = some known) :
      Served current := by
    obtain ⟨search, accepted⟩ : ∃ search, Search.ofBinding q known = .ok search := ⟨_, rfl⟩
    obtain ⟨clause, written⟩ := (Search.clause_succeeds accepted).mpr fun given sought => by
      obtain rfl : vector = given := Option.some.inj sought
      exact ⟨_, rfl⟩
    exact ⟨clause, serves _ as _ ready knows _ q _ search clause rfl seeks accepted written⟩
  exact ⟨created, served .created ready bound, binding, config, known, bound, decoded, read,
    served (.loaded .text decoded read) rfl rfl⟩

end Registry

end TableSearch
