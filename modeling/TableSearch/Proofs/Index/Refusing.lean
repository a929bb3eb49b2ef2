import TableSearch.Proofs.Index.FirstUse
import TableSearch.Proofs.Index.Upserting
import TableSearch.Proofs.Query.Answering

/-!
# Calls that are refused

A call may ask for something that cannot be done whatever the database says: with a schema, a
binding or a query that cannot be read, with a query that no statement answers, or with a document
that no row stores.  Such a call fails before any statement of its own is sent.  If that can be told
without the registry, not even the initialization is begun; otherwise the initialization is all that
the call has done.
-/

namespace TableSearch

open Sql Operation

variable {σ α : Type} [World σ]

/-! ## Documents -/

namespace Document

variable {documents : List Value}

/-- A row can store a document: a mapping with a text as its key and with values that can all be
written to their columns. -/
def Writable (binding : Binding) (document : Value) : Prop :=
  ∃ entries key, document = .map entries ∧
    entries.lookup binding.keyField = some (.text key) ∧ Encodable binding entries

/-- Documents that repeat no keys can be written together if each of them can be written. -/
theorem exists_upsert_iff (binding : Binding)
    (distinct : ∀ entries, .map entries ∈ documents → (entries.map (·.1)).Nodup) :
    (∃ statement, upsert binding documents = .ok statement) ↔
      ∀ document ∈ documents, Writable binding document := by
  constructor
  · rintro ⟨statement, written⟩ document mem
    simp only [upsert, bind_eq_ok, Failure.ofConversion, mapError_eq_ok, mapM_eq_ok] at written
    obtain ⟨names, found, rows, made, -⟩ := written
    obtain ⟨cells, -, own⟩ := exists_mem_of_forall₂ made mem
    obtain ⟨key, named, -⟩ := bind_eq_ok.mp own
    obtain ⟨entries, rfl, keyed⟩ := key_eq_ok.mp named
    obtain ⟨_, _, -, -, encoded⟩ := row_eq_ok own
    refine ⟨entries, key, rfl, keyed, fun entry inside other => ?_⟩
    -- Rows are made for the fields of all documents, so the document's own are among them.
    have among : entry.1 ∈ names := mem_fieldNames found mem other (List.mem_map_of_mem inside)
    obtain ⟨cell, -, encodes⟩ := exists_mem_of_forall₂ encoded among
    rw [lookup_of_mem (distinct entries mem) inside] at encodes
    exact ⟨cell, encodes⟩
  · intro writable
    obtain ⟨batch, each⟩ := exists_forall₂ writable
    have mapped : documents = batch.map .map := by
      rw [← List.map_id documents]
      refine map_eq_map_of_forall₂ each ?_
      rintro document entries ⟨key, same, -⟩
      exact same
    have stored (entries : Entries) (mem : entries ∈ batch) :
        (∃ key, entries.lookup binding.keyField = some (.text key)) ∧
          Encodable binding entries := by
      obtain ⟨document, -, key, -, keyed, encodable⟩ := exists_mem_of_forall₂ each.flip mem
      exact ⟨⟨key, keyed⟩, encodable⟩
    obtain ⟨_, statement, _, written, -⟩ :=
      exists_inserts (fun entries mem => (stored entries mem).1) fun entries mem =>
        (stored entries mem).2
    exact ⟨statement, mapped ▸ written⟩

end Document

/-- No mapping among several things repeats a key if none in the whole does. -/
theorem Value.HasDistinctKeys.of_things {input : Value} {things : List Value}
    (proper : input.HasDistinctKeys) (same : input.toThings = .ok things) {entries : Entries}
    (mem : .map entries ∈ things) : (entries.map (·.1)).Nodup := by
  cases input with
  | map own =>
    cases same
    cases List.mem_singleton.mp mem
    exact proper.of_map.1
  | text =>
    cases same
    cases List.mem_singleton.mp mem
  | list | tuple =>
    cases same
    exact (proper.of_items rfl _ mem).of_map.1
  | bytes bytes =>
    cases same
    obtain ⟨_, -, number⟩ := List.mem_map.mp mem
    cases number
  | null | bool | int | real | timestamp | decimal => cases same

/-! ## Operations that fail without a trace -/

/-- An operation has failed, and since a session nothing was sent and nothing has changed in
it but the log. -/
structure FailsFrom (before : Session σ) (made : Except Failure α × Session σ) : Prop where
  fails : ∃ failure, made.1 = .error failure
  events : made.2.events = before.events
  world : made.2.world = before.world
  ready : made.2.ready = before.ready
  bindings : made.2.bindings = before.bindings

theorem Plan.Done.failsFrom {failure : Failure} {before : Session σ}
    {made : Except Failure α × Session σ} (done : Done { failure := some failure } before made) :
    FailsFrom before made where
  fails := ⟨failure, done.stops trivial failure rfl⟩
  events := done.records.events.trans (List.append_nil _)
  world := done.records.world
  ready := done.ready
  bindings := done.bindings

/-- If an operation fails without a trace on the initialized registry, then the initialization is
all that is left of it. -/
theorem Opens.failsFrom {registry : Registry} {action : Operation σ α} {session : Session σ}
    (opens : Opens registry action)
    (rest : (perform registry.ensureReady session).2.ready = true →
      FailsFrom (perform registry.ensureReady session).2
        (perform action (perform registry.ensureReady session).2)) :
    FailsFrom (perform registry.ensureReady session).2 (perform action session) := by
  have whole : perform action session =
      perform (registry.ensureReady >>= fun _ => action) session := by rw [opens]
  rw [whole, perform_bind]
  cases attempt : perform registry.ensureReady session with
  | mk result middle =>
    rw [attempt] at rest
    cases result with
    | ok => exact rest (registry.ready_of_ensureReady attempt)
    -- An initialization that fails is what the operation fails with.
    | error failure => exact ⟨⟨failure, rfl⟩, rfl, rfl, rfl, rfl⟩

/-! ## Calls -/

def IndexSchema.IsReadFrom (fields : IndexSchema) (entries : Entries) : Prop :=
  List.Forall₂ (fun entry field => entry.1 = field.1 ∧ FieldSchema.read entry.2 = .valid field.2)
    entries fields

theorem Registry.readSchema_iff {schema : Value} {fields : IndexSchema} :
    readSchema schema = .ok fields ↔
      ∃ entries, schema = .map entries ∧ fields.IsReadFrom entries := by
  have own (entry : String × Value) (field : String × FieldSchema) :
      (do return (entry.1, ← Failure.ofChecked (FieldSchema.read entry.2)) :
        Except Failure (String × FieldSchema)) = .ok field ↔
        entry.1 = field.1 ∧ FieldSchema.read entry.2 = .valid field.2 := by
    obtain ⟨name, value⟩ := field
    simp only [bind_eq_ok, pure_eq_ok, Failure.ofChecked_eq_ok, Prod.mk.injEq]
    constructor
    · rintro ⟨_, read, rfl, rfl⟩
      exact ⟨rfl, read⟩
    · rintro ⟨rfl, read⟩
      exact ⟨_, read, rfl, rfl⟩
  simp only [readSchema, bind_eq_ok, Failure.ofConversion, mapError_eq_ok, Document.toEntries_eq_ok,
    mapM_eq_ok, own, IndexSchema.IsReadFrom]

theorem IndexSchema.exists_key_iff {schema : IndexSchema} :
    (∃ name, schema.key = .ok name) ↔ schema.keys.length = 1 := by
  rw [key, List.length_eq_one_iff]
  split
  next none => simp [none]
  next name one => simp [one]
  next _ several => simpa using several

namespace Call

/-- What a call is given can be read, and a schema has exactly one primary key.  Nothing has to be
known about the registry to tell. -/
def WellFormed : Call → Prop
  | createIndex _ _ schema => ∃ (entries : Entries) (fields : IndexSchema),
      schema = .map entries ∧ fields.IsReadFrom entries ∧ fields.keys.length = 1
  | bindValue _ value => ∃ binding, Binding.read value = .valid binding
  | query _ input => ∃ q, SearchQuery.normalize input = .ok q
  | upsert _ input => ∃ documents, input.toThings = .ok documents
  | _ => True

/-- What a call is given can be read, but it asks for something that cannot be done under the
bindings: its query cannot be answered, or one of its documents cannot be stored. -/
inductive Infeasible (bindings : List (String × Binding)) : Call → Prop where
  | query {indexId : String} {input : QueryInput} {q : SearchQuery}
      (read : SearchQuery.normalize input = .ok q) (unanswerable : ¬ q.Answerable) :
      Infeasible bindings (.query indexId input)
  | upsert {indexId : String} {input : Value} {documents : List Value} {document : Value}
      (same : input.toThings = .ok documents) (mem : document ∈ documents)
      (unwritable : ¬ Document.Writable (.current bindings indexId) document) :
      Infeasible bindings (.upsert indexId input)

/-- No mapping in the queries and documents of a call repeats a key. -/
def HasDistinctKeys : Call → Prop
  | query _ input => input.HasDistinctKeys
  | upsert _ input => input.HasDistinctKeys
  | _ => True

/-- A call that is given something malformed fails before anything else. -/
theorem perform_malformed (registry : Registry) {call : Call} (malformed : ¬ call.WellFormed)
    (session : Session σ) :
    ∃ failure, perform (call.operation registry) session = (.error failure, session) := by
  -- By the kinds of calls: each of them reads its argument before it does anything else.
  cases call with
  | createIndex indexId schemaName schema =>
    cases read : Registry.readSchema schema with
    | error failure =>
      refine ⟨failure, ?_⟩
      simp only [operation, Registry.createIndex, read, perform_bind, perform_ofExcept]
    | ok fields =>
      obtain ⟨entries, rfl, each⟩ := Registry.readSchema_iff.mp read
      cases keyed : fields.key with
      | ok name =>
        have one := IndexSchema.exists_key_iff.mp ⟨name, keyed⟩
        exact absurd ⟨entries, fields, rfl, each, one⟩ malformed
      | error error =>
        refine ⟨.schema error, ?_⟩
        simp only [operation, Registry.createIndex, read, keyed, perform_bind, perform_ofExcept]
        rfl
  | bindValue indexId value =>
    cases read : Binding.read value with
    | valid binding => exact absurd ⟨binding, read⟩ malformed
    | invalid faults =>
      refine ⟨.invalid faults, ?_⟩
      simp only [operation, Registry.bindValue, read]
      rfl
  | query indexId input =>
    cases read : SearchQuery.normalize input with
    | ok q => exact absurd ⟨q, read⟩ malformed
    | error failure =>
      refine ⟨failure, ?_⟩
      simp only [operation, Handle.query, read]
      rfl
  | upsert indexId input =>
    cases read : input.toThings with
    | ok documents => exact absurd ⟨documents, read⟩ malformed
    | error error =>
      refine ⟨.conversion error, ?_⟩
      simp only [operation, Handle.upsert, read]
      rfl
  | startup | shutdown | bindIndex | describeIndex | deleteIndex | listIndexes | nextPage | patch
  | delete => exact absurd trivial malformed

variable {call : Call} {bindings : List (String × Binding)}

/-- For something that cannot be done nothing but a failure is planned. -/
theorem plan_of_infeasible (proper : call.HasDistinctKeys)
    (infeasible : call.Infeasible bindings) :
    ∃ indexId failure, call.handled? = some indexId ∧
      call.plan (.current bindings indexId) = { failure := some failure } := by
  cases infeasible with
  | @query indexId input q read unanswerable =>
    -- A statement could be made of the query just if it were answerable.
    have none : ¬ ∃ search clause, Search.ofBinding q (.current bindings indexId) = .ok search ∧
        search.clause = .ok clause :=
      mt (Search.exists_clause_iff _ _ _ fun _ =>
        QueryInput.HasDistinctKeys.filter proper read).mp unanswerable
    simp only [plan, Plan.ofQuery, read, Plan.after]
    cases accepted : Search.ofBinding q (.current bindings indexId) with
    | error failure => exact ⟨indexId, failure, rfl, by rw [accepted]⟩
    | ok search =>
      cases written : search.clause with
      | error error =>
        refine ⟨indexId, .conversion error, rfl, ?_⟩
        simp only [accepted, written]
        rfl
      | ok clause => exact absurd ⟨search, clause, accepted, written⟩ none
  | @upsert indexId input documents document same mem unwritable =>
    have none := mt (Document.exists_upsert_iff (.current bindings indexId) fun _ =>
      Value.HasDistinctKeys.of_things proper same).mp fun each => unwritable (each document mem)
    have nonempty : documents.isEmpty = false :=
      List.isEmpty_eq_false_iff.mpr (List.ne_nil_of_mem mem)
    cases written : Document.upsert (.current bindings indexId) documents with
    | ok statement => exact absurd ⟨statement, written⟩ none
    | error failure =>
      refine ⟨indexId, failure, rfl, ?_⟩
      rw [plan, Plan.forThings, same]
      change (if documents.isEmpty then _ else Plan.ofDocuments _ documents) = _
      rw [nonempty, Plan.ofDocuments, written]
      rfl

/-- What is infeasible is told only behind the initialization. -/
theorem opens_of_infeasible (registry : Registry) (infeasible : call.Infeasible bindings) :
    Opens registry (call.operation registry : Operation σ Unit) := by
  cases infeasible with
  | query read =>
    refine (guards registry rfl).opens ?_
    rw [isVoid, read]
    rfl
  | upsert same mem =>
    refine (guards registry rfl).opens ?_
    rw [isVoid, same]
    exact List.isEmpty_eq_false_iff.mpr (List.ne_nil_of_mem mem)

/-- A call that is given something malformed fails and leaves the session as it is.  If what it is
given can be read, but asks for something that cannot be done, then the call fails as well, and
besides the initialization of the registry nothing was sent and no binding was changed.  A registry
that was initialized before is not initialized again. -/
theorem fails_before_statements (registry : Registry) (call : Call) (session : Session σ)
    (proper : call.HasDistinctKeys) :
    let opened := (perform registry.ensureReady session).2
    (¬ call.WellFormed →
      ∃ failure, perform (call.operation registry) session = (.error failure, session)) ∧
    (call.Infeasible opened.bindings →
      FailsFrom opened (perform (call.operation registry) session)) ∧
    (session.ready = true → opened = session) := by
  intro opened
  refine ⟨fun malformed => perform_malformed registry malformed session, fun infeasible => ?_,
    fun ready => congrArg Prod.snd (registry.perform_ensureReady ready)⟩
  obtain ⟨indexId, failure, handled, planned⟩ := plan_of_infeasible proper infeasible
  refine (opens_of_infeasible registry infeasible).failsFrom fun ready => ?_
  have done := Call.done_handled registry ready handled
  rw [planned] at done
  exact done.failsFrom

/-- So fail a schema with two primary keys, a query with a component that is too large beside one
that is not, and documents of which only the last one has no text as its key. -/
theorem fails_before_statements_on_first_use :
    let schema : Value := .map [("id", .map [("type", .text "string"), ("pk", .bool true)]),
      ("key", .map [("type", .text "string"), ("pk", .bool true)])]
    let sought : Value := .map [("embedding", .list [.int 1, .int (10 ^ 400)])]
    let documents : Value := .list [.map [("id", .text "a")], .map [("id", .int 7)]]
    let session : Session Script := { world := {} }
    let opened := (perform (Registry.ensureReady {}) session).2
    (∃ failure, perform ((createIndex "docs" "public" schema).operation {}) session =
      (.error failure, session)) ∧
    FailsFrom opened (perform ((query "docs" sought).operation {}) session) ∧
    FailsFrom opened (perform ((upsert "docs" documents).operation {}) session) ∧
    opened.events ≠ session.events := by
  intro schema sought documents session opened
  refine ⟨?_, ?_, ?_, ?_⟩
  · refine (fails_before_statements {} (.createIndex "docs" "public" schema) session trivial).1 ?_
    rintro ⟨entries, fields, same, each, one⟩
    have read : Registry.readSchema schema = .ok fields :=
      Registry.readSchema_iff.mpr ⟨entries, same, each⟩
    cases read
    cases one
  · refine (fails_before_statements {} (.query "docs" sought) session ?_).2.1 ?_
    · refine .map (by decide) ?_
      rw [List.forall_mem_singleton]
      refine .sequence rfl ?_
      rw [List.forall_mem_cons, List.forall_mem_singleton]
      exact ⟨.plain rfl nofun, .plain rfl nofun⟩
    · refine .query rfl fun answerable => ?_
      have inRange := answerable.inRange _ (List.mem_singleton.mpr rfl) "embedding" _ _
        (List.mem_singleton.mpr rfl) rfl _ (List.mem_cons_of_mem _ (List.mem_singleton.mpr rfl))
      revert inRange
      decide +kernel
  · refine (fails_before_statements {} (.upsert "docs" documents) session ?_).2.1 ?_
    · refine .sequence rfl ?_
      rw [List.forall_mem_cons, List.forall_mem_singleton]
      exact ⟨.map (by decide) (by simpa using .plain rfl nofun),
        .map (by decide) (by simpa using .plain rfl nofun)⟩
    · refine .upsert rfl (List.mem_cons_of_mem _ (List.mem_singleton.mpr rfl)) ?_
      rintro ⟨entries, key, same, keyed, -⟩
      cases same
      cases keyed
  · decide +kernel

end Call

end TableSearch
