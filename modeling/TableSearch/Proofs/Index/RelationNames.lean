import TableSearch.Proofs.Index.VectorIndexes

/-!
# The names of created relations

The tables and the indexes of a database schema share their names.  When an index is created, its
table has its id as a name, and for each vector field a name is made up from the id and the name of
the field.  The names of one index are distinct.  So are those of two indexes, unless the id of one
begins with the id of the other and meets one of its names.  Names that a database makes up by
itself, such as those for primary keys, are left out.
-/

namespace TableSearch

open Sql Operation

/-! ## Relations that are read from statements -/

namespace Sql

/-- The relation that a statement creates.  A table that may be there already is not created. -/
def createdRelation? : List Token → Option TableName
  | .word "CREATE" :: .word "TABLE" :: .name schema :: .mark '.' :: .name table :: _ =>
    some ⟨schema, table⟩
  | .word "CREATE" :: .word "INDEX" :: .name index :: .word "ON" :: .name schema :: .mark '.' ::
      _ => some ⟨schema, index⟩
  | _ => none

namespace Statement

def creates? (statement : Statement) : Option TableName :=
  createdRelation? (Sql.tokens statement.text)

theorem creates?_of_skeleton {statement : Statement} {tokens : List Token}
    {created : Option TableName} (known : statement.skeleton? = some tokens)
    (read : createdRelation? tokens = created) : statement.creates? = created := by
  rw [creates?, tokens_text known, read]

theorem creates?_createTable (table : TableName) (fields : IndexSchema) :
    (createTable table fields).creates? = some table := creates?_of_skeleton rfl rfl

theorem creates?_createIndex (table : TableName) (column : String) (metric : Metric) :
    (createIndex table column metric).creates? = some ⟨table.schema, indexName table column⟩ :=
  creates?_of_skeleton rfl rfl

end Statement

end Sql

def Event.creates? : Event → Option TableName
  | .statement sent => sent.creates?
  | _ => none

def Session.createdSince {σ : Type} (before after : Session σ) : List TableName :=
  (after.events.drop before.events.length).filterMap Event.creates?

theorem Session.createdSince_of_events {σ : Type} {before after : Session σ} {events : List Event}
    (added : after.events = before.events ++ events) :
    before.createdSince after = events.filterMap Event.creates? := by
  rw [createdSince, added, List.drop_left]

/-! ## Operations that create relations -/

section

variable {σ α β : Type}

/-- An operation that creates relations in turn: the first of them if it fails, and all of them if
it succeeds. -/
def Creates (relations : List TableName) (action : Operation σ α) : Prop :=
  ∀ session, ∃ events, (perform action session).2.events = session.events ++ events ∧
    events.filterMap Event.creates? <+: relations ∧
    ∀ a, (perform action session).1 = .ok a → events.filterMap Event.creates? = relations

namespace Creates

variable {relations others : List TableName}

theorem silent {action : Operation σ α}
    (same : ∀ session, (perform action session).2.events = session.events) :
    Creates [] action := fun session =>
  ⟨[], (same session).trans (List.append_nil _).symm, List.nil_prefix, fun _ _ => rfl⟩

theorem bind {action : Operation σ α} {next : α → Operation σ β}
    (front : Creates relations action) (back : ∀ a, Creates others (next a)) :
    Creates (relations ++ others) (action >>= next) := by
  intro session
  obtain ⟨events, added, begins, all⟩ := front session
  rw [perform_bind]
  split
  next a middle done =>
    rw [done] at added all
    obtain ⟨more, added', begins', all'⟩ := back a middle
    refine ⟨events ++ more, by rw [added', added, List.append_assoc], ?_, fun b done' => ?_⟩
    · rw [List.filterMap_append, all a rfl]
      exact (List.prefix_append_right_inj relations).mpr begins'
    · rw [List.filterMap_append, all a rfl, all' b done']
  next failure middle failed =>
    rw [failed] at added
    exact ⟨events, added, begins.trans (List.prefix_append relations others), nofun⟩

/-- What creates nothing may stand in front. -/
theorem after {action : Operation σ α} {next : α → Operation σ β} (front : Creates [] action)
    (back : ∀ a, Creates relations (next a)) : Creates relations (action >>= next) :=
  front.bind back

/-- What creates nothing may stand behind. -/
theorem before {action : Operation σ α} {next : α → Operation σ β}
    (front : Creates relations action) (back : ∀ a, Creates [] (next a)) :
    Creates relations (action >>= next) := List.append_nil relations ▸ front.bind back

/-- What is created may depend on a result that is taken over. -/
theorem after_ofExcept {result : Except Failure α} {next : α → Operation σ β}
    (rest : ∀ a, result = .ok a → Creates relations (next a)) :
    Creates relations (ofExcept result >>= next) := by
  intro session
  rw [perform_bind, perform_ofExcept]
  cases result with
  | ok a => exact rest a rfl session
  | error failure => exact ⟨[], (List.append_nil _).symm, List.nil_prefix, nofun⟩

theorem ofExcept (result : Except Failure α) :
    Creates [] (MonadExcept.ofExcept result : Operation σ α) :=
  silent fun session => by rw [perform_ofExcept]

variable [World σ]

/-- A statement counts whether it succeeds or not. -/
theorem run_ {statement : Statement} {created : Option TableName}
    (creates : statement.creates? = created) :
    Creates created.toList (run_ statement : Operation σ Unit) := by
  intro session
  rw [perform_run_]
  have single : [Event.statement statement].filterMap Event.creates? = created.toList := by
    rw [List.filterMap_cons, List.filterMap_nil, Event.creates?, creates]
    cases created <;> rfl
  exact ⟨_, (session.records_executed statement).events, single ▸ List.prefix_rfl,
    fun _ _ => single⟩

end Creates

end

/-! ## The statements of a creation -/

/-- The names of the vector fields are some of those of all fields, in their order. -/
theorem IndexSchema.sublist_vectors (fields : IndexSchema) :
    (fields.vectors.map (·.1)).Sublist (fields.map (·.1)) := by
  induction fields with
  | nil => exact .slnil
  | cons entry rest ih =>
    obtain ⟨name, field⟩ := entry
    cases field with
    | scalar type isKey => exact .cons name ih
    | vector dimensions metric isKey => exact .cons_cons name ih

/-! ## Names -/

/-- The names of the relations of an index: its table, and an index for each vector field. -/
def relationNames (indexId : String) (vectors : List String) : List String :=
  indexId :: vectors.map fun field => indexId ++ "_" ++ field ++ "_idx"

/-- An index whose id begins with that of another one takes the name of a vector index from it: for
its table, or for a vector index of its own. -/
def TakesName (indexId : String) (vectors : List String) (other : String) (others : List String) :
    Prop :=
  (∃ field ∈ vectors, other = indexId ++ "_" ++ field ++ "_idx") ∨
    ∃ rest, other = indexId ++ "_" ++ rest ∧ ∃ name ∈ others, rest ++ "_" ++ name ∈ vectors

section

variable {indexId other field name : String} {vectors others : List String}

/-- Texts that are divided by a low line in two ways. -/
theorem divided_twice {front front' back back' : List Char}
    (same : front ++ '_' :: back = front' ++ '_' :: back') :
    front = front' ∨ (∃ rest, front' = front ++ '_' :: rest ∧ back = rest ++ '_' :: back') ∨
      ∃ rest, front = front' ++ '_' :: rest ∧ back' = rest ++ '_' :: back := by
  rcases List.append_eq_append_iff.mp same with ⟨between, rfl, ends⟩ | ⟨between, rfl, ends⟩
  · cases between with
    | nil => exact .inl (List.append_nil _).symm
    | cons c rest =>
      obtain ⟨rfl, rfl⟩ := List.cons.inj ends
      exact .inr (.inl ⟨rest, rfl, rfl⟩)
  · cases between with
    | nil => exact .inl (List.append_nil _)
    | cons c rest =>
      obtain ⟨rfl, rfl⟩ := List.cons.inj ends
      exact .inr (.inr ⟨rest, rfl, rfl⟩)

theorem vectorIndex_eq_iff (different : indexId ≠ other) :
    indexId ++ "_" ++ field ++ "_idx" = other ++ "_" ++ name ++ "_idx" ↔
      (∃ rest, other = indexId ++ "_" ++ rest ∧ field = rest ++ "_" ++ name) ∨
        ∃ rest, indexId = other ++ "_" ++ rest ∧ name = rest ++ "_" ++ field := by
  have low : "_".toList = ['_'] := rfl
  simp only [← String.toList_inj, String.toList_append, List.append_cancel_right_eq]
  simp only [low, List.append_assoc, List.singleton_append]
  constructor
  · intro same
    rcases divided_twice same with same | ⟨rest, first, second⟩ | ⟨rest, first, second⟩
    · exact absurd (String.toList_inj.mp same) different
    · exact .inl ⟨.ofList rest, by simpa using first, by simpa using second⟩
    · exact .inr ⟨.ofList rest, by simpa using first, by simpa using second⟩
  · rintro (⟨rest, first, second⟩ | ⟨rest, first, second⟩)
    · rw [first, second]
      simp
    · rw [first, second]
      simp

theorem nodup_relationNames (distinct : vectors.Nodup) : (relationNames indexId vectors).Nodup := by
  refine List.nodup_cons.mpr ⟨fun mem => ?_, distinct.map fun field field' same => ?_⟩
  · -- The name of a vector index is longer than the id.
    obtain ⟨field, -, same⟩ := List.mem_map.mp mem
    have length := congrArg String.length same
    simp only [String.length_append] at length
    have low : "_".length = 1 := rfl
    omega
  · rw [← String.toList_inj] at same ⊢
    simpa using same

/-- Two indexes have a name in common exactly if one of them takes it from the other. -/
theorem exists_common_iff (different : indexId ≠ other) :
    (∃ name ∈ relationNames indexId vectors, name ∈ relationNames other others) ↔
      TakesName indexId vectors other others ∨ TakesName other others indexId vectors := by
  simp only [relationNames, List.mem_cons, List.mem_map]
  constructor
  · rintro ⟨_, rfl | ⟨field, mem, rfl⟩, same | ⟨name, mem', same⟩⟩
    · exact absurd same different
    · exact .inr (.inl ⟨name, mem', same.symm⟩)
    · exact .inl (.inl ⟨field, mem, same.symm⟩)
    -- Two index names agree where one table is the beginning of the other and the fields make up
    -- for it.
    · rcases (vectorIndex_eq_iff different).mp same.symm with
        ⟨rest, begins, rfl⟩ | ⟨rest, begins, rfl⟩
      · exact .inl (.inr ⟨rest, begins, name, mem', mem⟩)
      · exact .inr (.inr ⟨rest, begins, field, mem, mem'⟩)
  · rintro ((⟨field, mem, rfl⟩ | ⟨rest, begins, name, mem', mem⟩) |
      (⟨field, mem, rfl⟩ | ⟨rest, begins, name, mem', mem⟩))
    · exact ⟨_, .inr ⟨field, mem, rfl⟩, .inl rfl⟩
    · exact ⟨_, .inr ⟨_, mem, rfl⟩, .inr ⟨name, mem',
        ((vectorIndex_eq_iff different).mpr (.inl ⟨rest, begins, rfl⟩)).symm⟩⟩
    · exact ⟨_, .inl rfl, .inr ⟨field, mem, rfl⟩⟩
    · exact ⟨_, .inr ⟨name, mem', rfl⟩, .inr ⟨_, mem,
        ((vectorIndex_eq_iff different).mpr (.inr ⟨rest, begins, rfl⟩)).symm⟩⟩

/-- Where no vector field has a low line in its name, only a table can take a name. -/
theorem TakesName.table_of_plain (taken : TakesName indexId vectors other others)
    (plain : ∀ field ∈ vectors, '_' ∉ field.toList) :
    ∃ field ∈ vectors, other = indexId ++ "_" ++ field ++ "_idx" := by
  refine taken.resolve_right ?_
  rintro ⟨rest, -, name, -, mem⟩
  exact plain _ mem (by simp)

end

namespace Registry

variable {σ : Type} [World σ] (registry : Registry)

def vectorFields (schema : Value) : List String :=
  ((readSchema schema).toOption.getD []).vectors.map (·.1)

theorem nodup_vectorFields {schema : Entries} (unrepeated : (schema.map (·.1)).Nodup) :
    (vectorFields (.map schema)).Nodup := by
  rw [vectorFields]
  cases read : readSchema (.map schema) with
  | error failure => exact List.nodup_nil
  | ok fields =>
    have distinct : (fields.map (·.1)).Nodup := readSchema_eq_ok read ▸ unrepeated
    exact distinct.sublist fields.sublist_vectors

theorem creates?_preparation : ∀ event ∈ registry.preparation, event.creates? = none := by
  have extension : Statement.createExtension.creates? = none :=
    Statement.creates?_of_skeleton rfl rfl
  have schema : (Statement.createSchema registry.schema).creates? = none :=
    Statement.creates?_of_skeleton rfl rfl
  have table : (Statement.createRegistry registry.table).creates? = none :=
    Statement.creates?_of_skeleton rfl rfl
  have bindings : (Statement.loadBindings registry.table).creates? = none :=
    Statement.creates?_of_skeleton rfl rfl
  unfold preparation
  cases registry.hasHook <;> cases registry.createExtension <;>
    simp [Event.creates?, extension, schema, table, bindings]

/-- The initialization of a registry creates nothing that must not be there yet. -/
theorem creates_ensureReady : Creates [] (registry.ensureReady : Operation σ Unit) := by
  intro session
  cases fresh : session.ready with
  | true =>
    rw [registry.perform_ensureReady fresh]
    exact ⟨[], (List.append_nil _).symm, List.nil_prefix, fun _ _ => rfl⟩
  | false =>
    obtain ⟨added, records, begins, -⟩ := (registry.stages_ensureReady fresh).recorded
    have nothing : added.filterMap Event.creates? = [] := List.filterMap_eq_nil_iff.mpr
      fun event mem => registry.creates?_preparation event (begins.subset mem)
    exact ⟨added, records.events, nothing ▸ List.nil_prefix, fun _ _ => nothing⟩

theorem creates_createIndexes (table : TableName) (columns : List (String × Metric)) :
    Creates (columns.map fun (column, _) => ⟨table.schema, Statement.indexName table column⟩)
      (createIndexes table columns : Operation σ Unit) := by
  induction columns with
  | nil => exact .silent fun _ => rfl
  | cons entry rest ih =>
    obtain ⟨column, metric⟩ := entry
    exact (Creates.run_ (Statement.creates?_createIndex table column metric)).bind fun _ => ih

theorem creates_save (indexId : String) (binding : Binding) :
    Creates [] (registry.save indexId binding : Operation σ Unit) := by
  refine .after (.silent fun _ => rfl) fun session => .after (.ofExcept _) fun createdAt => ?_
  have quiet : (Statement.storeBinding registry.table indexId binding.toJson createdAt).creates? =
      none := Statement.creates?_of_skeleton rfl rfl
  exact .after (.run_ quiet) fun _ => .silent fun _ => rfl

/-- An index is created with its table first, and then with an index for each vector field. -/
theorem creates_createIndex (indexId schemaName : String) (schema : Value) :
    Creates ((relationNames indexId (vectorFields schema)).map (TableName.mk schemaName))
      (registry.createIndex indexId schemaName schema : Operation σ Unit) := by
  refine .after_ofExcept fun fields read => .after (.ofExcept _) fun key => ?_
  refine .after registry.creates_ensureReady fun _ => .after (.ofExcept _) fun _ => ?_
  have names : (relationNames indexId (vectorFields schema)).map (TableName.mk schemaName) =
      [⟨schemaName, indexId⟩] ++ fields.vectors.map fun (column, _) =>
        ⟨schemaName, Statement.indexName ⟨schemaName, indexId⟩ column⟩ := by
    rw [relationNames, vectorFields, read, List.map_cons, List.map_map]
    change _ :: ((fields.vectors.map (·.1)).map _) = _
    rw [List.map_map]
    rfl
  rw [names]
  refine (Creates.run_ (Statement.creates?_createTable _ fields)).bind fun _ => ?_
  refine (creates_createIndexes _ fields.vectors).before fun _ => ?_
  exact .after (registry.creates_save indexId _) fun _ => .silent fun _ => rfl

end Registry

/-! ## A namespace -/

/-- A database that keeps the names of its relations, and refuses to create one whose name is
taken. -/
structure Namespace where
  relations : List TableName := []

namespace Namespace

def claim (relation : TableName) (world : Namespace) : Except String ResultSet × Namespace :=
  if relation ∈ world.relations then (.error "relation already exists", world)
  else (.ok {}, ⟨relation :: world.relations⟩)

instance : World Namespace where
  execute
    | .createTable table _, world => world.claim table
    | .createIndex table column _, world =>
      world.claim ⟨table.schema, Statement.indexName table column⟩
    | _, world => (.ok {}, world)
  runHook world := (true, world)
  now _ := default

end Namespace

namespace Registry

variable {σ : Type} [World σ]

/-! ## Two creations -/

/-- The creation of an index creates its table and an index for each vector field, with distinct
names.  The names of two indexes in one schema of a database are distinct, too, unless one of them
takes a name from the other; and if it does, then both creations cannot succeed without creating a
relation of the same name. -/
theorem createdSince_createIndex {τ : Type} [World τ] (registry registry' : Registry)
    {indexId other schemaName : String} (different : indexId ≠ other) {schema schema' : Entries}
    (unrepeated : (schema.map (·.1)).Nodup) (unrepeated' : (schema'.map (·.1)).Nodup)
    (before : Session σ) (before' : Session τ) :
    let vectors := vectorFields (.map schema)
    let vectors' := vectorFields (.map schema')
    let made := perform (registry.createIndex indexId schemaName (.map schema)) before
    let made' := perform (registry'.createIndex other schemaName (.map schema')) before'
    let relations := before.createdSince made.2
    let relations' := before'.createdSince made'.2
    let collide :=
      TakesName indexId vectors other vectors' ∨ TakesName other vectors' indexId vectors
    (made.1 = .ok () → relations = (relationNames indexId vectors).map (TableName.mk schemaName)) ∧
      relations.Nodup ∧ relations'.Nodup ∧ (¬ collide → (relations ++ relations').Nodup) ∧
      (made.1 = .ok () → made'.1 = .ok () → collide →
        ∃ relation ∈ relations, relation ∈ relations') := by
  intro vectors vectors' made made' relations relations' collide
  obtain ⟨events, added, begins, all⟩ :=
    registry.creates_createIndex indexId schemaName (.map schema) before
  obtain ⟨events', added', begins', all'⟩ :=
    registry'.creates_createIndex other schemaName (.map schema') before'
  rw [← Session.createdSince_of_events added] at begins all
  rw [← Session.createdSince_of_events added'] at begins' all'
  have inj : Function.Injective (TableName.mk schemaName) :=
    fun _ _ same => (TableName.mk.inj same).2
  have distinct : relations.Nodup :=
    ((nodup_relationNames (nodup_vectorFields unrepeated)).map inj).sublist begins.sublist
  have distinct' : relations'.Nodup :=
    ((nodup_relationNames (nodup_vectorFields unrepeated')).map inj).sublist begins'.sublist
  refine ⟨all (), distinct, distinct', fun apart => ?_, fun done done' taken => ?_⟩
  · -- A creation that fails has created the first relations of a whole one.
    refine List.nodup_append'.mpr ⟨distinct, distinct', fun relation mem mem' => apart ?_⟩
    obtain ⟨name, own, rfl⟩ := List.mem_map.mp (begins.subset mem)
    obtain ⟨_, own', same⟩ := List.mem_map.mp (begins'.subset mem')
    exact (exists_common_iff different).mp ⟨name, own, inj same ▸ own'⟩
  · obtain ⟨name, own, own'⟩ := (exists_common_iff different).mpr taken
    have complete : relations = _ := all () done
    have complete' : relations' = _ := all' () done'
    rw [complete, complete']
    exact ⟨_, List.mem_map_of_mem own, List.mem_map_of_mem own'⟩

def vectorSchema (field : String) : Entries :=
  [("id", .map [("type", .text "string"), ("pk", .bool true)]),
    (field, .map [("type", .text "vector"), ("dimensions", .int 3)])]

/-- For example, an index may go on from the id of another one. -/
theorem createdSince_createIndex_version :
    let session : Session Namespace := { world := {}, ready := true }
    let made := perform (createIndex {} "docs" "public" (.map (vectorSchema "embedding"))) session
    let made' :=
      perform (createIndex {} "docs_v2" "public" (.map (vectorSchema "embedding"))) made.2
    (session.createdSince made.2 ++ made.2.createdSince made'.2).Nodup := by
  intro session made made'
  have different : "docs" ≠ "docs_v2" := by decide
  have unrepeated : ((vectorSchema "embedding").map (·.1)).Nodup := by decide
  have apart : _ → (session.createdSince made.2 ++ made.2.createdSince made'.2).Nodup :=
    (createdSince_createIndex {} {} different unrepeated unrepeated session made.2).2.2.2.1
  have plain : ∀ field ∈ ["embedding"], '_' ∉ field.toList := by decide
  refine apart ?_
  rintro (taken | taken)
  · obtain ⟨field, mem, same⟩ := taken.table_of_plain plain
    cases List.mem_singleton.mp mem
    exact absurd same (by decide)
  · obtain ⟨field, mem, same⟩ := taken.table_of_plain plain
    cases List.mem_singleton.mp mem
    exact absurd same (by decide)

/-- An index whose id and vector field make up the name of a vector index that is taken is left
without a binding, although its table has been created. -/
theorem createIndex_collides :
    let session : Session Namespace := { world := {}, ready := true }
    let made := perform (createIndex {} "a" "public" (.map (vectorSchema "b_c"))) session
    let made' := perform (createIndex {} "a_b" "public" (.map (vectorSchema "c"))) made.2
    made.1 = .ok () ∧ made'.1 = .error (.database "relation already exists") ∧
      ⟨"public", "a_b_c_idx"⟩ ∈ session.createdSince made.2 ∧
      ⟨"public", "a_b_c_idx"⟩ ∈ made.2.createdSince made'.2 ∧
      ⟨"public", "a_b"⟩ ∈ made'.2.world.relations ∧ made'.2.bindings.lookup "a_b" = none := by
  intro session made made'
  have sent : made'.2.events = made.2.events ++
      [.statement (.createTable ⟨"public", "a_b"⟩
          [("id", .scalar ⟨.string, false⟩ true), ("c", .vector 3 .cosine false)]),
        .statement (.createIndex ⟨"public", "a_b"⟩ "c" .cosine)] := rfl
  obtain ⟨events, added, -, all⟩ :=
    creates_createIndex {} "a" "public" (.map (vectorSchema "b_c")) session
  refine ⟨rfl, rfl, ?_, ?_, by decide, rfl⟩
  · rw [Session.createdSince_of_events added, all () rfl]
    exact List.mem_map_of_mem (List.mem_cons_of_mem _ (List.mem_singleton.mpr rfl))
  · rw [Session.createdSince_of_events sent]
    simp [Event.creates?, Statement.creates?_createTable, Statement.creates?_createIndex,
      Statement.indexName]

end Registry

end TableSearch
