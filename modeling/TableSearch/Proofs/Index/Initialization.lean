import TableSearch.Proofs.Index.BindingTable

/-!
# Registries that initialize themselves

A registry that initializes itself loads the bindings of this library from their table, in
whatever order the rows are listed.  It fails only if the database refuses a statement, or if a row
of this library cannot be read.
-/

namespace TableSearch

open Sql Operation

variable {σ : Type} [World σ]

/-! ## Loaded bindings -/

def remembered (found before : List (String × Binding)) : List (String × Binding) :=
  found.foldl (fun bindings entry => insertEntry entry.1 entry.2 bindings) before

omit [World σ] in
/-- Rows are loaded if each of them can be read, and then what they say is remembered. -/
theorem Registry.loadRows_eq_ok {loaded : List Row} {session after : Session σ} :
    perform (loadRows loaded) session = (.ok (), after) ↔
      ∃ found, List.Forall₂ (fun row entry => bindingOfRow row = .ok entry) loaded found ∧
        after = { session with bindings := remembered found session.bindings } := by
  -- Each row is remembered before the next one is read, so the session is any.
  induction loaded generalizing session with
  | nil =>
    constructor
    · intro done
      cases done
      exact ⟨[], .nil, rfl⟩
    · rintro ⟨_, ⟨⟩, rfl⟩
      rfl
  | cons row loaded ih =>
    simp only [loadRows, perform_bind_eq_ok, perform_ofExcept_eq_ok]
    constructor
    · rintro ⟨entry, _, ⟨read, rfl⟩, _, _, kept, rest⟩
      cases kept
      obtain ⟨found, each, same⟩ := ih.mp rest
      exact ⟨entry :: found, .cons read each, same⟩
    · rintro ⟨_, each, same⟩
      cases each with
      | cons read rest => exact ⟨_, session, ⟨read, rfl⟩, (), _, rfl, ih.mpr ⟨_, rest, same⟩⟩

def BindingRow.listed (shown : String → Value) (row : BindingRow) : Row :=
  [("id", .text row.id), ("config", shown row.config)]

theorem BindingRow.bindingOfRow_listed {shown : String → Value} {row : BindingRow}
    {entry : String × Binding} :
    Registry.bindingOfRow (row.listed shown) = .ok entry ↔
      entry.1 = row.id ∧ row.Holds shown entry.2 := by
  obtain ⟨indexId, binding⟩ := entry
  rw [Registry.bindingOfRow_eq_ok]
  constructor
  · rintro ⟨stored, config, there, decoded, read, named⟩
    cases there
    cases named
    exact ⟨rfl, config, decoded, read⟩
  · rintro ⟨rfl, config, decoded, read⟩
    exact ⟨_, config, rfl, decoded, read, rfl⟩

/-- An answer with a row for each of some items is read if each of these rows is. -/
theorem Outcome.exists_ofResult {α : Type} {result : ResultSet} {columns : List String}
    {items : List α} {values : α → List Value} {row : α → Row}
    (named : result.columns = some columns) (listed : result.rows = items.map values)
    (read : ∀ item, Row.ofValues columns (values item) = .ok (row item)) :
    ∃ outcome, Outcome.ofResult result = .ok outcome ∧ outcome.rows = items.map row := by
  have each : result.rows.mapM (Row.ofValues columns) = .ok (items.map row) := by
    rw [listed, mapM_map_eq_ok read]
  simp only [ofResult, named, each, bind_eq_ok, pure_eq_ok]
  exact ⟨_, ⟨_, rfl, rfl⟩, rfl⟩

theorem BindingRow.ofResult_listed {shown : String → Value} {listed : List BindingRow}
    {result : ResultSet} (columns : result.columns = some ["id", "config"])
    (values : result.rows = listed.map fun row => [.text row.id, shown row.config]) :
    ∃ outcome, Outcome.ofResult result = .ok outcome ∧
      outcome.rows = listed.map (BindingRow.listed shown) :=
  Outcome.exists_ofResult columns values fun _ => rfl

/-- What a registry does to initialize itself behind the user's hook and the extension. -/
def Registry.load (registry : Registry) : Operation σ Unit := do
  run_ (.createSchema registry.schema)
  run_ (.createRegistry registry.table)
  let outcome ← run (.loadBindings registry.table)
  loadRows outcome.rows
  log (.loaded (← get).bindings.length)
  modify fun session => { session with ready := true }

/-- Sessions between which a registry has loaded the bindings of this library, whatever the order
in which they were listed. -/
structure Loads (rows : σ → Option (List BindingRow)) (shown : String → Value)
    (before after : Session σ) : Prop where
  ready : after.ready = true
  table : rows after.world = some ((rows before.world).getD [])
  loaded : ∃ (listed : List BindingRow) (found : List (String × Binding)),
    listed.Perm (((rows before.world).getD []).filter (·.isOwn)) ∧
      List.Forall₂ (fun row entry => entry.1 = row.id ∧ row.Holds shown entry.2) listed found ∧
      after.bindings = remembered found before.bindings

namespace BindingTable

variable {registry : Registry} {rows : σ → Option (List BindingRow)} {shown : String → Value}
  (laws : BindingTable registry.table rows shown) {session after : Session σ}

include laws

theorem loads_rows {outcome : Outcome} {middle : Session σ}
    (ran : perform (run (.loadBindings registry.table)) session = (.ok outcome, middle))
    (loaded : perform (Registry.loadRows outcome.rows) middle = (.ok (), after)) :
    rows after.world = rows session.world ∧
      ∃ (listed : List BindingRow) (found : List (String × Binding)),
        listed.Perm (((rows session.world).getD []).filter (·.isOwn)) ∧
          List.Forall₂ (fun row entry => entry.1 = row.id ∧ row.Holds shown entry.2) listed found ∧
          after.bindings = remembered found session.bindings := by
  obtain ⟨rfl, result, accepted, read⟩ := accepts_of_run ran
  obtain ⟨kept, listed, perm, columns, values⟩ := laws.loadBindings accepted
  obtain ⟨other, read', shows⟩ := BindingRow.ofResult_listed columns values
  cases read.symm.trans read'
  obtain ⟨found, each, rfl⟩ := Registry.loadRows_eq_ok.mp loaded
  refine ⟨kept, listed, found, perm, ?_, rfl⟩
  rw [shows, List.forall₂_map_left_iff] at each
  exact each.imp fun row entry read => BindingRow.bindingOfRow_listed.mp read

theorem loads_load (done : perform registry.load session = (.ok (), after)) :
    Loads rows shown session after := by
  simp only [Registry.load, perform_bind_eq_ok] at done
  obtain ⟨_, first, schema, _, second, create, outcome, third, ran, _, fourth, loaded, _, _, same,
    _, _, logged, finished⟩ := done
  obtain ⟨rfl, _, accepted⟩ := accepts_of_run_ schema
  obtain ⟨rfl, _, created⟩ := accepts_of_run_ create
  obtain ⟨kept, listed, found, perm, each, bindings⟩ := laws.loads_rows ran loaded
  -- The table may have been missing before, in which case there was nothing to load.
  have start : rows (session.executed (.createSchema registry.schema)).world = rows session.world :=
    laws.createSchema accepted
  have there := laws.createRegistry created
  rw [start] at there
  rw [there, Option.getD_some] at perm
  rw [there] at kept
  cases same
  cases logged
  cases finished
  exact ⟨rfl, kept, listed, found, perm, each, bindings⟩

/-- A registry that initializes itself loads the bindings of this library. -/
theorem loads (fresh : session.ready = false)
    (done : perform registry.ensureReady session = (.ok (), after)) :
    Loads rows shown session after := by
  rw [registry.perform_ensureReady_of_fresh fresh] at done
  obtain ⟨hooked, hook, done⟩ := perform_optional_eq_ok done
  obtain ⟨extended, extension, done⟩ := perform_optional_eq_ok done
  -- What comes before the load leaves both the rows and the known bindings as they are.
  have first : rows hooked.world = rows session.world ∧ hooked.bindings = session.bindings := by
    rcases hook with rfl | hook
    · exact ⟨rfl, rfl⟩
    · rw [Registry.perform_runHook, Prod.mk.injEq] at hook
      obtain ⟨-, rfl⟩ := hook
      exact ⟨laws.hook session.world, rfl⟩
  have second : rows extended.world = rows hooked.world ∧ extended.bindings = hooked.bindings := by
    rcases extension with rfl | extension
    · exact ⟨rfl, rfl⟩
    · obtain ⟨rfl, _, accepted⟩ := accepts_of_run_ extension
      exact ⟨laws.createExtension accepted, rfl⟩
  obtain ⟨ready, table, loaded⟩ := laws.loads_load done
  rw [second.1, first.1] at table loaded
  rw [second.2, first.2] at loaded
  exact ⟨ready, table, loaded⟩

end BindingTable

/-! ## Readable rows -/

/-- A database that refuses nothing of what a registry asks to initialize itself. -/
structure Registry.Admitted (registry : Registry) (rows : σ → Option (List BindingRow)) : Prop where
  hook : registry.hasHook = true → ∀ world : σ, (World.runHook world).1 = true
  createExtension : registry.createExtension = true → ∀ world : σ,
    Answer.isSuccess (World.execute .createExtension world).1 = true
  createSchema : ∀ world : σ,
    Answer.isSuccess (World.execute (.createSchema registry.schema) world).1 = true
  createRegistry : ∀ world : σ,
    Answer.isSuccess (World.execute (.createRegistry registry.table) world).1 = true
  loadBindings : ∀ world : σ, (rows world).isSome = true →
    ∃ result next, Accepts (.loadBindings registry.table) world result next

def Readable (shown : String → Value) (rows : List BindingRow) : Prop :=
  ∀ row ∈ rows, row.isOwn = true → ∃ binding, row.Holds shown binding

theorem run_of_isSuccess {statement : Statement} {session : Session σ}
    (success : Answer.isSuccess (World.execute statement session.world).1 = true) :
    perform (run_ statement) session = (.ok (), session.executed statement) := by
  rw [perform_run_]
  unfold Answer.isSuccess at success
  cases answer : Answer.outcome (World.execute statement session.world).1 with
  | error failure =>
    rw [answer] at success
    cases success
  | ok outcome => rfl

theorem run_of_accepts {statement : Statement} {session : Session σ} {result : ResultSet} {next : σ}
    {outcome : Outcome} (accepted : Accepts statement session.world result next)
    (read : Outcome.ofResult result = .ok outcome) :
    perform (run statement) session = (.ok outcome, session.executed statement) := by
  rw [perform_run, accepted, Answer.outcome_ok, read]
  rfl

namespace BindingTable

variable {registry : Registry} {rows : σ → Option (List BindingRow)} {shown : String → Value}
  (laws : BindingTable registry.table rows shown) (admitted : registry.Admitted rows)
  {session : Session σ} (readable : Readable shown ((rows session.world).getD []))

include laws admitted readable

theorem exists_load : ∃ done after, perform registry.load session = (.ok done, after) := by
  let prepared := session.executed (.createSchema registry.schema)
  let created := prepared.executed (.createRegistry registry.table)
  have schema : perform (run_ (.createSchema registry.schema)) session = (.ok (), prepared) :=
    run_of_isSuccess (admitted.createSchema session.world)
  have create : perform (run_ (.createRegistry registry.table)) prepared = (.ok (), created) :=
    run_of_isSuccess (admitted.createRegistry prepared.world)
  obtain ⟨-, _, accepted⟩ := accepts_of_run_ schema
  obtain ⟨-, _, accepted'⟩ := accepts_of_run_ create
  -- By now the table is there, whether or not it was before, and can be listed.
  have there := laws.createRegistry accepted'
  rw [laws.createSchema accepted] at there
  have present : (rows created.world).isSome = true := by rw [there]; rfl
  obtain ⟨result, _, answered⟩ := admitted.loadBindings created.world present
  obtain ⟨-, listed, perm, columns, values⟩ := laws.loadBindings answered
  obtain ⟨outcome, read, shows⟩ := BindingRow.ofResult_listed columns values
  have ran := run_of_accepts answered read
  rw [there, Option.getD_some] at perm
  have each : ∀ row ∈ outcome.rows, ∃ entry, Registry.bindingOfRow row = .ok entry := by
    rw [shows, List.forall_mem_map]
    intro row mem
    obtain ⟨inside, own⟩ := List.mem_filter.mp (perm.mem_iff.mp mem)
    obtain ⟨binding, holds⟩ := readable row inside own
    exact ⟨(row.id, binding), BindingRow.bindingOfRow_listed.mpr ⟨rfl, holds⟩⟩
  obtain ⟨found, each⟩ := exists_forall₂ each
  simp only [Registry.load, perform_bind_eq_ok]
  exact ⟨(), _, (), _, schema, (), _, create, outcome, _, ran, (), _,
    Registry.loadRows_eq_ok.mpr ⟨found, each, rfl⟩, _, _, rfl, (), _, rfl, rfl⟩

/-- A registry initializes itself if it is admitted and can read the rows of this library. -/
theorem initializes : ∃ after, perform registry.ensureReady session = (.ok (), after) := by
  have prepares : ∃ done after, perform registry.prepare session = (.ok done, after) := by
    -- Neither the user's hook nor the extension touches the rows.
    refine exists_perform_optional (fun middle => rows middle.world = rows session.world) rfl
      (fun hasHook => ?_) fun hooked same => ?_
    · rw [Registry.perform_runHook, admitted.hook hasHook]
      exact ⟨_, rfl, laws.hook session.world⟩
    · refine exists_perform_optional (fun middle => rows middle.world = rows session.world) same
        (fun creates => ?_) fun extended same => ?_
      · have extension := run_of_isSuccess (admitted.createExtension creates hooked.world)
        obtain ⟨-, _, accepted⟩ := accepts_of_run_ extension
        exact ⟨_, extension, (laws.createExtension accepted).trans same⟩
      · exact laws.exists_load admitted (same ▸ readable)
  obtain ⟨⟨⟩, after, done⟩ := prepares
  cases ready : session.ready with
  | true => exact ⟨session, registry.perform_ensureReady ready⟩
  | false => exact ⟨after, (registry.perform_ensureReady_of_fresh ready).trans done⟩

end BindingTable

/-! ## A database with a table of bindings -/

/-- A database that holds a table of bindings, and of other tables their names alone. -/
structure Database where
  bindings : Option (List BindingRow) := none
  tables : List TableName := []

namespace Database

/-- The table of bindings of a registry that is set up in the standard way. -/
def registryTable : TableName := Registry.table {}

/-- Answers a statement on the table of bindings, if it is there. -/
def onBindings (table : TableName) (database : Database)
    (act : List BindingRow → ResultSet × List BindingRow) : Except String ResultSet × Database :=
  match database.bindings with
  | some rows =>
    if table = registryTable then
      (.ok (act rows).1, { database with bindings := some (act rows).2 })
    else (.error "relation does not exist", database)
  | none => (.error "relation does not exist", database)

def execute (statement : Statement) (database : Database) : Except String ResultSet × Database :=
  match statement with
  | .createRegistry table =>
    if table = registryTable then
      (.ok {}, { database with bindings := some (database.bindings.getD []) })
    else (.ok {}, { database with tables := table :: database.tables })
  | .loadBindings table =>
    database.onBindings table fun rows =>
      ({ columns := some ["id", "config"]
         rows := (rows.filter (·.isOwn)).map fun row => [.text row.id, .text row.config] }, rows)
  | .storeBinding table indexId config _ =>
    database.onBindings table fun rows => ({}, BindingRow.store indexId config rows)
  | .forgetBinding table indexId =>
    database.onBindings table fun rows => ({}, BindingRow.remove indexId rows)
  | .createTable table _ =>
    if table ∈ database.tables ∨ (table = registryTable ∧ database.bindings.isSome) then
      (.error "relation already exists", database)
    else (.ok {}, { database with tables := table :: database.tables })
  | .dropTable table =>
    if table = registryTable then (.ok {}, { database with bindings := none })
    else (.ok {}, { database with tables := database.tables.erase table })
  | _ => (.ok {}, database)

instance : World Database where
  execute := execute
  runHook database := (true, database)
  now _ := .zero

theorem onBindings_accepts {table : TableName} {database next : Database} {result : ResultSet}
    {act : List BindingRow → ResultSet × List BindingRow}
    (accepted : database.onBindings table act = (.ok result, next)) :
    ∃ rows, database.bindings = some rows ∧ result = (act rows).1 ∧
      next.bindings = some (act rows).2 := by
  unfold onBindings at accepted
  split at accepted
  next rows there =>
    split at accepted
    next =>
      cases accepted
      exact ⟨rows, there, rfl, rfl⟩
    next => cases accepted
  next => cases accepted

theorem onBindings_of_some {database : Database} {rows : List BindingRow}
    (there : database.bindings = some rows) (act : List BindingRow → ResultSet × List BindingRow) :
    database.onBindings registryTable act =
      (.ok (act rows).1, { database with bindings := some (act rows).2 }) := by
  rw [onBindings, there]
  exact if_pos rfl

theorem bindingTable : BindingTable registryTable Database.bindings .text where
  hook _ := rfl
  createExtension accepted := by
    cases accepted
    rfl
  createSchema accepted := by
    cases accepted
    rfl
  createRegistry accepted := by
    cases accepted
    rfl
  loadBindings accepted := by
    obtain ⟨rows, there, rfl, kept⟩ := onBindings_accepts accepted
    rw [there]
    exact ⟨kept, _, .refl _, rfl, rfl⟩
  storeBinding accepted := by
    obtain ⟨rows, there, -, kept⟩ := onBindings_accepts accepted
    exact ⟨rows, there, kept⟩
  forgetBinding accepted := by
    obtain ⟨rows, there, -, kept⟩ := onBindings_accepts accepted
    exact ⟨rows, there, kept⟩
  createTable {created fields world result next} accepted before there := by
    change Database.execute (.createTable created fields) world = _ at accepted
    unfold execute at accepted
    dsimp only at accepted
    split at accepted
    next => cases accepted
    next =>
      cases accepted
      exact there
  createIndex accepted := by
    cases accepted
    rfl
  dropTable {dropped world result next} accepted := by
    change Database.execute (.dropTable dropped) world = _ at accepted
    unfold execute at accepted
    dsimp only at accepted
    split at accepted
    next =>
      cases accepted
      exact .inl rfl
    next =>
      cases accepted
      exact .inr rfl
  shown := .text

theorem admitted : Registry.Admitted {} Database.bindings where
  hook _ _ := rfl
  createExtension _ _ := rfl
  createSchema _ := rfl
  createRegistry _ := rfl
  loadBindings database there := by
    obtain ⟨rows, there⟩ := Option.isSome_iff_exists.mp there
    exact ⟨_, _, onBindings_of_some there _⟩

def opened (database : Database) : Session Database :=
  (perform (Registry.ensureReady {}) { world := database }).2

theorem perform_opened {database : Database}
    (done : (perform (Registry.ensureReady {}) { world := database }).1 = .ok ()) :
    perform (Registry.ensureReady {}) { world := database } = (.ok (), database.opened) :=
  Prod.ext done rfl

end Database

end TableSearch
