import TableSearch.Proofs.Index.Agreement
import TableSearch.Proofs.Index.Tasks

/-!
# Interleaved changes

When several calls bind and delete indexes at the same time, the database writes their changes in
one order, and the calls make them in another one.  What is known agrees with the table of bindings
exactly if both orders end alike for every index.
-/

namespace TableSearch

open Sql Operation

variable {σ : Type} [World σ]

/-! ## Tasks that pursue a change -/

/-- The preparation of a statement, which leaves the session of an initialized registry alone. -/
def Prepares (P : Statement → Prop) (prepare : Operation σ Statement) : Prop :=
  ∀ session, session.ready = true → (perform prepare session).2 = session ∧
    ∀ statement, (perform prepare session).1 = .ok statement → P statement

def Change.MadeBy (change : Change) (action : Operation σ Unit) : Prop :=
  ∀ session, ∃ log, perform action session =
    (.ok (), { session with bindings := change.apply session.bindings, log })

/-- A process of a registry that may drop some table, then writes a change, and then makes it. -/
inductive Process.Pursues (registry : Registry) (change : Change) : Process σ → Prop where
  | write {prepare : Operation σ Statement} {action : Operation σ Unit}
      (prepares : Prepares (change.WrittenBy registry) prepare) (makes : change.MadeBy action) :
      Pursues registry change (.send prepare (.finish action))
  | drop {prepare : Operation σ Statement} {rest : Process σ}
      (prepares : Prepares (fun statement => ∃ table, statement = .dropTable table) prepare)
      (pursues : rest.Pursues registry change) : Pursues registry change (.send prepare rest)

namespace Registry

variable (registry : Registry)

theorem pursues_bindProcess (indexId : String) (binding : Binding) :
    (registry.bindProcess indexId binding : Process σ).Pursues registry
      (.bind indexId binding) := by
  refine .write (fun session ready => ?_) fun session => ⟨_, rfl⟩
  simp only [perform_bind, registry.perform_ensureReady ready, perform_get, ofConversion,
    perform_ofExcept, perform_pure]
  cases Failure.ofConversion
    (Value.real ((World.now session.world).scale 1000)).toInteger with
  | error failure =>
    refine ⟨rfl, fun statement same => ?_⟩
    cases same
  | ok createdAt =>
    refine ⟨rfl, fun statement same => ?_⟩
    cases same
    exact .bind indexId binding createdAt

theorem pursues_deleteProcess (indexId : String) :
    (registry.deleteProcess indexId : Process σ).Pursues registry (.release indexId) := by
  have write : (.send (return .forgetBinding registry.table indexId)
      (.finish do forget indexId; log (.dropped indexId)) : Process σ).Pursues registry
        (.release indexId) := by
    refine .write (fun session _ => ⟨rfl, fun statement same => ?_⟩) fun session => ⟨_, rfl⟩
    cases same
    exact .release indexId
  refine .drop (fun session ready => ?_) write
  simp only [perform_bind, registry.perform_ensureReady ready, perform_requireBinding,
    perform_pure]
  cases session.bindings.lookup indexId with
  | none => exact ⟨rfl, nofun⟩
  | some binding => exact ⟨rfl, fun statement same => ⟨_, (Except.ok.inj same).symm⟩⟩

end Registry

theorem Call.pursues_of_process? {registry : Registry} {call : Call} {change : Change}
    {process : Process σ} (pieces : call.process? registry = some (change, process)) :
    process.Pursues registry change := by
  cases call with
  | bindIndex indexId binding =>
    cases pieces
    exact registry.pursues_bindProcess indexId binding
  | bindValue indexId value =>
    simp only [process?] at pieces
    split at pieces
    next binding _ =>
      cases pieces
      exact registry.pursues_bindProcess indexId binding
    next => cases pieces
  | deleteIndex indexId =>
    cases pieces
    exact registry.pursues_deleteProcess indexId
  | startup | shutdown | createIndex | describeIndex | listIndexes | nextPage | query | upsert
  | patch | delete => cases pieces

namespace Task

/-- How far a task can be that pursues a change and has not failed. -/
inductive Pursues (registry : Registry) (change : Change) : Task σ → Prop where
  | waiting {process : Process σ} (pursues : process.Pursues registry change) :
      Pursues registry change (.paused process)
  | dropping {table : TableName} {rest : Process σ} (pursues : rest.Pursues registry change) :
      Pursues registry change (.sent (.dropTable table) rest)
  | writing {statement : Statement} {action : Operation σ Unit}
      (writes : change.WrittenBy registry statement) (makes : change.MadeBy action) :
      Pursues registry change (.sent statement (.finish action))
  | making {action : Operation σ Unit} (makes : change.MadeBy action) :
      Pursues registry change (.paused (.finish action))
  | done : Pursues registry change (.finished (.ok ()))

/-- A task that has failed, or that is going to with its next turn. -/
inductive Fails : Task σ → Prop where
  | refused (failure : Failure) : Fails (.paused (.finish (throw failure)))
  | failed (failure : Failure) : Fails (.finished (.error failure))

theorem Fails.turn {task : Task σ} (fails : task.Fails) (session : Session σ) :
    (task.turn session).1.Fails := by
  cases fails with
  | refused failure => exact .failed failure
  | failed failure => exact .failed failure

def unwritten (change : Change) : Task σ → List Change
  | paused (.send ..) | sent .. => [change]
  | paused (.finish _) | finished _ => []

def unmade (change : Change) : Task σ → List Change
  | finished _ => []
  | paused _ | sent .. => [change]

end Task

/-- What becomes of the rows when some changes are written: either the table is gone, which is the
work of a task that has still to write its change, or the changes are written. -/
def RowsMove (written unwritten : List Change) (before after : Option (List BindingRow)) : Prop :=
  (after = none ∧ (unwritten ≠ [] ∨ before = none ∧ written = [])) ∨
    ∃ stored, before = some stored ∧ after = some (written.foldl Change.write stored)

theorem RowsMove.refl (unwritten : List Change) (rows : Option (List BindingRow)) :
    RowsMove [] unwritten rows rows := by
  cases rows with
  | none => exact .inl ⟨rfl, .inr ⟨rfl, rfl⟩⟩
  | some stored => exact .inr ⟨stored, rfl, rfl⟩

theorem RowsMove.mono {written unwritten more : List Change}
    {before after : Option (List BindingRow)} (moves : RowsMove written unwritten before after)
    (within : unwritten ⊆ more) : RowsMove written more before after := by
  rcases moves with ⟨gone, remaining | never⟩ | wrote
  · refine .inl ⟨gone, .inl fun empty => remaining ?_⟩
    rw [empty] at within
    exact List.subset_nil.mp within
  · exact .inl ⟨gone, .inr never⟩
  · exact .inr wrote

theorem RowsMove.trans {first second between last : List Change}
    {before middle after : Option (List BindingRow)} (left : RowsMove first between before middle)
    (right : RowsMove second last middle after) (all : between.Perm (second ++ last)) :
    RowsMove (first ++ second) last before after := by
  rcases right with ⟨gone, right⟩ | ⟨stored, there, written⟩
  · refine .inl ⟨gone, ?_⟩
    rcases right with remaining | ⟨lost, rfl⟩
    · exact .inl remaining
    · rcases left with ⟨-, remaining | ⟨never, rfl⟩⟩ | ⟨stored, -, there⟩
      · refine .inl fun empty => remaining ?_
        rw [empty] at all
        exact all.eq_nil
      · exact .inr ⟨never, rfl⟩
      · cases lost.symm.trans there
  · rcases left with ⟨gone, -⟩ | ⟨first', before', there'⟩
    · cases gone.symm.trans there
    · cases there'.symm.trans there
      exact .inr ⟨first', before', by rw [written, List.foldl_append]⟩

/-- A statement that has been prepared is sent from the session as it is, unless its preparation
fails. -/
theorem Prepares.turn {P : Statement → Prop} {prepare : Operation σ Statement}
    (prepares : Prepares P prepare) {session : Session σ} (ready : session.ready = true)
    (rest : Process σ) :
    (∃ failure,
      (Task.paused (.send prepare rest)).turn session = (.finished (.error failure), session)) ∨
      ∃ statement, P statement ∧ (Task.paused (.send prepare rest)).turn session =
        (.sent statement rest, session.sending statement) := by
  obtain ⟨same, kinds⟩ := prepares session ready
  cases prepared : perform prepare session with
  | mk result after =>
    rw [prepared] at same kinds
    cases same
    simp only [Task.turn, Process.resume, prepared]
    cases result with
    | error failure => exact .inl ⟨failure, rfl⟩
    | ok statement => exact .inr ⟨statement, kinds statement rfl, rfl⟩

/-- The database refuses a statement, so that the task is going to fail, or accepts it. -/
theorem Task.turn_sent (statement : Statement) (rest : Process σ) (session : Session σ) :
    (∃ failure, (sent statement rest).turn session = (.paused (.finish (throw failure)),
      { session with world := (World.execute statement session.world).2 })) ∨
      ∃ result,
        Accepts statement session.world result (World.execute statement session.world).2 ∧
        (sent statement rest).turn session =
          (.paused rest, { session with world := (World.execute statement session.world).2 }) := by
  cases answer : (World.execute statement session.world).1 with
  | error message => exact .inl ⟨_, by simp only [turn, Process.answered, answer]; rfl⟩
  | ok result =>
    cases outcome : Answer.outcome (.ok result) with
    | error failure => exact .inl ⟨failure, by simp only [turn, Process.answered, answer, outcome]⟩
    | ok =>
      exact .inr ⟨result, Prod.ext answer rfl,
        by simp only [turn, Process.answered, answer, outcome]⟩

omit [World σ] in
theorem Process.Pursues.unwritten {registry : Registry} {change : Change} {process : Process σ}
    (pursues : process.Pursues registry change) :
    (Task.paused process).unwritten change = [change] := by
  cases pursues <;> rfl

namespace Task

/-- What a turn of a task does in the session that it shares. -/
structure Moves (rows : σ → Option (List BindingRow)) (change : Change) (task next : Task σ)
    (before after : Session σ) : Prop where
  ready : after.ready = before.ready
  bindings : after.bindings = (task.made change).foldl Change.apply before.bindings
  unwritten : task.unwritten change = task.written change ++ next.unwritten change
  unmade : task.unmade change = task.made change ++ next.unmade change
  rows : RowsMove (task.written change) (next.unwritten change) (rows before.world)
    (rows after.world)

variable {registry : Registry} {rows : σ → Option (List BindingRow)} {shown : String → Value}
  {change : Change}

/-- A turn of a task that pursues a change takes it a step further, unless it fails. -/
theorem Pursues.moves (laws : BindingTable registry.table rows shown) {task : Task σ}
    (pursues : task.Pursues registry change) {session : Session σ} (ready : session.ready = true) :
    (task.turn session).1.Fails ∨ (task.turn session).1.Pursues registry change ∧
      task.Moves rows change (task.turn session).1 session (task.turn session).2 := by
  cases pursues with
  | waiting pursues =>
    cases pursues with
    | write prepares makes =>
      obtain ⟨failure, turned⟩ | ⟨statement, writes, turned⟩ := prepares.turn ready _ <;> rw [turned]
      · exact .inl (.failed failure)
      · exact .inr ⟨.writing writes makes, rfl, rfl, rfl, rfl, .refl _ _⟩
    | drop prepares pursues =>
      obtain ⟨failure, turned⟩ | ⟨_, ⟨table, rfl⟩, turned⟩ := prepares.turn ready _ <;> rw [turned]
      · exact .inl (.failed failure)
      · exact .inr ⟨.dropping pursues, rfl, rfl, rfl, rfl, .refl _ _⟩
  | @dropping table rest pursues =>
    obtain ⟨failure, turned⟩ | ⟨result, accepted, turned⟩ :=
      turn_sent (.dropTable table) rest session <;> rw [turned]
    · exact .inl (.refused failure)
    · refine .inr ⟨.waiting pursues, rfl, rfl, pursues.unwritten.symm, rfl, ?_⟩
      -- Should the dropped table be that of the bindings, then the change is still to be written.
      rcases laws.dropTable accepted with gone | same
      · refine .inl ⟨gone, .inl ?_⟩
        rw [pursues.unwritten]
        exact List.cons_ne_nil _ _
      · rw [same]
        exact .refl _ _
  | @writing statement action writes makes =>
    obtain ⟨failure, turned⟩ | ⟨result, accepted, turned⟩ :=
      turn_sent statement (.finish action) session <;> rw [turned]
    · exact .inl (.refused failure)
    · have written : (sent statement (.finish action)).written change = [change] := by
        rw [Task.written, if_pos writes.isBindingWrite]
      refine .inr ⟨.making makes, rfl, rfl, by rw [written]; rfl, rfl, .inr ?_⟩
      rw [written]
      cases writes with
      | bind => exact laws.storeBinding accepted
      | release => exact laws.forgetBinding accepted
  | @making action makes =>
    obtain ⟨log, made⟩ := makes session
    simp only [turn, Process.resume, made]
    exact .inr ⟨.done, rfl, rfl, rfl, rfl, .refl _ _⟩
  | done => exact .inr ⟨.done, rfl, rfl, rfl, rfl, .refl _ _⟩

end Task

/-! ## Runs -/

namespace Workload

variable {registry : Registry} {rows : σ → Option (List BindingRow)} {shown : String → Value}

def Pursues (registry : Registry) (load : Workload σ) : Prop :=
  ∀ entry ∈ load.tasks, entry.2.Pursues registry entry.1

def Fails (load : Workload σ) : Prop := ∃ entry ∈ load.tasks, entry.2.Fails

def unwritten (load : Workload σ) : List Change :=
  load.tasks.flatMap fun entry => entry.2.unwritten entry.1

def unmade (load : Workload σ) : List Change :=
  load.tasks.flatMap fun entry => entry.2.unmade entry.1

/-- What some turns do, in which some changes are written and some are made. -/
structure Moves (rows : σ → Option (List BindingRow)) (written made : List Change)
    (before after : Workload σ) : Prop where
  ready : after.session.ready = before.session.ready
  bindings : after.session.bindings = made.foldl Change.apply before.session.bindings
  unwritten : before.unwritten.Perm (written ++ after.unwritten)
  unmade : before.unmade.Perm (made ++ after.unmade)
  rows : RowsMove written after.unwritten (rows before.session.world) (rows after.session.world)

omit [World σ] in
theorem Moves.refl (load : Workload σ) : Moves rows [] [] load load :=
  ⟨rfl, rfl, .refl _, .refl _, .refl _ _⟩

omit [World σ] in
theorem Moves.trans {written made written' made' : List Change} {first second third : Workload σ}
    (left : Moves rows written made first second) (right : Moves rows written' made' second third) :
    Moves rows (written ++ written') (made ++ made') first third where
  ready := right.ready.trans left.ready
  bindings := by rw [right.bindings, left.bindings, List.foldl_append]
  unwritten := by
    rw [List.append_assoc]
    exact left.unwritten.trans (right.unwritten.append_left _)
  unmade := by
    rw [List.append_assoc]
    exact left.unmade.trans (right.unmade.append_left _)
  rows := left.rows.trans right.rows right.unwritten

theorem perm_flatMap_of_split {α β : Type} (f : α → List β) (front back : List α) {entry : α}
    (next : α) {part : List β} (same : f entry = part ++ f next) :
    ((front ++ entry :: back).flatMap f).Perm (part ++ (front ++ next :: back).flatMap f) := by
  simp only [List.flatMap_append, List.flatMap_cons, same, List.append_assoc]
  exact List.perm_append_comm_assoc _ _ _

omit [World σ] in
theorem exists_split {load : Workload σ} {place : Nat} {entry : Change × Task σ}
    (here : load.tasks[place]? = some entry) :
    ∃ front back, load.tasks = front ++ entry :: back ∧
      ∀ other, load.tasks.set place other = front ++ other :: back := by
  obtain ⟨inside, rfl⟩ := List.getElem?_eq_some_iff.mp here
  refine ⟨load.tasks.take place, load.tasks.drop (place + 1), ?_, fun other => ?_⟩
  · simp
  · rw [List.set_eq_take_append_cons_drop, if_pos inside]

theorem turn_moves (laws : BindingTable registry.table rows shown) {load : Workload σ}
    (pursues : load.Pursues registry) (ready : load.session.ready = true) (place : Nat) :
    (load.turn place).Fails ∨ (load.turn place).Pursues registry ∧
      Moves rows (load.writtenAt place) (load.madeAt place) load (load.turn place) := by
  cases here : load.tasks[place]? with
  | none =>
    rw [turn, writtenAt, madeAt, here]
    exact .inr ⟨pursues, .refl load⟩
  | some entry =>
    obtain ⟨change, task⟩ := entry
    obtain ⟨front, back, split, set⟩ := exists_split here
    rw [turn, writtenAt, madeAt, here]
    dsimp only [Option.elim_some]
    rw [set]
    have mem : (change, task) ∈ load.tasks := split ▸ List.mem_append_right _ List.mem_cons_self
    rcases (pursues _ mem).moves laws ready with fails | ⟨pursues', moves⟩
    -- Only the task at this place moves, and what it writes or makes is taken from its part.
    · exact .inl ⟨_, List.mem_append_right _ List.mem_cons_self, fails⟩
    · have written := perm_flatMap_of_split (fun entry : Change × Task σ =>
        entry.2.unwritten entry.1) front back (change, (task.turn load.session).1) moves.unwritten
      have made := perm_flatMap_of_split (fun entry : Change × Task σ =>
        entry.2.unmade entry.1) front back (change, (task.turn load.session).1) moves.unmade
      refine .inr ⟨fun entry inside => ?_, moves.ready, moves.bindings, ?_, ?_, ?_⟩
      · rcases List.mem_append.mp inside with inside | inside
        · exact pursues entry (split ▸ List.mem_append_left _ inside)
        · rcases List.mem_cons.mp inside with rfl | inside
          · exact pursues'
          · exact pursues entry (split ▸ List.mem_append_right _ (List.mem_cons_of_mem _ inside))
      · rwa [← split] at written
      · rwa [← split] at made
      · refine moves.rows.mono fun other inside => ?_
        exact List.mem_flatMap.mpr ⟨_, List.mem_append_right _ List.mem_cons_self, inside⟩

theorem Fails.turn {load : Workload σ} (fails : load.Fails) (place : Nat) :
    (load.turn place).Fails := by
  obtain ⟨entry, mem, fails⟩ := fails
  rw [Workload.turn]
  cases here : load.tasks[place]? with
  | none => exact ⟨entry, mem, fails⟩
  | some turned =>
    obtain ⟨front, back, split, set⟩ := exists_split here
    dsimp only
    rw [set]
    rw [split] at mem
    rcases List.mem_append.mp mem with inside | inside
    · exact ⟨entry, List.mem_append_left _ inside, fails⟩
    · rcases List.mem_cons.mp inside with rfl | inside
      · exact ⟨_, List.mem_append_right _ List.mem_cons_self, fails.turn load.session⟩
      · exact ⟨entry, List.mem_append_right _ (List.mem_cons_of_mem _ inside), fails⟩

theorem Fails.run {load : Workload σ} (fails : load.Fails) (order : List Nat) :
    (load.run order).Fails := by
  induction order generalizing load with
  | nil => exact fails
  | cons place order ih => exact ih (fails.turn place)

omit [World σ] in
theorem Succeeds.not_fails {load : Workload σ} (succeeds : load.Succeeds) : ¬ load.Fails := by
  rintro ⟨⟨change, task⟩, mem, fails⟩
  have done : task.isDone = true := List.all_eq_true.mp succeeds _ mem
  cases fails <;> cases done

theorem run_moves (laws : BindingTable registry.table rows shown) {load : Workload σ}
    (pursues : load.Pursues registry) (ready : load.session.ready = true) {order : List Nat}
    (succeeds : (load.run order).Succeeds) :
    Moves rows (written order load) (made order load) load (load.run order) := by
  -- No task can fail on the way, for it would still have failed in the end.
  induction order generalizing load with
  | nil => exact .refl load
  | cons place order ih =>
    rcases turn_moves laws pursues ready place with fails | ⟨pursues, moves⟩
    · exact absurd (fails.run order) succeeds.not_fails
    · exact moves.trans (ih pursues (moves.ready.trans ready) succeeds)

omit [World σ] in
theorem Succeeds.nothing_left {load : Workload σ} (succeeds : load.Succeeds) :
    load.unwritten = [] ∧ load.unmade = [] := by
  have each (entry : Change × Task σ) (mem : entry ∈ load.tasks) :
      entry.2.unwritten entry.1 = [] ∧ entry.2.unmade entry.1 = [] := by
    obtain ⟨change, task⟩ := entry
    have done : task.isDone = true := List.all_eq_true.mp succeeds _ mem
    cases task with
    | finished => exact ⟨rfl, rfl⟩
    | paused | sent => cases done
  exact ⟨List.flatMap_eq_nil_iff.mpr fun entry mem => (each entry mem).1,
    List.flatMap_eq_nil_iff.mpr fun entry mem => (each entry mem).2⟩

theorem pursues_ofCalls (calls : List Call) (session : Session σ) :
    (ofCalls registry calls session).Pursues registry := by
  intro entry mem
  obtain ⟨⟨change, process⟩, inside, rfl⟩ := List.mem_map.mp mem
  obtain ⟨call, -, pieces⟩ := List.mem_filterMap.mp inside
  exact .waiting (Call.pursues_of_process? pieces)

theorem left_ofCalls {calls : List Call}
    (pieces : ∀ call ∈ calls, (call.process? registry : Option (Change × Process σ)).isSome = true)
    (session : Session σ) :
    (ofCalls registry calls session).unwritten = calls.filterMap Call.change? ∧
      (ofCalls registry calls session).unmade = calls.filterMap Call.change? := by
  induction calls with
  | nil => exact ⟨rfl, rfl⟩
  | cons call calls ih =>
    obtain ⟨first, pieces⟩ := List.forall_mem_cons.mp pieces
    obtain ⟨⟨change, process⟩, first⟩ := Option.isSome_iff_exists.mp first
    obtain ⟨unwritten, unmade⟩ := ih pieces
    have asked := (Call.whole_of_process? first).1
    -- A task that has not begun still owes just the change of its call.
    have owed := (Call.pursues_of_process? first).unwritten
    have tasks : (ofCalls registry (call :: calls) session).tasks =
        (change, .paused process) :: (ofCalls registry calls session).tasks := by
      simp only [ofCalls, List.filterMap_cons, first, List.map_cons]
    rw [List.filterMap_cons, asked, ← unwritten]
    rw [Workload.unwritten, Workload.unmade, tasks, List.flatMap_cons, List.flatMap_cons, owed]
    refine ⟨rfl, ?_⟩
    rw [unwritten, ← unmade]
    rfl

end Workload

/-! ## Calls -/

namespace Workload

variable {registry : Registry} {rows : σ → Option (List BindingRow)} {shown : String → Value}

/-- Let any number of calls that bind and delete indexes succeed, in whatever order they and the
database take turns.  Each of their changes is written once into the table of bindings and made once
to what is known.  If both agreed before, then they agree in the end exactly if for every index the
change that was written last and the one that was made last leave the same behind, which they do if
the calls are about different indexes. -/
theorem mirrors_iff (laws : BindingTable registry.table rows shown) {calls : List Call}
    (pieces : ∀ call ∈ calls, (call.process? registry : Option (Change × Process σ)).isSome = true)
    {session : Session σ} {stored : List BindingRow} (ready : session.ready = true)
    (there : rows session.world = some stored) (mirrors : Mirrors shown stored session.bindings)
    (readable : Readable shown stored)
    (bound : ∀ call ∈ calls, ∀ indexId binding, call.change? = some (.bind indexId binding) →
      (binding.fields.map (·.1)).Nodup ∧ binding.IsReadable ∧
        ∀ row ∈ stored, row.id = indexId → row.isOwn = true)
    {order : List Nat} (succeeds : ((ofCalls registry calls session).run order).Succeeds) :
    let start := ofCalls registry calls session
    let after := (start.run order).session
    let changes := calls.filterMap Call.change?
    ((written order start).Perm changes ∧ (made order start).Perm changes) ∧
    rows after.world = some ((written order start).foldl Change.write stored) ∧
    after.bindings = (made order start).foldl Change.apply session.bindings ∧
    (Mirrors shown ((rows after.world).getD []) after.bindings ↔
      ∀ indexId, Change.EndAlike indexId (made order start) (written order start)) ∧
    ((changes.map Change.indexId).Nodup →
      Mirrors shown ((rows after.world).getD []) after.bindings) := by
  intro start after changes
  have moves := run_moves laws (pursues_ofCalls calls session) ready succeeds
  obtain ⟨unwritten, unmade⟩ := left_ofCalls pieces session
  obtain ⟨nothing, nothing'⟩ := succeeds.nothing_left
  have wrote : (written order start).Perm changes := by
    have all := moves.unwritten
    rw [unwritten, nothing, List.append_nil] at all
    exact all.symm
  have done : (made order start).Perm changes := by
    have all := moves.unmade
    rw [unmade, nothing', List.append_nil] at all
    exact all.symm
  have table : rows after.world = some ((written order start).foldl Change.write stored) := by
    rcases moves.rows with ⟨-, remaining | ⟨gone, -⟩⟩ | ⟨before, found, last⟩
    · exact absurd nothing remaining
    · cases gone.symm.trans there
    · cases found.symm.trans there
      exact last
  have asked {change : Change} (mem : change ∈ written order start) {indexId : String}
      {binding : Binding} (binds : change = .bind indexId binding) :
      (binding.fields.map (·.1)).Nodup ∧ binding.IsReadable ∧
        ∀ row ∈ stored, row.id = indexId → row.isOwn = true := by
    obtain ⟨call, inside, asks⟩ := List.mem_filterMap.mp (wrote.mem_iff.mp mem)
    exact bound call inside indexId binding (binds ▸ asks)
  -- What would be known if the changes were made in the order in which they were written.
  have mirrored : Mirrors shown ((written order start).foldl Change.write stored)
      ((written order start).foldl Change.apply session.bindings) :=
    mirrors.writes laws.shown fun change mem indexId binding binds =>
      ⟨(asked mem binds).1, (asked mem binds).2.2⟩
  have readable' : Readable shown ((written order start).foldl Change.write stored) :=
    readable.writes laws.shown mirrors.distinct fun change mem indexId binding binds =>
      ⟨(asked mem binds).1, (asked mem binds).2.1⟩
  have both : (made order start).Perm (written order start) := done.trans wrote.symm
  have agree : Mirrors shown ((rows after.world).getD []) after.bindings ↔
      ∀ indexId, Change.EndAlike indexId (made order start) (written order start) := by
    rw [table, Option.getD_some, moves.bindings]
    constructor
    · intro last indexId
      exact (Change.rel_lookup_iff both _ indexId).mp (last.rel mirrored readable' indexId)
    · intro alike
      exact mirrored.of_rel fun indexId => (Change.rel_lookup_iff both _ indexId).mpr (alike indexId)
  refine ⟨⟨wrote, done⟩, table, moves.bindings, agree, fun distinct => agree.mpr ?_⟩
  exact Change.endAlike_of_distinct both (((done.map _).nodup_iff).mpr distinct)

/-- For example, a binding and a deletion that overlap leave behind what they should. -/
theorem mirrors_iff_bound_and_deleted :
    let start : Database := { bindings := some [⟨"a", backendId, "\x7b\"table\":\"t\"\x7d"⟩] }
    let calls := [Call.bindIndex "b" { table := "u" }, Call.deleteIndex "a"]
    let order := [0, 1, 1, 0, 1, 1, 0, 1]
    ∃ first, perform (Registry.ensureReady {}) { world := start } = (.ok (), first) ∧
      ((ofCalls {} calls first).run order).Succeeds ∧
      ((ofCalls {} calls first).run order).session.bindings = [("b", { table := "u" })] ∧
      Mirrors .text (((ofCalls {} calls first).run order).session.world.bindings.getD [])
        ((ofCalls {} calls first).run order).session.bindings := by
  intro start calls order
  have initialized : perform (Registry.ensureReady {}) { world := start } = (.ok (), start.opened) :=
    Database.perform_opened (by decide +kernel)
  have succeeds : ((ofCalls {} calls start.opened).run order).tasks.all (·.2.isDone) = true := by
    decide +kernel
  have known : ((ofCalls {} calls start.opened).run order).session.bindings =
      [("b", { table := "u" })] := by decide +kernel
  have unready : ({ world := start } : Session Database).ready = false := rfl
  have loads := Database.bindingTable.loads unready initialized
  have mirrors : Mirrors .text (start.bindings.getD []) start.opened.bindings :=
    loads.mirrors rfl (by decide)
  have pieces : ∀ call ∈ calls,
      (call.process? {} : Option (Change × Process Database)).isSome = true :=
    List.forall_mem_cons.mpr ⟨rfl, List.forall_mem_singleton.mpr rfl⟩
  have bound : ∀ call ∈ calls, ∀ indexId binding, call.change? = some (.bind indexId binding) →
      (binding.fields.map (·.1)).Nodup ∧ binding.IsReadable ∧
        ∀ row ∈ start.bindings.getD [], row.id = indexId → row.isOwn = true := by
    intro call mem indexId binding binds
    simp only [calls, List.mem_cons, List.not_mem_nil, or_false] at mem
    rcases mem with rfl | rfl
    · cases binds
      exact ⟨List.nodup_nil, List.forall_mem_nil _, by decide⟩
    · cases binds
  obtain ⟨-, -, -, -, apart⟩ := mirrors_iff Database.bindingTable pieces loads.ready loads.table
    mirrors (fun row mem own => loads.exists_holds mem own) bound succeeds
  exact ⟨start.opened, initialized, succeeds, known, apart (by decide)⟩

/-- One call deletes an index while another one binds it.  The database deletes the row last, but
the call that binds is the last one to take up its work, and the binding stays known. -/
theorem crossed_deletion_disagrees :
    let start : Database := { bindings := some [⟨"x", backendId, "\x7b\"table\":\"a\"\x7d"⟩] }
    let calls := [Call.deleteIndex "x", Call.bindIndex "x" { table := "b" }]
    let order := [1, 0, 0, 0, 1, 0, 0, 1]
    ∃ first, perform (Registry.ensureReady {}) { world := start } = (.ok (), first) ∧
      ((ofCalls {} calls first).run order).Succeeds ∧
      ((ofCalls {} calls first).run order).session.bindings = [("x", { table := "b" })] ∧
      ((ofCalls {} calls first).run order).session.world.bindings = some [] ∧
      ¬ Mirrors .text (((ofCalls {} calls first).run order).session.world.bindings.getD [])
        ((ofCalls {} calls first).run order).session.bindings := by
  intro start calls order
  have initialized : perform (Registry.ensureReady {}) { world := start } = (.ok (), start.opened) :=
    Database.perform_opened (by decide +kernel)
  have succeeds : ((ofCalls {} calls start.opened).run order).tasks.all (·.2.isDone) = true := by
    decide +kernel
  have known : ((ofCalls {} calls start.opened).run order).session.bindings =
      [("x", { table := "b" })] := by decide +kernel
  have table : ((ofCalls {} calls start.opened).run order).session.world.bindings = some [] := by
    decide +kernel
  refine ⟨start.opened, initialized, succeeds, known, table, fun mirrors => ?_⟩
  rw [known, table, Option.getD_some] at mirrors
  obtain ⟨row, mem, -⟩ := mirrors.stored "x" { table := "b" } rfl
  cases mem

end Workload

end TableSearch
