import TableSearch.Proofs.Index.Following
import TableSearch.Proofs.Index.Likeness
import TableSearch.Proofs.Query.Likeness
import TableSearch.Proofs.Session.Lockstep
import TableSearch.Session.Script

/-!
# What callers pass stays out of texts and log

Two calls that agree in all but values send statements of the same text, and write the same log
entries.  Values are seen by the database alone, as parameters.
-/

namespace TableSearch

open Sql Operation

variable {σ α : Type} [World σ] {R : σ → σ → Prop} (answers : World.AnswersAlike R)

/-! ## The registry -/

namespace Registry

include answers in
theorem lockstep_runHook : Lockstep R Eq (runHook : Operation σ Unit) runHook := by
  intro session session' alike
  obtain ⟨answer, world⟩ := answers.runHook alike.world
  have texts := alike.texts
  rw [perform_runHook, perform_runHook, answer]
  refine ⟨.refl _, world, alike.ready, alike.bindings, ?_, alike.log⟩
  simp only [Session.texts] at texts
  simp [Session.texts, texts, Event.text?]

omit [World σ] in
theorem lockstep_loadRows (rows : List Row) :
    Lockstep R Eq (loadRows rows : Operation σ Unit) (loadRows rows) := by
  induction rows with
  | nil => exact .pure rfl
  | cons row rows ih =>
    refine .bind (.ofExcept_self (bindingOfRow row)) fun entry _ same => ?_
    subst same
    refine .bind (.modify fun _ _ alike => ?_) fun _ _ _ => ih
    exact { alike with bindings := by rw [alike.bindings] }

variable (registry : Registry)

include answers in
theorem lockstep_prepare :
    Lockstep R Eq (registry.prepare : Operation σ Unit) registry.prepare := by
  refine .optional .rfl (lockstep_runHook answers) (.optional .rfl (.run_ answers rfl) ?_)
  refine .bind (.run_ answers rfl) fun _ _ _ => .bind (.run_ answers rfl) fun _ _ _ => ?_
  refine .bind (.run answers rfl) fun outcome _ same => ?_
  subst same
  refine .bind (lockstep_loadRows _) fun _ _ _ => .bind .get fun session session' alike => ?_
  rw [alike.bindings]
  refine .bind (.log _) fun _ _ _ => .modify fun _ _ alike => ?_
  exact { alike with ready := rfl }

include answers in
theorem lockstep_ensureReady :
    Lockstep R Eq (registry.ensureReady : Operation σ Unit) registry.ensureReady := by
  refine .bind .get fun session session' alike => ?_
  exact .ite (by rw [alike.ready]) (.pure rfl) (registry.lockstep_prepare answers)

include answers in
theorem lockstep_binding (indexId : String) :
    Lockstep R Eq ((registry.handle indexId).binding : Operation σ Binding)
      (registry.handle indexId).binding := by
  refine .bind (Q := Eq) ?_ fun found _ same => same ▸ .pure rfl
  refine .bind (registry.lockstep_ensureReady answers) fun _ _ _ => ?_
  exact .bind .get fun session session' alike => .pure (by rw [alike.bindings])

end Registry

/-! ## Handles -/

namespace Handle

def Finds (handle : Handle σ) (session : Session σ) (binding : Binding) : Prop :=
  ∃ middle, perform handle.binding session = (.ok binding, middle)

/-- Batches of documents or patches that agree in all but values under the binding of their index,
and of which each is written. -/
structure SameBatches {β : Type} (handle : Handle σ) (session : Session σ)
    (documents others : List Value) (write : Binding → List Value → Except Failure β) : Prop where
  length : documents.length = others.length
  alike : ∀ binding, handle.Finds session binding →
    List.Forall₂ (Document.Alike binding) documents others
  written : ∀ binding, handle.Finds session binding → ∃ b, write binding documents = .ok b
  written' : ∀ binding, handle.Finds session binding → ∃ b, write binding others = .ok b

variable {handle : Handle σ} {session session' : Session σ}

include answers in
theorem lockstep_applyPatches {binding : Binding} {patches others : List Value}
    (alike : List.Forall₂ (Document.Alike binding) patches others)
    {statements statements' : List (Option Statement)}
    (written : patches.mapM (Document.patch binding) = .ok statements)
    (written' : others.mapM (Document.patch binding) = .ok statements') :
    Lockstep R Eq (applyPatches binding patches : Operation σ Int)
      (applyPatches binding others) := by
  rw [mapM_eq_ok] at written written'
  induction alike generalizing statements statements' with
  | nil => exact .pure rfl
  | cons first _ ih =>
    cases written with
    | cons own rest =>
      cases written' with
      | cons own' rest' =>
        -- Both batches leave out the same patches, and send statements of the same texts.
        have onward := ih rest rest'
        refine .bind_ofExcept own own' ?_
        cases Document.patch_text_eq first own own' with
        | none => exact onward
        | some text =>
          refine .bind (.run answers text) fun outcome _ same => ?_
          subst same
          refine .bind onward fun count _ same => ?_
          subst same
          exact .pure rfl

theorem keys_of_patches {binding : Binding} {patches : List Value}
    {statements : List (Option Statement)}
    (written : patches.mapM (Document.patch binding) = .ok statements) :
    ∃ keys, patches.mapM (Document.key .patch binding.keyField) = .ok keys := by
  rw [mapM_eq_ok] at written
  simp only [mapM_eq_ok]
  refine exists_forall₂ fun patch mem => ?_
  obtain ⟨_, -, made⟩ := exists_mem_of_forall₂ written mem
  simp only [Document.patch, bind_eq_ok] at made
  obtain ⟨key, named, -⟩ := made
  exact ⟨key, named⟩

section

variable (resolves : Lockstep R Eq handle.binding handle.binding)
  (alike : session.Alike R session')

include answers resolves alike

theorem inStep_query {input input' : QueryInput} {q other : SearchQuery}
    (read : SearchQuery.normalize input = .ok q) (read' : SearchQuery.normalize input' = .ok other)
    (same : q.Alike other)
    (written : ∀ binding, handle.Finds session binding →
      ∃ clause, q.Written binding.tableName binding.keyColumn (some binding) clause)
    (written' : ∀ binding, handle.Finds session binding →
      ∃ clause, other.Written binding.tableName binding.keyColumn (some binding) clause) :
    InStep R (fun _ _ => True) (perform (handle.query input) session)
      (perform (handle.query input') session') := by
  rw [query, query, read, read']
  refine resolves.bind_from alike fun binding _ found finds => ?_
  subst found
  -- Both calls have found this binding; that their statements are written is known under it alone.
  obtain ⟨clause, search, accepted, converted⟩ := written binding finds
  obtain ⟨clause', search', accepted', converted'⟩ := written' binding finds
  have texts := same.areTexts (SearchQuery.tree_of_ofQuery accepted).2
    (SearchQuery.tree_of_ofQuery accepted').2
  have text := same.sameText ⟨search, accepted, converted⟩ ⟨search', accepted', converted'⟩
  refine .optional (by rw [texts]) (.log _) ?_
  refine .bind_ofExcept accepted accepted' (.bind_ofExcept (a := clause) (b := clause') ?_ ?_ ?_)
  · rw [converted]
    rfl
  · rw [converted']
    rfl
  refine .bind (.run answers (congrArg Fragment.text text.fragment)) fun outcome _ sameOutcome => ?_
  subst sameOutcome
  rw [same.included]
  exact .bind (.ofExcept_self _) fun _ _ _ => .pure trivial

theorem inStep_upsert {input input' : Value} {documents others : List Value}
    (listed : input.toThings = .ok documents) (listed' : input'.toThings = .ok others)
    (same : handle.SameBatches session documents others Document.upsert) :
    InStep R (fun _ _ => True) (perform (handle.upsert input) session)
      (perform (handle.upsert input') session') := by
  rw [upsert, upsert, listed, listed']
  have length := same.length
  match documents, others, same with
  | [], [], _ => exact ⟨.ok trivial, alike⟩
  | document :: rest, other :: rest', same =>
    refine resolves.bind_from alike fun binding _ found finds => ?_
    subst found
    -- Both calls find the same binding, and under it both batches can be written.
    obtain ⟨statement, written⟩ := same.written binding finds
    obtain ⟨statement', written'⟩ := same.written' binding finds
    have text := Document.upsert_text_eq (same.alike binding finds) written written'
    refine .bind_ofExcept written written' ?_
    refine .bind (.run answers text) fun outcome _ sameOutcome => ?_
    subst sameOutcome
    refine .bind (.ofExcept_self _) fun marks _ sameMarks => ?_
    subst sameMarks
    exact .bind (.log _) fun _ _ _ => .pure trivial

theorem inStep_patch {input input' : Value} {patches others : List Value}
    (listed : input.toThings = .ok patches) (listed' : input'.toThings = .ok others)
    (same : handle.SameBatches session patches others fun binding patches =>
      patches.mapM (Document.patch binding)) :
    InStep R (fun _ _ => True) (perform (handle.patch input) session)
      (perform (handle.patch input') session') := by
  rw [patch, patch, listed, listed']
  have length := same.length
  match patches, others, same with
  | [], [], _ => exact ⟨.ok trivial, alike⟩
  | patch :: rest, other :: rest', same =>
    refine resolves.bind_from alike fun binding _ found finds => ?_
    subst found
    obtain ⟨statements, written⟩ := same.written binding finds
    obtain ⟨statements', written'⟩ := same.written' binding finds
    -- Patches that can be written have their keys, so neither call is refused for one.
    obtain ⟨keys, named⟩ := keys_of_patches written
    obtain ⟨keys', named'⟩ := keys_of_patches written'
    refine .bind_ofExcept named named' ?_
    exact (lockstep_applyPatches answers (same.alike binding finds) written written').mono
      fun _ _ _ => trivial

end

end Handle

/-! ## Calls -/

namespace Call

/-- Calls that agree in all but values: accepted queries, or batches of documents or patches that
are written.  What they agree in depends on the binding that is found in the session. -/
inductive Alike (registry : Registry) (session : Session σ) : Call → Call → Prop where
  | query (indexId : String) {input input' : QueryInput} {q other : SearchQuery}
      (read : SearchQuery.normalize input = .ok q)
      (read' : SearchQuery.normalize input' = .ok other)
      (same : q.Alike other)
      (written : ∀ binding, (registry.handle indexId).Finds session binding →
        ∃ clause, q.Written binding.tableName binding.keyColumn (some binding) clause)
      (written' : ∀ binding, (registry.handle indexId).Finds session binding →
        ∃ clause, other.Written binding.tableName binding.keyColumn (some binding) clause) :
      Alike registry session (.query indexId input) (.query indexId input')
  | upsert (indexId : String) {input input' : Value} {documents others : List Value}
      (listed : input.toThings = .ok documents) (listed' : input'.toThings = .ok others)
      (same : (registry.handle indexId).SameBatches session documents others Document.upsert) :
      Alike registry session (.upsert indexId input) (.upsert indexId input')
  | patch (indexId : String) {input input' : Value} {patches others : List Value}
      (listed : input.toThings = .ok patches) (listed' : input'.toThings = .ok others)
      (same : (registry.handle indexId).SameBatches session patches others fun binding patches =>
        patches.mapM (Document.patch binding)) :
      Alike registry session (.patch indexId input) (.patch indexId input')

/-- Queries that agree in all but values are written as the same text under every binding, or
without one.  And whatever such calls do, the same texts are sent and the same log is written, as
long as the database answers alike. -/
theorem values_unseen (registry : Registry) (answers : World.AnswersAlike R) :
    (∀ {q other : SearchQuery} {table : TableName} {keyColumn : String} {binding : Option Binding}
      {clause clause' : Clause}, q.Alike other → q.Written table keyColumn binding clause →
      other.Written table keyColumn binding clause' →
      clause.text = clause'.text ∧ clause.params.length = clause'.params.length) ∧
    ∀ {session session' : Session σ} {call other : Call}, session.Alike R session' →
      Alike registry session call other →
      (perform (call.operation registry) session).2.Alike R
        (perform (other.operation registry) session').2 := by
  refine ⟨fun same written written' => ?_, fun {session session' call other} alike same => ?_⟩
  · have text := same.sameText written written'
    exact ⟨congrArg Fragment.text text.fragment, text.count⟩
  · have resolves (indexId : String) := registry.lockstep_binding answers indexId
    cases same with
    | query indexId read read' same written written' =>
      rw [operation, operation, perform_discard, perform_discard]
      exact (Handle.inStep_query answers (resolves indexId) alike read read' same written
        written').session
    | upsert indexId listed listed' same =>
      rw [operation, operation, perform_discard, perform_discard]
      exact (Handle.inStep_upsert answers (resolves indexId) alike listed listed' same).session
    | patch indexId listed listed' same =>
      rw [operation, operation, perform_discard, perform_discard]
      exact (Handle.inStep_patch answers (resolves indexId) alike listed listed' same).session

/-- A script answers by the texts of statements. -/
theorem answersAlike_script : World.AnswersAlike (Eq : Script → Script → Prop) where
  execute := by
    rintro statement other script _ rfl same
    have answered : Script.isFor statement = Script.isFor other := by
      funext answer
      rw [Script.isFor, same, Script.isFor]
    have executed : World.execute statement script = World.execute other script := by
      simp only [World.execute, Script.execute, answered]
    rw [executed]
    exact ⟨rfl, rfl⟩
  runHook := by
    rintro script _ rfl
    exact ⟨rfl, rfl⟩

/-- So it is for two people: for what is sought by their faces, names and ages, for what is stored
about them, and for what is changed. -/
theorem values_unseen_people :
    let registry : Registry := {}
    let session : Session Script := { world := {}, ready := true }
    let binding : Binding :=
      { table := "people", keyColumn := "uid"
        fields := [("face", { column := "embedding", type := "vector" })] }
    let sought (face name : Value) (age : Int) : SearchQuery :=
      { query := some [[("face", face)]]
        filter := some [("name", name), ("age", .map [("$lt", .int age)])] }
    let ann := sought (.list [.int 1, .int 2]) (.text "ann") 30
    let bob := sought (.list [.int 7]) (.bool false) 5
    let document (key : String) (password : Value) : Value :=
      .map [("id", .text key), ("password", password)]
    let first := document "ann" (.text "secret")
    let second := document "bob" (.int 1234)
    let unseen (call other : Call) : Prop :=
      (perform (call.operation registry) session).2.Alike Eq
        (perform (other.operation registry) session).2
    (∃ clause clause', ann.Written binding.tableName "uid" (some binding) clause ∧
      bob.Written binding.tableName "uid" (some binding) clause' ∧ clause.params ≠ clause'.params ∧
      clause.text = clause'.text ∧ clause.params.length = clause'.params.length) ∧
    unseen (.query "users" (.query ann)) (.query "users" (.query bob)) ∧
    unseen (.upsert "users" first) (.upsert "users" second) ∧
    unseen (.patch "users" first) (.patch "users" second) := by
  intro registry session binding sought ann bob document first second unseen
  have finds {binding : Binding} (finds : (registry.handle "users").Finds session binding) :
      binding = .byConvention "users" := by
    obtain ⟨middle, found⟩ := finds
    cases (registry.perform_binding "users" rfl).symm.trans found
    rfl
  have queries : ann.Alike bob := {
    included := rfl
    orderBy := rfl
    inputs := rfl
    filter := by
      intro tree tree' read read'
      cases read
      cases read'
      exact .some (.conjunction
        (.cons (.compare "name" _ _ nofun) (.cons (.compare "age" _ _ nofun) .nil)))
    offset := Iff.rfl }
  have batches {β : Type} {write : Binding → List Value → Except Failure β}
      (written : ∃ b, write (.byConvention "users") [first] = .ok b)
      (written' : ∃ b, write (.byConvention "users") [second] = .ok b) :
      (registry.handle "users").SameBatches session [first] [second] write := {
    length := rfl
    alike := fun _ _ =>
      .cons (.intro (.cons ⟨rfl, rfl, fun _ => rfl⟩ (.cons ⟨rfl, rfl, fun _ => rfl⟩ .nil))) .nil
    written := fun _ found => finds found ▸ written
    written' := fun _ found => finds found ▸ written' }
  obtain ⟨texts, calls⟩ := values_unseen (σ := Script) registry answersAlike_script
  have same : Session.Alike (Eq : Script → Script → Prop) session session :=
    ⟨rfl, rfl, rfl, rfl, rfl⟩
  refine ⟨?_, calls same ?_, calls same ?_, calls same ?_⟩
  · obtain ⟨clause, clause', written, written', differ⟩ : ∃ clause clause',
        ann.Written binding.tableName "uid" (some binding) clause ∧
        bob.Written binding.tableName "uid" (some binding) clause' ∧
        clause.params ≠ clause'.params :=
      ⟨_, _, ⟨_, rfl, rfl⟩, ⟨_, rfl, rfl⟩, fun alike => by
        have names : Value.text "ann" = .bool false := (List.cons.inj (List.cons.inj alike).2).1
        cases names⟩
    exact ⟨clause, clause', written, written', differ, texts queries written written'⟩
  · exact .query "users" rfl rfl queries (fun _ found => finds found ▸ ⟨_, _, rfl, rfl⟩)
      fun _ found => finds found ▸ ⟨_, _, rfl, rfl⟩
  · exact .upsert "users" rfl rfl (batches ⟨_, rfl⟩ ⟨_, rfl⟩)
  · exact .patch "users" rfl rfl (batches ⟨_, rfl⟩ ⟨_, rfl⟩)

end Call

end TableSearch
