import TableSearch.Proofs.Index.Preparation
import TableSearch.Proofs.Index.Refinement

/-!
# The first use of a registry

Calls reach the initialization of their registry at different points: some at once, some after they
have checked their arguments, and some not at all.  Whichever call comes first, nothing else is
asked for before an initialization is complete, and nothing of it is asked for again.
-/

namespace TableSearch

open Sql Operation

/-! ## Events of an initialization -/

/-- Whether a statement is one of those with which registries initialize themselves. -/
def Sql.Statement.isPreparation : Statement → Bool
  | .createExtension | .createSchema _ | .createRegistry _ | .loadBindings _ => true
  | _ => false

namespace Event

def isPreparation : Event → Bool
  | .hook => true
  | .statement sent => sent.isPreparation
  | .ensureReady | .dispose => false

def isRequest : Event → Bool
  | .hook | .statement _ => true
  | .ensureReady | .dispose => false

end Event

theorem Registry.isRequest_of_mem_preparation {registry : Registry} {event : Event}
    (mem : event ∈ registry.preparation) : event.isRequest = true := by
  simp only [preparation, List.mem_append, List.mem_ite_nil_right, List.mem_cons,
    List.not_mem_nil, or_false] at mem
  rcases mem with ⟨-, rfl⟩ | ⟨-, rfl⟩ | rfl | rfl | rfl <;> rfl

/-! ## Calls of a registry that is ready -/

variable {σ α β : Type} [World σ]

/-- Sessions of a registry that is ready and stays so, between which nothing is asked for that
belongs to an initialization. -/
def Settles (before after : Session σ) : Prop :=
  before.ready = true → after.ready = true ∧
    ∃ added, Records added before after ∧ ∀ event ∈ added, event.isPreparation = false

theorem Settles.isProgress : IsProgress (Settles : Session σ → Session σ → Prop) where
  refl session ready := ⟨ready, [], .refl session, nofun⟩
  trans {first second third} left right ready := by
    obtain ⟨ready, added, records, own⟩ := left ready
    obtain ⟨ready, more, records', own'⟩ := right ready
    refine ⟨ready, added ++ more, records.trans records', fun event mem => ?_⟩
    rcases List.mem_append.mp mem with mem | mem
    · exact own event mem
    · exact own' event mem

theorem Settles.step {before after : Session σ} {added : List Event}
    (records : Records added before after) (same : after.ready = before.ready)
    (own : ∀ event ∈ added, event.isPreparation = false) : Settles before after :=
  fun ready => ⟨same.trans ready, added, records, own⟩

theorem Settles.permits (registry : Registry) :
    registry.Permits (Settles : Session σ → Session σ → Prop) fun statement =>
      statement.isPreparation = false where
  progress := Settles.isProgress
  log entry session := .step ⟨(List.append_nil _).symm, rfl⟩ rfl nofun
  run {statement} own session := by
    rw [perform_run]
    exact .step (session.records_executed statement) rfl fun event mem => by
      cases List.mem_singleton.mp mem
      exact own
  work {statement} isWork := by
    cases statement with
    | createExtension | createSchema | createRegistry | loadBindings => cases isWork
    | _ => rfl
  targets {binding statement} targets := by
    cases targets <;> rfl
  -- In a ready session there is nothing to prepare, so only what comes afterwards is recorded.
  ready session ready := by
    rw [registry.perform_ensureReady ready]
    exact ⟨ready, [], .refl session, nofun⟩
  remember indexId binding session := .step ⟨(List.append_nil _).symm, rfl⟩ rfl nofun
  forget indexId session := .step ⟨(List.append_nil _).symm, rfl⟩ rfl nofun
  shutdown session := .step ⟨rfl, rfl⟩ rfl fun event mem => by
    cases List.mem_singleton.mp mem
    rfl

/-! ## Operations that initialize their registry -/

/-- An operation before which its registry may as well be initialized. -/
def Opens (registry : Registry) (action : Operation σ α) : Prop :=
  (registry.ensureReady >>= fun _ => action) = action

namespace Opens

variable {registry : Registry}

/-- A registry that an initialization has made ready does not initialize itself again. -/
theorem ensureReady : Opens registry (registry.ensureReady : Operation σ Unit) := by
  funext session
  change perform (registry.ensureReady >>= fun _ => registry.ensureReady) session =
    perform registry.ensureReady session
  rw [perform_bind]
  split
  next _ middle done =>
    -- A first attempt that has succeeded leaves a ready session, in which the second one does
    -- nothing.
    have ready : middle.ready = true := by
      cases already : session.ready with
      | true =>
        rw [registry.perform_ensureReady already] at done
        cases done
        exact already
      | false =>
        have stage := registry.stages_ensureReady already
        rw [done] at stage
        rw [stage.ready, already]
        rfl
    rw [registry.perform_ensureReady ready, done]
  next failure middle failed => exact failed.symm

theorem bind {action : Operation σ α} (opens : Opens registry action)
    (next : α → Operation σ β) : Opens registry (action >>= next) := by
  unfold Opens at opens ⊢
  rw [← bind_assoc, opens]

theorem binding (indexId : String) :
    Opens registry ((registry.handle indexId).binding : Operation σ Binding) :=
  (ensureReady.bind _).bind _

end Opens

/-! ## Operations that may have nothing to do -/

def rejectedOr {ε : Type} (result : Except ε α) (property : α → Bool) : Bool :=
  match result with
  | .ok a => property a
  | .error _ => true

/-- An operation that leaves the session alone if it is void, and otherwise initializes its
registry before it does anything else. -/
structure Guards (registry : Registry) (isVoid : Bool) (action : Operation σ α) : Prop where
  alone : isVoid = true → ∀ session, (perform action session).2 = session
  opens : isVoid = false → Opens registry action

namespace Guards

variable {registry : Registry} {isVoid : Bool}

theorem of_opens {action : Operation σ α} (opens : Opens registry action) :
    Guards registry false action := ⟨nofun, fun _ => opens⟩

theorem pure (a : α) : Guards registry true (pure a : Operation σ α) := ⟨fun _ _ => rfl, nofun⟩

theorem bind_ofExcept {result : Except Failure α} {isVoid : α → Bool} {next : α → Operation σ β}
    (rest : ∀ a, Guards registry (isVoid a) (next a)) :
    Guards registry (rejectedOr result isVoid) (ofExcept result >>= next) := by
  cases result with
  | error failure => exact ⟨fun _ _ => rfl, nofun⟩
  | ok a =>
    change Guards registry (isVoid a) (Pure.pure a >>= next)
    rw [pure_bind]
    exact rest a

theorem discard {action : Operation σ α} (guards : Guards registry isVoid action) :
    Guards registry isVoid (Functor.discard action) where
  alone void session := (perform_discard action session).trans (guards.alone void session)
  opens needed := (guards.opens needed).bind _

end Guards

namespace Handle

variable {registry : Registry} (indexId : String)

theorem guards_query (input : QueryInput) :
    Guards registry (rejectedOr (SearchQuery.normalize input) fun _ => false)
      ((registry.handle indexId).query input : Operation σ (List Hit)) :=
  .bind_ofExcept fun _ => .of_opens ((Opens.binding indexId).bind _)

/-- What is done to several things, unless there are none. -/
theorem guards_things {input : Value} {next : List Value → Operation σ α}
    (nothing : ∃ a, next [] = pure a) (things : ∀ first rest, Opens registry (next (first :: rest))) :
    Guards registry (rejectedOr (Failure.ofConversion input.toThings) List.isEmpty)
      (ofConversion input.toThings >>= next) :=
  .bind_ofExcept fun given => by
    cases given with
    | nil =>
      obtain ⟨a, same⟩ := nothing
      rw [same]
      exact .pure a
    | cons first rest => exact .of_opens (things first rest)

end Handle

/-! ## Calls -/

namespace Call

/-- Whether a call is given arguments that are rejected, or nothing to do, before it needs its
registry. -/
def isVoid : Call → Bool
  | createIndex _ _ schema =>
    rejectedOr (Registry.readSchema schema) fun fields =>
      rejectedOr (Failure.ofSchema fields.key) fun _ => false
  | bindValue _ value => rejectedOr (Failure.ofChecked (Binding.read value)) fun _ => false
  | query _ input => rejectedOr (SearchQuery.normalize input) fun _ => false
  | upsert _ things | patch _ things | delete _ things =>
    rejectedOr (Failure.ofConversion things.toThings) List.isEmpty
  | startup | shutdown | bindIndex .. | describeIndex _ | deleteIndex _ | listIndexes _
  | nextPage _ => false

/-- Whether a call initializes the registry unless it is void. -/
def isGuarded : Call → Bool
  | shutdown | nextPage _ => false
  | _ => true

theorem guards (registry : Registry) {call : Call} (guarded : call.isGuarded = true) :
    Guards registry call.isVoid (call.operation registry : Operation σ Unit) := by
  cases call with
  | startup => exact .of_opens .ensureReady
  | createIndex =>
    exact .bind_ofExcept fun _ => .bind_ofExcept fun _ => .of_opens (Opens.ensureReady.bind _)
  | bindIndex => exact .of_opens (Opens.ensureReady.bind _)
  | bindValue => exact .bind_ofExcept fun _ => .of_opens (Opens.ensureReady.bind _)
  | describeIndex => exact .discard (.of_opens (Opens.ensureReady.bind _))
  | deleteIndex => exact .of_opens (Opens.ensureReady.bind _)
  | listIndexes => exact .discard (.of_opens (Opens.ensureReady.bind _))
  | query indexId input => exact .discard (Handle.guards_query indexId input)
  | upsert indexId | patch indexId | delete indexId =>
    exact .discard <| Handle.guards_things ⟨_, rfl⟩ fun _ _ => (Opens.binding indexId).bind _
  | shutdown | nextPage => cases guarded

/-- The ways in which a call can go: its result, what it records, and the session after it. -/
inductive Course (registry : Registry) (call : Call) (before : Session σ) :
    Except Failure Unit → List Event → Session σ → Prop where
  | void {result : Except Failure Unit} (void : call.isVoid = true) :
      Course registry call before result [] before
  | shutdown {result : Except Failure Unit} {after : Session σ} (lets : call = .shutdown)
      (kept : after.ready = before.ready) : Course registry call before result [.dispose] after
  /-- With a registry that is ready, a call does its own work. -/
  | settled {result : Except Failure Unit} {own : List Event} {after : Session σ}
      (needed : call.isVoid = false) (ready : before.ready = true)
      (others : ∀ event ∈ own, event.isPreparation = false) (stays : after.ready = true) :
      Course registry call before result own after
  /-- An initialization that fails is all that a call has done, and the call fails like it. -/
  | failed {failure : Failure} {begun : List Event} {after : Session σ}
      (needed : call.isVoid = false) (unready : before.ready = false)
      (attempt : perform registry.ensureReady before = (.error failure, after))
      (started : begun <+: registry.preparation) (remains : after.ready = false) :
      Course registry call before (.error failure) begun after
  /-- After an initialization that is complete, a call does its own work. -/
  | initialized {result : Except Failure Unit} {own : List Event} {middle after : Session σ}
      (needed : call.isVoid = false) (unready : before.ready = false)
      (attempt : perform registry.ensureReady before = (.ok (), middle))
      (prepared : Records registry.preparation before middle)
      (others : ∀ event ∈ own, event.isPreparation = false) (stays : after.ready = true) :
      Course registry call before result (registry.preparation ++ own) after

theorem Course.ready {registry : Registry} {call : Call} {before after : Session σ}
    {added : List Event} (course : call.Course registry before (.ok ()) added after)
    (needed : call.isVoid = false) (works : call ≠ .shutdown) : after.ready = true := by
  cases course with
  | void void =>
    rw [needed] at void
    cases void
  | shutdown lets => exact absurd lets works
  | settled _ _ _ stays => exact stays
  | initialized _ _ _ _ _ stays => exact stays

variable (registry : Registry)

theorem settles (call : Call) :
    Progresses Settles (call.operation registry : Operation σ Unit) :=
  progresses_operation (Settles.permits registry) call

theorem isGuarded_of_isVoid {call : Call} (void : call.isVoid = true) : call.isGuarded = true := by
  cases call with
  | shutdown | nextPage => cases void
  | _ => rfl

/-- A call of a registry which has given out pages only while it was ready. -/
theorem course (call : Call) {before : Session σ}
    (paged : ∀ page, call = .nextPage page → before.ready = true) :
    ∃ added, Records added before (perform (call.operation registry) before).2 ∧
      Course registry call before (perform (call.operation registry) before).1 added
        (perform (call.operation registry) before).2 := by
  cases void : call.isVoid with
  | true =>
    have guards := call.guards (σ := σ) registry (isGuarded_of_isVoid void)
    rw [guards.alone void]
    exact ⟨[], .refl before, .void void⟩
  | false =>
    cases ready : before.ready with
    | true =>
      obtain ⟨stays, own, records, others⟩ := call.settles registry before ready
      exact ⟨own, records, .settled void ready others stays⟩
    | false =>
      cases guarded : call.isGuarded with
      | true =>
        have opens : Opens registry (call.operation registry : Operation σ Unit) :=
          (call.guards registry guarded).opens void
        have stage := registry.stages_ensureReady ready
        rw [← opens, perform_bind]
        split
        next _ middle attempt =>
          rw [attempt] at stage
          obtain ⟨⟨added, records, -, -, complete⟩, isReady⟩ := stage
          obtain ⟨rfl, -⟩ := complete rfl
          have isReady : middle.ready = true := by
            rw [isReady, ready]
            rfl
          obtain ⟨stays, own, records', others⟩ := call.settles registry middle isReady
          exact ⟨_, records.trans records', .initialized void ready attempt records others stays⟩
        next failure after attempt =>
          rw [attempt] at stage
          obtain ⟨⟨added, records, started, -⟩, remains⟩ := stage
          rw [ready] at remains
          exact ⟨added, records, .failed void ready attempt started remains⟩
      | false =>
        -- What is left does not need the registry, or has needed it before.
        cases call with
        | shutdown => exact ⟨[.dispose], ⟨rfl, rfl⟩, .shutdown rfl rfl⟩
        | nextPage page =>
          rw [paged page rfl] at ready
          cases ready
        | _ => cases guarded

end Call

/-! ## Runs of calls -/

/-- What a registry has asked of the world since it was fresh: as long as it is not ready, only for
initializations that have failed, and since then for a complete one and for what calls are about. -/
inductive Registry.History (registry : Registry) : Bool → List Event → Prop where
  | unready {attempts : List (List Event)}
      (started : ∀ attempt ∈ attempts, attempt <+: registry.preparation) :
      History registry false attempts.flatten
  | ready {attempts : List (List Event)} {own : List Event}
      (started : ∀ attempt ∈ attempts, attempt <+: registry.preparation)
      (others : ∀ event ∈ own, event.isPreparation = false) :
      History registry true (attempts.flatten ++ registry.preparation ++ own)

theorem Registry.History.course {registry : Registry} {call : Call} {before after : Session σ}
    {result : Except Failure Unit} {requests added : List Event}
    (history : registry.History before.ready requests)
    (course : call.Course registry before result added after) :
    registry.History after.ready (requests ++ added.filter Event.isRequest) := by
  have requested {events : List Event} (started : events <+: registry.preparation) :
      events.filter Event.isRequest = events :=
    List.filter_eq_self.mpr fun event mem =>
      Registry.isRequest_of_mem_preparation (started.subset mem)
  have kept {own : List Event} (others : ∀ event ∈ own, event.isPreparation = false) :
      ∀ event ∈ own.filter Event.isRequest, event.isPreparation = false :=
    fun event mem => others event (List.mem_of_mem_filter mem)
  cases course with
  | void => rwa [List.filter_nil, List.append_nil]
  | shutdown _ same =>
    have none : [Event.dispose].filter Event.isRequest = [] := rfl
    rwa [same, none, List.append_nil]
  | settled _ ready others stays =>
    rw [ready] at history
    rw [stays]
    -- A ready session has its one whole preparation behind it, and now nothing is prepared.
    cases history with
    | ready started earlier =>
      rw [List.append_assoc _ _ (List.filter _ _)]
      refine .ready started fun event mem => ?_
      rcases List.mem_append.mp mem with mem | mem
      · exact earlier event mem
      · exact kept others event mem
  | failed _ unready _ begun remains =>
    rw [unready] at history
    rw [remains]
    -- What has been asked is the beginning of a preparation, like that of each attempt before.
    cases history with
    | @unready attempts started =>
      rw [requested begun, ← List.flatten_concat]
      refine .unready fun attempt mem => ?_
      rcases List.mem_append.mp mem with mem | mem
      · exact started attempt mem
      · cases List.mem_singleton.mp mem
        exact begun
  | initialized _ unready _ _ others stays =>
    rw [unready] at history
    rw [stays]
    cases history with
    | unready started =>
      rw [List.filter_append, requested List.prefix_rfl, ← List.append_assoc]
      exact .ready started (kept others)

namespace Call

variable (registry : Registry)

def pages (call : Call) (session : Session σ) : List (Page IndexSummary) :=
  match call with
  | listIndexes params => ((registry.list params).perform session).1.toOption.toList
  | nextPage page => ((page.next registry.loadPage).perform session).1.toOption.join.toList
  | _ => []

/-- Calls that go on from pages only which are known or which calls before them have yielded. -/
def Coherent (known : List (Page IndexSummary)) : List Call → Session σ → Prop
  | [], _ => True
  | call :: rest, session =>
    (∀ page, call = .nextPage page → page ∈ known) ∧
      Coherent (known ++ call.pages registry session) rest
        (perform (call.operation registry) session).2

theorem isReady_of_mem_pages {call : Call} {page : Page IndexSummary} {session : Session σ}
    (paged : ∀ page, call = .nextPage page → session.ready = true)
    (mem : page ∈ call.pages registry session) :
    (perform (call.operation registry) session).2.ready = true := by
  cases call with
  | nextPage before => exact ((nextPage before).settles registry session (paged before rfl)).1
  | listIndexes params =>
    obtain ⟨added, -, course⟩ := (listIndexes params).course registry paged
    -- A listing that fails yields no page.
    have done : (perform ((listIndexes params).operation registry) session).1 = .ok () := by
      change (perform (registry.list params >>= fun _ => pure ()) session).1 = _
      rw [perform_bind]
      cases listed : perform (registry.list params) session with
      | mk result after =>
        cases result with
        | ok _ => rfl
        | error failure =>
          rw [pages, listed] at mem
          cases mem
    rw [done] at course
    exact course.ready rfl nofun
  | _ => cases mem

variable {registry : Registry}

theorem Coherent.paged {known : List (Page IndexSummary)} {calls earlier later : List Call}
    {call : Call} {session : Session σ} (coherent : Coherent registry known calls session)
    (ready : ∀ page ∈ known, session.ready = true) (split : calls = earlier ++ call :: later)
    (page : Page IndexSummary) (goesOn : call = .nextPage page) :
    (run registry earlier session).ready = true := by
  subst split
  induction earlier generalizing known session with
  | nil => exact ready page (coherent.1 page goesOn)
  | cons first earlier ih =>
    refine ih (fun other mem => ?_) coherent.2
    rcases List.mem_append.mp mem with mem | mem
    · exact (first.settles registry session (ready other mem)).1
    · exact isReady_of_mem_pages registry (fun page same => ready page (coherent.1 page same)) mem

section

variable {calls : List Call} {session : Session σ} (coherent : Coherent registry [] calls session)

include coherent

theorem Coherent.course {earlier later : List Call} {call : Call}
    (split : calls = earlier ++ call :: later) :
    let before := run registry earlier session
    let after := (perform (call.operation registry) before).2
    ∃ added, Records added before after ∧
      call.Course registry before (perform (call.operation registry) before).1 added after :=
  call.course registry (coherent.paged (fun _ mem => nomatch mem) split)

theorem Coherent.history (fresh : session.ready = false) {earlier later : List Call}
    (split : calls = earlier ++ later) :
    ∃ added, Records added session (run registry earlier session) ∧
      registry.History (run registry earlier session).ready (added.filter Event.isRequest) := by
  -- The calls grow at their end, where the last one has its course.
  induction earlier using List.reverseRecOn generalizing later with
  | nil =>
    refine ⟨[], .refl session, ?_⟩
    change registry.History session.ready [].flatten
    rw [fresh]
    exact .unready fun _ mem => nomatch mem
  | append_singleton earlier call ih =>
    rw [List.append_assoc] at split
    obtain ⟨added, records, history⟩ := ih split
    obtain ⟨more, records', course⟩ := coherent.course split
    have last : run registry (earlier ++ [call]) session =
        (perform (call.operation registry) (run registry earlier session)).2 := by
      rw [run, List.foldl_append]
      rfl
    rw [last]
    refine ⟨added ++ more, records.trans records', ?_⟩
    rw [List.filter_append]
    exact history.course course

end

/-- Let any calls be made of a fresh registry and of its handles, whatever the world answers.  What
they ask for is a number of initializations that fail and then, once the registry is ready, one
complete initialization and nothing more of the kind.  Each call goes one of its ways: a void one
records nothing, one that tries to initialize the registry and fails does nothing else, and any
other does its own work on a registry that is ready. -/
theorem run_initializes_once {calls : List Call} {session : Session σ}
    (fresh : session.ready = false) (coherent : Coherent registry [] calls session) :
    (∃ added, Records added session (run registry calls session) ∧
      registry.History (run registry calls session).ready (added.filter Event.isRequest)) ∧
    ∀ earlier call later, calls = earlier ++ call :: later →
      let before := run registry earlier session
      let after := (perform (call.operation registry) before).2
      ∃ added, Records added before after ∧
        call.Course registry before (perform (call.operation registry) before).1 added after :=
  ⟨coherent.history fresh (List.append_nil calls).symm, fun _ _ _ split => coherent.course split⟩

/-- For example, a refused table makes the first binding fail.  The listing behind it finds
everything anew, and its page can be gone on from. -/
theorem run_initializes_once_refused_table :
    let session : Session Script :=
      { world := { answers := [{ mark := "CREATE TABLE", result := .error "disk full" }] } }
    let calls := [upsert "a" (.list []), bindIndex "a" { table := "t" }, listIndexes (.map [])]
    session.ready = false ∧ ∃ page, Coherent {} [] (calls ++ [nextPage page]) session ∧
      Registry.History {} true
        ((run {} (calls ++ [nextPage page]) session).events.filter Event.isRequest) := by
  intro session calls
  have fresh : session.ready = false := rfl
  have listed : ((listIndexes (.map [])).pages {} (run {} (calls.take 2) session)).length = 1 := by
    decide +kernel
  obtain ⟨page, yielded⟩ := List.length_eq_one_iff.mp listed
  have mem : page ∈ (listIndexes (.map [])).pages {} (run {} (calls.take 2) session) := by
    rw [yielded]
    exact List.mem_singleton_self page
  have coherent : Coherent {} [] (calls ++ [nextPage page]) session := by
    refine ⟨nofun, nofun, nofun, fun other same => ?_, trivial⟩
    cases same
    exact List.mem_append_right _ mem
  have ready : (run {} calls session).ready = true := by decide +kernel
  have stays := ((nextPage page).settles {} (run {} calls session) ready).1
  obtain ⟨⟨added, records, history⟩, -⟩ := run_initializes_once fresh coherent
  have recorded : added = (run {} (calls ++ [nextPage page]) session).events := records.events.symm
  have last : (run {} (calls ++ [nextPage page]) session).ready = true := stays
  rw [last, recorded] at history
  exact ⟨fresh, page, coherent, history⟩

end Call

end TableSearch
