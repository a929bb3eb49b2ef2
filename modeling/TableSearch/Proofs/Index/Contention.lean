import TableSearch.Proofs.Index.Attempts

/-!
# Concurrent first use

However many callers use a registry for the first time at the same time, and in whatever order they
take turns, their attempts to initialize it come one after the other.  Each attempt does what it
does with nobody else around, the first one that succeeds is the last one, and who returns finds the
bindings loaded.

Whoever is inside either is about to look, or is in the middle of the one attempt that is under way;
everything else about a crowd follows from what the attempts before that one have left behind.
-/

namespace TableSearch

open Operation

variable {σ : Type} [World σ]

/-! ## Orderly crowds -/

namespace Crowd

/-- Whether the caller at a place has found the registry ready, or made it so. -/
def HasReturned (callers : List (Caller σ)) (place : Nat) : Prop :=
  callers[place]? = some (.returned (.ok ()))

/-- The caller at a place is in the middle of an attempt that began in the session `before`, where the
attempts in `failed` had left off.  It has asked for the events in `added`, and `rest` are left. -/
structure Running (registry : Registry) (crowd : Crowd σ) (failed : List Attempt)
    (before : Session σ) (place : Nat) (caller : Caller σ) (added rest : List Event) : Prop where
  pursues : caller.Pursues (perform registry.ensureReady before) rest crowd.session
  asked : registry.preparation = added ++ rest
  events : crowd.session.events = before.events ++ added
  unready : crowd.session.ready = false
  record : crowd.record = failed.flatMap Attempt.record ++ added.map (place, ·)
  nobody : ∀ other, ¬ HasReturned crowd.callers other

/-- How far the attempts of a crowd are.  `failed` are those that have failed, which have left the
session `before` behind, and `holder` is the place of the caller inside. -/
inductive Phase (registry : Registry) (crowd : Crowd σ) (failed : List Attempt)
    (before : Session σ) (holder : Option Nat) : Prop where
  /-- No attempt is under way, and the registry is not ready. -/
  | idle (session : crowd.session = before) (record : crowd.record = failed.flatMap Attempt.record)
      (looks : ∀ place, holder = some place → crowd.callers[place]? = some .entered)
      (nobody : ∀ place, ¬ HasReturned crowd.callers place)
  /-- The caller inside is at work. -/
  | running {place : Nat} {caller : Caller σ} {added rest : List Event}
      (holds : holder = some place) (found : crowd.callers[place]? = some caller)
      (runs : Running registry crowd failed before place caller added rest)
  /-- An attempt has succeeded. -/
  | done {place : Nat} (completed : perform registry.ensureReady before = (.ok (), crowd.session))
      (found : HasReturned crowd.callers place)
      (record : crowd.record = failed.flatMap Attempt.record ++
        registry.preparation.map (place, ·))
      (looks : ∀ place, holder = some place → crowd.callers[place]? = some .entered)

/-- A crowd whose callers have made their attempts one after the other. -/
structure Orderly (registry : Registry) (start : Session σ) (crowd : Crowd σ)
    (failed : List Attempt) (before : Session σ) (holder : Option Nat) : Prop where
  locked : crowd.locked = holder.isSome
  inside : ∀ ⦃place caller⦄, crowd.callers[place]? = some caller →
    (caller.isInside = true ↔ holder = some place)
  failures : registry.FailInTurn start failed before
  errors : ∀ place failure, crowd.callers[place]? = some (.returned (.error failure)) ↔
    ∃ events, ⟨place, events, some (.error failure)⟩ ∈ failed
  distinct : (failed.map Attempt.place).Nodup
  phase : Phase registry crowd failed before holder

variable {registry : Registry} {start before : Session σ} {crowd : Crowd σ} {failed : List Attempt}
  {holder : Option Nat}

namespace Orderly

/-- The places of failed attempts are those of callers that have raised an error. -/
theorem place_ne (orderly : Orderly registry start crowd failed before holder) {place : Nat}
    {caller : Caller σ} (found : crowd.callers[place]? = some caller)
    (goesOn : ∀ failure, caller ≠ .returned (.error failure)) :
    ∀ attempt ∈ failed, attempt.place ≠ place := by
  rintro ⟨place, events, result⟩ mem rfl
  obtain ⟨failure, rfl⟩ := orderly.failures.isError _ mem
  exact goesOn _ (Option.some.inj (found.symm.trans ((orderly.errors _ _).mpr ⟨events, mem⟩)))

theorem distinct_concat (orderly : Orderly registry start crowd failed before holder)
    {attempt : Attempt} {caller : Caller σ} (found : crowd.callers[attempt.place]? = some caller)
    (goesOn : ∀ failure, caller ≠ .returned (.error failure)) :
    ((failed ++ [attempt]).map Attempt.place).Nodup := by
  have differs := orderly.place_ne found goesOn
  simpa [List.nodup_append, orderly.distinct] using differs

/-- A caller that goes on leaves those that have failed as they are. -/
theorem errors_set (orderly : Orderly registry start crowd failed before holder) {place : Nat}
    {caller next : Caller σ} (found : crowd.callers[place]? = some caller)
    (goesOn : ∀ result, caller ≠ .returned result)
    (succeeds : ∀ failure, next ≠ .returned (.error failure)) :
    ∀ other failure,
      (crowd.callers.set place next)[other]? = some (.returned (.error failure)) ↔
        ∃ events, ⟨other, events, some (.error failure)⟩ ∈ failed := by
  intro other failure
  rw [← orderly.errors, getElem?_set found]
  split
  next same =>
    subst same
    rw [found]
    simp only [Option.some.injEq, succeeds, goesOn]
  next => rfl

theorem inside_set (orderly : Orderly registry start crowd failed before holder) {place : Nat}
    {caller next : Caller σ} {holder' : Option Nat} (found : crowd.callers[place]? = some caller)
    (own : next.isInside = true ↔ holder' = some place)
    (others : ∀ other, other ≠ place → (holder = some other ↔ holder' = some other)) :
    ∀ ⦃other another⦄, (crowd.callers.set place next)[other]? = some another →
      (another.isInside = true ↔ holder' = some other) := by
  intro other another there
  rw [getElem?_set found] at there
  by_cases same : other = place
  · rw [if_pos same] at there
    cases there
    rw [same]
    exact own
  · rw [if_neg same] at there
    exact (orderly.inside there).trans (others other same)

theorem inside_returned (orderly : Orderly registry start crowd failed before holder) {place : Nat}
    {caller : Caller σ} (found : crowd.callers[place]? = some caller)
    (inside : caller.isInside = true) (result : Except Failure Unit) :
    ∀ ⦃other : Nat⦄ ⦃another : Caller σ⦄,
      (crowd.callers.set place (.returned result))[other]? = some another →
      (another.isInside = true ↔ none = some other) := by
  refine orderly.inside_set found ⟨nofun, nofun⟩ fun other differs => ?_
  rw [(orderly.inside found).mp inside]
  exact ⟨fun same => absurd (Option.some.inj same).symm differs, nofun⟩

omit [World σ] in
theorem nobody_set {place : Nat} {caller next : Caller σ}
    (nobody : ∀ other, ¬ HasReturned crowd.callers other)
    (found : crowd.callers[place]? = some caller) (goesOn : next ≠ .returned (.ok ())) :
    ∀ other, ¬ HasReturned (crowd.callers.set place next) other := by
  intro other returned
  rw [HasReturned, getElem?_set found] at returned
  split at returned
  · exact goesOn (Option.some.inj returned)
  · exact nobody other returned

/-- A caller outside may find the registry ready, or go on waiting. -/
theorem outside (orderly : Orderly registry start crowd failed before holder)
    (fresh : start.ready = false) {place : Nat} {caller next : Caller σ}
    (found : crowd.callers[place]? = some caller) (goesOn : ∀ result, caller ≠ .returned result)
    (isOutside : caller.isInside = false)
    (stays : next = .waiting ∨ next = .returned (.ok ()) ∧ crowd.session.ready = true) :
    Orderly registry start { crowd with callers := crowd.callers.set place next } failed before
      holder := by
  -- The caller that takes the turn is neither the one inside nor the one that has succeeded, so
  -- what a phase says about these two is still so.
  have notHolder : holder ≠ some place := fun isHolder => by
    have inside := (orderly.inside found).mpr isHolder
    rw [isOutside] at inside
    cases inside
  have looks (entered : ∀ other, holder = some other → crowd.callers[other]? = some .entered) :
      ∀ other, holder = some other → (crowd.callers.set place next)[other]? = some .entered := by
    intro other isHolder
    refine getElem?_set_of_differs next found (entered other isHolder) ?_
    rintro rfl
    cases isOutside
  have waits (unready : crowd.session.ready = false) : next ≠ .returned (.ok ()) := by
    rintro rfl
    rcases stays with _ | ⟨-, ready⟩
    · contradiction
    · rw [unready] at ready
      cases ready
  have staysOutside : next.isInside = false := by
    rcases stays with rfl | ⟨rfl, -⟩ <;> rfl
  have succeeds : ∀ failure, next ≠ .returned (.error failure) := by
    rcases stays with rfl | ⟨rfl, -⟩ <;> exact nofun
  refine ⟨orderly.locked, ?_, orderly.failures, orderly.errors_set found goesOn succeeds,
    orderly.distinct, ?_⟩
  · refine orderly.inside_set found ?_ fun _ _ => .rfl
    rw [staysOutside]
    exact ⟨nofun, fun isHolder => absurd isHolder notHolder⟩
  · cases orderly.phase with
    | idle session record entered nobody =>
      have unready : crowd.session.ready = false := by
        rw [session]
        exact orderly.failures.unready fresh
      exact .idle session record (looks entered) (nobody_set nobody found (waits unready))
    | running holds there runs =>
      refine .running holds (getElem?_set_of_differs next found there ?_)
        { runs with nobody := nobody_set runs.nobody found (waits runs.unready) }
      rintro rfl
      rw [runs.pursues.isInside] at isOutside
      cases isOutside
    | done completed returned record entered =>
      have stillThere := getElem?_set_of_differs next found returned (goesOn _)
      exact .done completed stillThere record (looks entered)

/-- A caller that waits takes the lock when it is free. -/
theorem enter (orderly : Orderly registry start crowd failed before holder) {place : Nat}
    (found : crowd.callers[place]? = some .waiting) (free : crowd.locked = false) :
    Orderly registry start
      { crowd with callers := crowd.callers.set place .entered, locked := true } failed before
      (some place) := by
  have nobodyInside : holder = none := by
    rw [orderly.locked] at free
    simpa using free
  have looks : ∀ other, some place = some other →
      (crowd.callers.set place .entered)[other]? = some .entered := by
    rintro _ ⟨⟩
    rw [getElem?_set found, if_pos rfl]
  refine ⟨rfl, ?_, orderly.failures, orderly.errors_set found nofun nofun, orderly.distinct, ?_⟩
  · refine orderly.inside_set found ⟨fun _ => rfl, fun _ => rfl⟩ fun other differs => ?_
    rw [nobodyInside]
    exact ⟨nofun, fun same => absurd (Option.some.inj same).symm differs⟩
  -- The lock is free, so nobody is in the middle of the work.
  · cases orderly.phase with
    | idle session record _ nobody =>
      exact .idle session record looks (nobody_set nobody found nofun)
    | running holds => rw [nobodyInside] at holds; cases holds
    | done completed returned record _ =>
      exact .done completed (getElem?_set_of_differs .entered found returned nofun) record looks

/-- A caller that looks again begins an attempt if the registry is not ready. -/
theorem begin (orderly : Orderly registry start crowd failed before holder)
    (fresh : start.ready = false) {place : Nat} (found : crowd.callers[place]? = some .entered)
    (unready : crowd.session.ready = false) :
    Orderly registry start
      { crowd with callers := crowd.callers.set place (.working registry.work) } failed before
      holder := by
  have isHolder : holder = some place := (orderly.inside found).mp rfl
  refine ⟨orderly.locked, ?_, orderly.failures, orderly.errors_set found nofun nofun,
    orderly.distinct, ?_⟩
  · exact orderly.inside_set found ⟨fun _ => isHolder, fun _ => rfl⟩ fun _ _ => .rfl
  · cases orderly.phase with
    | idle session record _ nobody =>
      -- The goal of the new attempt is fixed here: what it comes to from the session it begins in.
      have goal : perform (registry.work : Work σ).whole crowd.session =
          perform registry.ensureReady before := by
        rw [registry.whole_work, session,
          registry.perform_ensureReady_of_fresh (orderly.failures.unready fresh)]
      have there : (crowd.callers.set place (.working registry.work))[place]? =
          some (.working registry.work) := by rw [getElem?_set found, if_pos rfl]
      exact .running isHolder there
        { pursues := ⟨congrArg some goal, registry.asks_work⟩
          asked := (List.nil_append _).symm
          events := by rw [session, List.append_nil]
          unready
          record := by simpa using record
          nobody := nobody_set nobody found nofun }
    | running holds there runs =>
      cases isHolder.symm.trans holds
      cases found.symm.trans there
      cases runs.pursues.outlook
    | done completed =>
      have loaded := (Registry.isLoaded_of_done (orderly.failures.unready fresh) completed).1
      rw [loaded.ready] at unready
      cases unready

/-- A caller that looks again and finds the registry ready releases the lock. -/
theorem leave (orderly : Orderly registry start crowd failed before holder)
    (fresh : start.ready = false) {place : Nat} (found : crowd.callers[place]? = some .entered)
    (ready : crowd.session.ready = true) :
    Orderly registry start
      { crowd with callers := crowd.callers.set place (.returned (.ok ())), locked := false } failed
      before none := by
  refine ⟨rfl, orderly.inside_returned found rfl _, orderly.failures,
    orderly.errors_set found nofun nofun, orderly.distinct, ?_⟩
  -- Ready is only what a caller has left behind that succeeded, so the last phase is the only one.
  cases orderly.phase with
  | idle session =>
    rw [session, orderly.failures.unready fresh] at ready
    cases ready
  | running _ _ runs =>
    rw [runs.unready] at ready
    cases ready
  | @done other completed returned record _ =>
    refine .done completed ?_ record nofun
    rw [HasReturned, getElem?_set found]
    split
    next => rfl
    next => exact returned

/-- A turn of the caller at work that is not its last one. -/
theorem nearer (orderly : Orderly registry start crowd failed before holder) {place : Nat}
    {caller next : Caller σ} {added rest left : List Event} {after : Session σ}
    (found : crowd.callers[place]? = some caller)
    (runs : Running registry crowd failed before place caller added rest)
    (split : rest = caller.asks ++ left)
    (pursues : next.Pursues (perform registry.ensureReady before) left after)
    (events : after.events = crowd.session.events ++ caller.asks)
    (ready : after.ready = crowd.session.ready) :
    Orderly registry start
      { crowd with
        callers := crowd.callers.set place next
        session := after
        record := crowd.record ++ caller.asks.map (place, ·) } failed before holder := by
  have isHolder : holder = some place := (orderly.inside found).mp runs.pursues.isInside
  have goesOn := runs.pursues.ne_returned
  have goesOn' := pursues.ne_returned
  have there : (crowd.callers.set place next)[place]? = some next := by
    rw [getElem?_set found, if_pos rfl]
  -- Only what the caller still asks for has become less: it is asked for now.
  refine ⟨orderly.locked, ?_, orderly.failures, orderly.errors_set found goesOn fun _ => goesOn' _,
    orderly.distinct, ?_⟩
  · exact orderly.inside_set found ⟨fun _ => isHolder, fun _ => pursues.isInside⟩ fun _ _ => .rfl
  · exact .running isHolder there
      { pursues
        asked := by rw [runs.asked, split, List.append_assoc]
        events := by rw [events, runs.events, List.append_assoc]
        unready := ready.trans runs.unready
        record := by rw [runs.record, List.append_assoc, List.map_append]
        nobody := nobody_set runs.nobody found (goesOn' _) }

/-- A caller whose attempt has failed releases the lock.  The next attempt begins where this one has
left off. -/
theorem fail (orderly : Orderly registry start crowd failed before holder) {place : Nat}
    {caller : Caller σ} {added rest : List Event} {failure : Failure} {after : Session σ}
    (found : crowd.callers[place]? = some caller)
    (runs : Running registry crowd failed before place caller added rest)
    (ends : perform registry.ensureReady before = (.error failure, after))
    (silent : after.events = crowd.session.events) :
    Orderly registry start
      { crowd with
        callers := crowd.callers.set place (.returned (.error failure))
        locked := false
        session := after } (failed ++ [⟨place, added, some (.error failure)⟩]) after none := by
  have goesOn := runs.pursues.ne_returned
  have asked : after.events = before.events ++ added := silent.trans runs.events
  have first : added <+: registry.preparation := runs.asked ▸ List.prefix_append added rest
  refine ⟨rfl, orderly.inside_returned found runs.pursues.isInside _,
    .concat orderly.failures ends asked first, ?_, orderly.distinct_concat found fun _ => goesOn _,
    .idle rfl (by simpa [Attempt.record] using runs.record) nofun
      (nobody_set runs.nobody found nofun)⟩
  intro other failure'
  rw [getElem?_set found]
  -- This place had not returned before, so the new attempt is the only one it can have.
  by_cases same : other = place
  · subst same
    rw [if_pos rfl]
    constructor
    · rintro ⟨⟩
      exact ⟨added, List.mem_append_right failed (List.mem_singleton_self _)⟩
    · rintro ⟨events, mem⟩
      rcases List.mem_append.mp mem with mem | mem
      · exact absurd rfl (orderly.place_ne found (fun _ => goesOn _) _ mem)
      · cases List.mem_singleton.mp mem
        rfl
  · rw [if_neg same, orderly.errors]
    simp [same]

/-- A caller whose attempt has succeeded releases the lock. -/
theorem succeed (orderly : Orderly registry start crowd failed before holder)
    (fresh : start.ready = false) {place : Nat} {caller : Caller σ} {added rest : List Event}
    {after : Session σ} (found : crowd.callers[place]? = some caller)
    (runs : Running registry crowd failed before place caller added rest)
    (ends : perform registry.ensureReady before = (.ok (), after))
    (silent : after.events = crowd.session.events) :
    Orderly registry start
      { crowd with
        callers := crowd.callers.set place (.returned (.ok ()))
        locked := false
        session := after } failed before none := by
  have asked : after.events = before.events ++ added := silent.trans runs.events
  -- A preparation that succeeds has asked for everything, so nothing was left to ask for.
  have complete := (Registry.isLoaded_of_done (orderly.failures.unready fresh) ends).2
  have whole : added = registry.preparation := List.append_cancel_left (asked.symm.trans complete)
  have there : HasReturned (crowd.callers.set place (.returned (.ok ()))) place := by
    rw [HasReturned, getElem?_set found, if_pos rfl]
  exact ⟨rfl, orderly.inside_returned found runs.pursues.isInside _, orderly.failures,
    orderly.errors_set found runs.pursues.ne_returned nofun, orderly.distinct,
    .done ends there (whole ▸ runs.record) nofun⟩

theorem last (orderly : Orderly registry start crowd failed before holder)
    (fresh : start.ready = false) {place : Nat} {caller : Caller σ} {added rest : List Event}
    {result : Except Failure Unit} {after : Session σ}
    (found : crowd.callers[place]? = some caller)
    (runs : Running registry crowd failed before place caller added rest)
    (ends : perform registry.ensureReady before = (result, after))
    (silent : after.events = crowd.session.events) :
    ∃ failed before, Orderly registry start
      { crowd with
        callers := crowd.callers.set place (.returned result)
        locked := false
        session := after } failed before none := by
  cases result with
  | error failure => exact ⟨_, after, orderly.fail found runs ends silent⟩
  | ok _ => exact ⟨failed, before, orderly.succeed fresh found runs ends silent⟩

/-- Nobody is at work while who is inside is about to look. -/
theorem not_exists_atWork (orderly : Orderly registry start crowd failed before holder)
    (looks : ∀ other, holder = some other → crowd.callers[other]? = some .entered) (place : Nat) :
    ¬ ∃ caller : Caller σ, crowd.callers[place]? = some caller ∧ caller.isAtWork = true := by
  rintro ⟨caller, found, atWork⟩
  have isHolder := (orderly.inside found).mp (Caller.isInside_of_isAtWork atWork)
  cases found.symm.trans (looks place isHolder)
  cases atWork

theorem exists_running (orderly : Orderly registry start crowd failed before holder) {place : Nat}
    {caller : Caller σ} (found : crowd.callers[place]? = some caller)
    (atWork : caller.isAtWork = true) :
    ∃ added rest, Running registry crowd failed before place caller added rest := by
  cases orderly.phase with
  | idle _ _ looks => exact absurd ⟨caller, found, atWork⟩ (orderly.not_exists_atWork looks place)
  | running holds there runs =>
    have isHolder := (orderly.inside found).mp (Caller.isInside_of_isAtWork atWork)
    cases isHolder.symm.trans holds
    cases found.symm.trans there
    exact ⟨_, _, runs⟩
  | done _ _ _ looks =>
    exact absurd ⟨caller, found, atWork⟩ (orderly.not_exists_atWork looks place)

theorem turn_of_isAtWork (orderly : Orderly registry start crowd failed before holder)
    (fresh : start.ready = false) {place : Nat} {caller : Caller σ}
    (found : crowd.callers[place]? = some caller) (atWork : caller.isAtWork = true) :
    ∃ failed before holder,
      Orderly registry start (crowd.turn registry place) failed before holder := by
  obtain ⟨added, rest, runs⟩ := orderly.exists_running found atWork
  rcases runs.pursues.turn registry crowd.locked with
    ⟨turned, silent, events⟩ | ⟨next, after, left, turned, split, pursues, events, ready⟩
  · rw [turn_eq_of_silent found turned silent]
    obtain ⟨failed, before, orderly⟩ := orderly.last fresh found runs rfl events
    exact ⟨failed, before, none, orderly⟩
  · rw [turn_eq found turned]
    exact ⟨failed, before, holder, orderly.nearer found runs split pursues events ready⟩

theorem turn (orderly : Orderly registry start crowd failed before holder)
    (fresh : start.ready = false) (place : Nat) :
    ∃ failed before holder,
      Orderly registry start (crowd.turn registry place) failed before holder := by
  cases found : crowd.callers[place]? with
  | none =>
    rw [turn_eq_of_none found]
    exact ⟨failed, before, holder, orderly⟩
  | some caller =>
    cases caller with
    | arriving =>
      rw [turn_eq_of_silent found rfl rfl]
      refine ⟨failed, before, holder, orderly.outside fresh found nofun rfl ?_⟩
      cases crowd.session.ready
      · exact .inl rfl
      · exact .inr ⟨rfl, rfl⟩
    | waiting =>
      cases locked : crowd.locked with
      | true =>
        rw [turn_eq_of_silent found (by rw [Caller.turn, if_pos locked]) rfl, ← locked]
        exact ⟨failed, before, holder, orderly.outside fresh found nofun rfl (.inl rfl)⟩
      | false =>
        rw [turn_eq_of_silent found (by rw [Caller.turn, if_neg (by simp [locked])]) rfl]
        exact ⟨failed, before, some place, orderly.enter found locked⟩
    | entered =>
      cases ready : crowd.session.ready with
      | true =>
        rw [turn_eq_of_silent found (by rw [Caller.turn, if_pos ready]) rfl]
        exact ⟨failed, before, none, orderly.leave fresh found ready⟩
      | false =>
        rw [turn_eq_of_silent found (by rw [Caller.turn, if_neg (by simp [ready])]) rfl]
        exact ⟨failed, before, holder, orderly.begin fresh found ready⟩
    | working | hooked | sent => exact orderly.turn_of_isAtWork fresh found rfl
    -- A caller that has returned takes its turns without any effect.
    | returned result =>
      obtain ⟨inRange, same⟩ := List.getElem?_eq_some_iff.mp found
      have kept : crowd.callers.set place (.returned result) = crowd.callers := by
        rw [← same, List.set_getElem_self]
      rw [turn_eq_of_silent found rfl rfl, kept]
      exact ⟨failed, before, holder, orderly⟩

theorem run (orderly : Orderly registry start crowd failed before holder)
    (fresh : start.ready = false) (order : List Nat) :
    ∃ failed before holder,
      Orderly registry start (crowd.run registry order) failed before holder := by
  induction order generalizing crowd failed before holder with
  | nil => exact ⟨failed, before, holder, orderly⟩
  | cons place order ih =>
    obtain ⟨failed, before, holder, orderly⟩ := orderly.turn fresh place
    exact ih orderly

/-- Nobody is at work once the registry is ready, and a turn leaves the session as it is. -/
theorem session_turn (orderly : Orderly registry start crowd failed before holder)
    (ready : crowd.session.ready = true) (place : Nat) :
    (crowd.turn registry place).session = crowd.session := by
  cases found : crowd.callers[place]? with
  | none => rw [turn_eq_of_none found]
  | some caller =>
    -- Nobody is at work once everything is ready.
    have idle (atWork : caller.isAtWork = true) :
        (crowd.turn registry place).session = crowd.session := by
      obtain ⟨_, _, runs⟩ := orderly.exists_running found atWork
      rw [runs.unready] at ready
      cases ready
    cases caller with
    | arriving => rw [turn_eq found rfl]
    | waiting =>
      cases locked : crowd.locked with
      | true => rw [turn_eq found (by rw [Caller.turn, if_pos locked])]
      | false => rw [turn_eq found (by rw [Caller.turn, if_neg (by simp [locked])])]
    | entered => rw [turn_eq found (by rw [Caller.turn, if_pos ready])]
    | working | hooked | sent => exact idle rfl
    | returned result => rw [turn_eq found rfl]

theorem session_run (orderly : Orderly registry start crowd failed before holder)
    (fresh : start.ready = false) (ready : crowd.session.ready = true) (order : List Nat) :
    (crowd.run registry order).session = crowd.session := by
  induction order generalizing crowd failed before holder with
  | nil => rfl
  | cons place order ih =>
    have same := orderly.session_turn ready place
    obtain ⟨_, _, _, next⟩ := orderly.turn fresh place
    exact (ih next (same ▸ ready)).trans same

theorem ofCallers (registry : Registry) (start : Session σ) (count : Nat) :
    Orderly registry start (Crowd.ofCallers count start) [] start none := by
  have arriving {place : Nat} {caller : Caller σ}
      (found : (List.replicate count (Caller.arriving : Caller σ))[place]? = some caller) :
      caller = .arriving := List.eq_of_mem_replicate (List.mem_of_getElem? found)
  refine ⟨rfl, ?_, .nil, ?_, List.nodup_nil, .idle rfl rfl nofun ?_⟩
  · intro place caller found
    cases arriving found
    exact ⟨nofun, nofun⟩
  · intro place failure
    exact ⟨fun found => (nomatch arriving found), nofun⟩
  · intro place found
    cases arriving found

end Orderly

/-! ## One initialization -/

/-- The attempts of the callers in a crowd, which has begun in the session `start`. -/
structure InitializesOnce (registry : Registry) (start : Session σ) (crowd : Crowd σ)
    (attempts : List Attempt) : Prop where
  /-- At most one caller is inside. -/
  alone : ∀ ⦃place other : Nat⦄ ⦃caller another : Caller σ⦄, crowd.callers[place]? = some caller →
    crowd.callers[other]? = some another → caller.isInside = true → another.isInside = true →
    place = other
  /-- The lock is held by who is inside, and by nobody else. -/
  locked : crowd.locked = true ↔
    ∃ (place : Nat) (caller : Caller σ), crowd.callers[place]? = some caller ∧
      caller.isInside = true
  /-- The record tells who has asked for what. -/
  recorded : crowd.session.events = start.events ++ crowd.record.map Prod.snd
  /-- What one attempt asks for stands together. -/
  together : crowd.record = attempts.flatMap Attempt.record
  inTurn : registry.InTurn attempts
  /-- Callers at work are those whose attempts have not ended. -/
  atWork : ∀ place : Nat,
    (∃ caller : Caller σ, crowd.callers[place]? = some caller ∧ caller.isAtWork = true) ↔
      ∃ events, ⟨place, events, none⟩ ∈ attempts
  /-- Callers that have raised an error are those whose attempts have failed. -/
  errors : ∀ (place : Nat) (failure : Failure),
    crowd.callers[place]? = some (.returned (.error failure)) ↔
      ∃ events, ⟨place, events, some (.error failure)⟩ ∈ attempts
  complete : ∀ attempt ∈ attempts, attempt.isComplete = true →
    HasReturned crowd.callers attempt.place
  /-- Who returns finds the registry ready, and all the bindings loaded. -/
  loaded : ∀ place, HasReturned crowd.callers place →
    (∃ attempt ∈ attempts, attempt.isComplete = true) ∧
      ∃ before, registry.FailInTurn start attempts.dropLast before ∧
        registry.IsLoaded before crowd.session
  /-- What is ready stays ready. -/
  kept : crowd.session.ready = true → ∀ order, (crowd.run registry order).session = crowd.session

namespace Orderly

theorem alone (orderly : Orderly registry start crowd failed before holder) {place other : Nat}
    {caller another : Caller σ} (found : crowd.callers[place]? = some caller)
    (there : crowd.callers[other]? = some another) (inside : caller.isInside = true)
    (inside' : another.isInside = true) : place = other := by
  have isHolder := (orderly.inside found).mp inside
  have isHolder' := (orderly.inside there).mp inside'
  exact Option.some.inj (isHolder.symm.trans isHolder')

theorem locked_iff (orderly : Orderly registry start crowd failed before holder) :
    crowd.locked = true ↔
      ∃ (place : Nat) (caller : Caller σ), crowd.callers[place]? = some caller ∧
        caller.isInside = true := by
  rw [orderly.locked, Option.isSome_iff_exists]
  constructor
  · rintro ⟨place, isHolder⟩
    cases orderly.phase with
    | idle _ _ looks => exact ⟨place, .entered, looks place isHolder, rfl⟩
    | running _ found runs => exact ⟨_, _, found, runs.pursues.isInside⟩
    | done _ _ _ looks => exact ⟨place, .entered, looks place isHolder, rfl⟩
  · rintro ⟨place, caller, found, inside⟩
    exact ⟨place, (orderly.inside found).mp inside⟩

theorem exists_atWork_concat (orderly : Orderly registry start crowd failed before holder)
    {place : Nat} {caller : Caller σ} {added : List Event}
    (found : crowd.callers[place]? = some caller) (atWork : caller.isAtWork = true) (other : Nat) :
    (∃ caller : Caller σ, crowd.callers[other]? = some caller ∧ caller.isAtWork = true) ↔
      ∃ events, ⟨other, events, none⟩ ∈ failed ++ [⟨place, added, none⟩] := by
  constructor
  · rintro ⟨another, there, atWork'⟩
    cases orderly.alone found there (Caller.isInside_of_isAtWork atWork)
      (Caller.isInside_of_isAtWork atWork')
    exact ⟨added, List.mem_append_right failed (List.mem_singleton_self _)⟩
  · rintro ⟨events, mem⟩
    rcases List.mem_append.mp mem with mem | mem
    · exact absurd mem orderly.failures.not_mem_underWay
    · cases List.mem_singleton.mp mem
      exact ⟨caller, found, atWork⟩

theorem initializesOnce_of_idle (orderly : Orderly registry start crowd failed before holder)
    (fresh : start.ready = false) (session : crowd.session = before)
    (record : crowd.record = failed.flatMap Attempt.record)
    (looks : ∀ place, holder = some place → crowd.callers[place]? = some .entered)
    (nobody : ∀ place, ¬ HasReturned crowd.callers place) :
    InitializesOnce registry start crowd failed where
  alone _ _ _ _ := orderly.alone
  locked := orderly.locked_iff
  recorded := by rw [session, record, orderly.failures.events]
  together := record
  inTurn := orderly.failures.inTurn orderly.distinct
  atWork place := iff_of_false (orderly.not_exists_atWork looks place)
    fun ⟨_, mem⟩ => orderly.failures.not_mem_underWay mem
  errors := orderly.errors
  complete attempt mem complete :=
    absurd complete (orderly.failures.not_isComplete attempt mem)
  loaded place returned := absurd returned (nobody place)
  kept := orderly.session_run fresh

theorem initializesOnce_of_running (orderly : Orderly registry start crowd failed before holder)
    (fresh : start.ready = false) {place : Nat} {caller : Caller σ} {added rest : List Event}
    (found : crowd.callers[place]? = some caller)
    (runs : Running registry crowd failed before place caller added rest) :
    InitializesOnce registry start crowd (failed ++ [⟨place, added, none⟩]) := by
  -- The attempt that is under way has no result yet and is the last one.
  have incomplete : ¬ (Attempt.mk place added none).isComplete = true := nofun
  have places : ((failed ++ [Attempt.mk place added none]).map Attempt.place).Nodup :=
    orderly.distinct_concat found fun _ => runs.pursues.ne_returned _
  exact
    { alone := fun _ _ _ _ => orderly.alone
      locked := orderly.locked_iff
      recorded := by
        rw [runs.events, orderly.failures.events, runs.record]
        simp [Function.comp_def]
      together := by simpa [Attempt.record] using runs.record
      inTurn := orderly.failures.inTurn_concat places (runs.asked ▸ List.prefix_append added rest)
        fun complete => absurd complete incomplete
      atWork := orderly.exists_atWork_concat found runs.pursues.isAtWork
      errors := fun other failure => by rw [orderly.errors]; simp
      complete := orderly.failures.of_isComplete fun complete => absurd complete incomplete
      loaded := fun other returned => absurd returned (runs.nobody other)
      kept := orderly.session_run fresh }

theorem initializesOnce_of_done (orderly : Orderly registry start crowd failed before holder)
    (fresh : start.ready = false) {place : Nat}
    (completed : perform registry.ensureReady before = (.ok (), crowd.session))
    (found : HasReturned crowd.callers place)
    (record : crowd.record = failed.flatMap Attempt.record ++
      registry.preparation.map (place, ·))
    (looks : ∀ place, holder = some place → crowd.callers[place]? = some .entered) :
    InitializesOnce registry start crowd
      (failed ++ [⟨place, registry.preparation, some (.ok ())⟩]) := by
  obtain ⟨loaded, asked⟩ := Registry.isLoaded_of_done (orderly.failures.unready fresh) completed
  have places :
      ((failed ++ [Attempt.mk place registry.preparation (some (.ok ()))]).map
        Attempt.place).Nodup := orderly.distinct_concat (found :) nofun
  exact
    { alone := fun _ _ _ _ => orderly.alone
      locked := orderly.locked_iff
      recorded := by
        rw [asked, orderly.failures.events, record]
        simp [Function.comp_def]
      together := by simpa [Attempt.record] using record
      inTurn := orderly.failures.inTurn_concat places List.prefix_rfl fun _ => rfl
      atWork := fun other => iff_of_false (orderly.not_exists_atWork looks other)
        (by simp [orderly.failures.not_mem_underWay])
      errors := fun other failure => by rw [orderly.errors]; simp
      complete := orderly.failures.of_isComplete fun _ => found
      loaded := fun _ _ => by
        rw [List.dropLast_concat]
        exact ⟨⟨_, List.mem_append_right failed (List.mem_singleton_self _), rfl⟩, before,
          orderly.failures, loaded⟩
      kept := orderly.session_run fresh }

end Orderly

/-- Callers that all use a registry for the first time initialize it once, whichever of them takes
the next turn and whichever of their statements fail. -/
theorem initializes_once (registry : Registry) (world : σ) (count : Nat) (order : List Nat) :
    ∃ attempts, InitializesOnce registry { world }
      (run registry order (ofCallers count { world })) attempts := by
  obtain ⟨failed, before, holder, orderly⟩ :=
    (Orderly.ofCallers registry { world } count).run rfl order
  -- The attempts are those that have failed, and the one that is under way or has succeeded.
  cases orderly.phase with
  | idle session record looks nobody =>
    exact ⟨failed, orderly.initializesOnce_of_idle rfl session record looks nobody⟩
  | running _ found runs => exact ⟨_, orderly.initializesOnce_of_running rfl found runs⟩
  | done completed found record looks =>
    exact ⟨_, orderly.initializesOnce_of_done rfl completed found record looks⟩

end Crowd

end TableSearch
