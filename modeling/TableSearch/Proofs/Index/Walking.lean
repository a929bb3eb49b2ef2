import TableSearch.Proofs.Index.Listing
import TableSearch.Proofs.Index.Following

/-!
# Walks through a listing

A listing is walked through page by page, while indexes come and go.  Each page goes on behind the
last id of the one before it, so the ids keep growing, and an id that stays in place is not missed.
-/

namespace TableSearch

open Sql Operation

/-! ## What a page shows -/

namespace Page

def ids (page : Page IndexSummary) : List Value := page.items.map IndexSummary.id

def further (page : Page IndexSummary) : PageParams :=
  { page.params with cursor := page.response.next }

def Leaves (lt : String → String → Prop) (page : Page IndexSummary) (id : String) : Prop :=
  page.isLast = false ∧ ∃ last, page.response.next = .text last ∧ lt last id

namespace Shows

variable {lt : String → String → Prop} {present shown rest : List String}
  {page : Page IndexSummary} (shows : page.Shows lt present shown rest)

include shows

theorem ids : page.ids = shown.map .text := by
  rw [Page.ids, shows.items, List.map_map]
  rfl

theorem of_mem {id : String} (mem : id ∈ shown) : id ∈ present ∧ page.params.Selects lt id :=
  (shows.selected id).mp (List.mem_append_left rest mem)

/-- A page that is not the last one goes on from the last id that it shows. -/
theorem exists_cursor (goesOn : page.isLast = false) :
    ∃ last, page.response.next = .text last ∧ last ∈ shown ∧
      (∀ id ∈ shown, id = last ∨ lt id last) ∧ ∀ id ∈ rest, lt last id := by
  have behind : rest ≠ [] := by
    rw [shows.isLast] at goesOn
    exact List.isEmpty_eq_false_iff.mp goesOn
  obtain ⟨front, last, rfl, next⟩ := shows.next behind
  obtain ⟨shownOrdered, -, across⟩ := List.pairwise_append.mp shows.ordered
  have mem : last ∈ front ++ [last] := List.mem_append_right front (List.mem_singleton_self last)
  refine ⟨last, next, mem, fun id inside => ?_, fun id inside => across last mem id inside⟩
  rcases List.mem_append.mp inside with inside | inside
  · exact .inr ((List.pairwise_append.mp shownOrdered).2.2 id inside last
      (List.mem_singleton_self last))
  · exact .inl (List.mem_singleton.mp inside)

/-- What a page leaves stands behind everything that it shows. -/
theorem across (order : IsStrictTotalOrder String lt) {id other : String} (mem : id ∈ shown)
    (leaves : page.Leaves lt other) : lt id other := by
  obtain ⟨goesOn, last, next, after⟩ := leaves
  obtain ⟨last', next', -, reached, -⟩ := shows.exists_cursor goesOn
  cases next.symm.trans next'
  rcases reached id mem with rfl | less
  · exact after
  · exact order.trans _ _ _ less after

/-- A page leaves the ids that it was to show but that do not fit. -/
theorem mem_rest (order : IsStrictTotalOrder String lt) {id : String} :
    id ∈ rest ↔ (id ∈ present ∧ page.params.Selects lt id) ∧ page.Leaves lt id := by
  rw [← shows.selected, List.mem_append]
  constructor
  · intro behind
    have goesOn : page.isLast = false := by
      rw [shows.isLast, List.isEmpty_eq_false_iff]
      exact List.ne_nil_of_mem behind
    obtain ⟨last, next, -, -, after⟩ := shows.exists_cursor goesOn
    exact ⟨.inr behind, goesOn, last, next, after id behind⟩
  · rintro ⟨inside | behind, leaves⟩
    · exact absurd (shows.across order inside leaves) (order.irrefl id)
    · exact behind

theorem shown_ne_nil (some : shown ++ rest ≠ []) : shown ≠ [] := by
  rintro rfl
  obtain ⟨front, last, empty, -⟩ := shows.next some
  exact List.append_ne_nil_of_right_ne_nil front (List.cons_ne_nil last []) empty.symm

theorem mem_shown (order : IsStrictTotalOrder String lt) {id : String} (there : id ∈ present)
    (selected : page.params.Selects lt id) (shownAll : ¬ page.Leaves lt id) : id ∈ shown := by
  have mem := (shows.selected id).mpr ⟨there, selected⟩
  refine (List.mem_append.mp mem).resolve_right fun behind => ?_
  exact shownAll ((shows.mem_rest order).mp behind).2

end Shows

end Page

/-! ## Loading the pages -/

variable {σ : Type} [World σ]

namespace Registry

variable {registry : Registry}

theorem perform_list {value : Value} {params : PageParams}
    (read : PageParams.read value = .valid params) {session middle : Session σ}
    (ready : perform registry.ensureReady session = (.ok (), middle)) :
    perform (registry.list value) session =
      perform (Page.load registry.loadPage params) middle := by
  unfold Registry.list
  rw [perform_bind, ready, read]
  rfl

theorem perform_next_eq_some {page following : Page IndexSummary} {session after : Session σ} :
    perform (page.next registry.loadPage) session = (.ok (some following), after) ↔
      page.isLast = false ∧
        perform (Page.load registry.loadPage page.further) session = (.ok following, after) := by
  unfold Page.next
  cases page.isLast with
  | true => exact ⟨nofun, fun ⟨goesOn, _⟩ => nomatch goesOn⟩
  | false =>
    change perform (Page.load registry.loadPage page.further >>= fun page => pure (some page))
      session = _ ↔ _
    rw [perform_bind_eq_ok]
    constructor
    · rintro ⟨loaded, middle, done, same⟩
      cases same
      exact ⟨rfl, done⟩
    · rintro ⟨-, done⟩
      exact ⟨following, after, done, rfl⟩

theorem perform_next_eq_none {page : Page IndexSummary} {session after : Session σ} :
    perform (page.next registry.loadPage) session = (.ok none, after) ↔
      page.isLast = true ∧ after = session := by
  unfold Page.next
  cases page.isLast with
  | true =>
    change ((.ok none, session) : Except Failure _ × Session σ) = _ ↔ _
    simp [eq_comm]
  | false =>
    change perform (Page.load registry.loadPage page.further >>= fun page => pure (some page))
      session = _ ↔ _
    rw [perform_bind_eq_ok]
    exact ⟨fun ⟨_, _, _, same⟩ => (by cases same), fun ⟨isLast, _⟩ => nomatch isLast⟩

/-- Pages of a listing that are loaded one behind the other, each of them in a world of its own. -/
inductive Walk (registry : Registry) (value : Value) :
    List (σ × Page IndexSummary) → Page IndexSummary → Prop where
  | first {session middle after : Session σ} {page : Page IndexSummary}
      (ready : perform registry.ensureReady session = (.ok (), middle))
      (listed : perform (registry.list value) session = (.ok page, after)) :
      Walk registry value [(middle.world, page)] page
  | next {visits : List (σ × Page IndexSummary)} {page following : Page IndexSummary}
      {session after : Session σ} (walk : Walk registry value visits page)
      (loaded : perform (page.next registry.loadPage) session = (.ok (some following), after)) :
      Walk registry value (visits ++ [(session.world, following)]) following

end Registry

/-! ## Pages so far -/

/-- Pages that have been loaded one behind the other, the ids that they show, and what they leave
to further pages. -/
structure Walked (ids : σ → List String) (lt : String → String → Prop) (params : PageParams)
    (visits : List (σ × Page IndexSummary)) (shown : List String) (left : String → Prop) :
    Prop where
  shows : visits.flatMap (fun visit => visit.2.ids) = shown.map .text
  ordered : shown.Pairwise lt
  length : ∀ visit ∈ visits, visit.2.items.length ≤ params.size
  present : ∀ visit ∈ visits, ∀ value ∈ visit.2.ids,
    ∃ id, value = .text id ∧ id ∈ ids visit.1 ∧ params.Selects lt id
  /-- An id that was there all the time has been shown, unless it is left to further pages. -/
  complete : ∀ id, params.Selects lt id → (∀ visit ∈ visits, id ∈ ids visit.1) → ¬ left id →
    id ∈ shown
  across : ∀ id ∈ shown, ∀ other, left other → lt id other

omit [World σ] in
theorem Walked.nothing (ids : σ → List String) (lt : String → String → Prop) (params : PageParams) :
    Walked ids lt params [] [] fun _ => True :=
  ⟨rfl, .nil, nofun, nofun, fun _ _ _ rest => absurd trivial rest, nofun⟩

omit [World σ] in
theorem Walked.page {ids : σ → List String} {lt : String → String → Prop} {params : PageParams}
    (order : IsStrictTotalOrder String lt) {visits : List (σ × Page IndexSummary)}
    {before shown rest : List String} {left : String → Prop} {world : σ} {page : Page IndexSummary}
    (walked : Walked ids lt params visits before left)
    (selects : ∀ id, page.params.Selects lt id ↔ params.Selects lt id ∧ left id)
    (size : page.params.size = params.size) (shows : page.Shows lt (ids world) shown rest) :
    Walked ids lt params (visits ++ [(world, page)]) (before ++ shown) (page.Leaves lt) where
  shows := by
    rw [List.flatMap_append, walked.shows, List.flatMap_singleton, shows.ids, List.map_append]
  ordered := by
    refine List.pairwise_append.mpr ⟨walked.ordered, (List.pairwise_append.mp shows.ordered).1,
      fun id mem other inside => ?_⟩
    exact walked.across id mem other ((selects other).mp (shows.of_mem inside).2).2
  length visit mem := by
    rcases List.mem_append.mp mem with mem | mem
    · exact walked.length visit mem
    · cases List.mem_singleton.mp mem
      rw [shows.items, List.length_map, ← size]
      exact shows.length
  present visit mem value inside := by
    rcases List.mem_append.mp mem with mem | mem
    · exact walked.present visit mem value inside
    · cases List.mem_singleton.mp mem
      rw [shows.ids] at inside
      obtain ⟨id, here, rfl⟩ := List.mem_map.mp inside
      obtain ⟨there, selected⟩ := shows.of_mem here
      exact ⟨id, rfl, there, ((selects id).mp selected).1⟩
  complete id selected there shownAll := by
    -- Either the id was left to this page, or one before it has shown the id.
    by_cases behind : left id
    · have here := there _ (List.mem_append_right visits (List.mem_singleton_self (world, page)))
      exact List.mem_append_right before
        (shows.mem_shown order here ((selects id).mpr ⟨selected, behind⟩) shownAll)
    · exact List.mem_append_left _ (walked.complete id selected
        (fun visit mem => there visit (List.mem_append_left _ mem)) behind)
  across id mem other leaves := by
    rcases List.mem_append.mp mem with mem | mem
    · obtain ⟨goesOn, last, next, after⟩ := leaves
      obtain ⟨last', next', inside, -, -⟩ := shows.exists_cursor goesOn
      cases next.symm.trans next'
      have behind := ((selects last).mp (shows.of_mem inside).2).2
      exact order.trans _ _ _ (walked.across id mem last behind) after
    · exact shows.across order mem leaves

/-! ## Walks -/

namespace Registry

variable {registry : Registry} {ids : σ → List String} {lt : String → String → Prop}
  {params : PageParams}

/-- A page of a listing, and the cursor from which the listing goes on. -/
structure IsPageOf (lt : String → String → Prop) (params : PageParams) (page : Page IndexSummary) :
    Prop where
  start : page.params.start = params.start
  limit : page.params.limit = params.limit
  cursor : page.isLast = false →
    ∃ last, page.response.next = .text last ∧ last ≠ "" ∧ params.Selects lt last

theorem IsPageOf.size {page : Page IndexSummary} (isPage : IsPageOf lt params page) :
    page.params.size = params.size := congrArg (Option.getD · standardLimit) isPage.limit

section

variable {page : Page IndexSummary} (isPage : IsPageOf lt params page)
  (goesOn : page.isLast = false)

include isPage goesOn

theorem IsPageOf.proper_further (proper : params.IsProper) : page.further.IsProper where
  size := by
    have size : page.further.size = params.size := isPage.size
    rw [size]
    exact proper.size
  cursor := by
    obtain ⟨last, next, nonempty, -⟩ := isPage.cursor goesOn
    exact .inr ⟨last, nonempty, next⟩

/-- The parameters of the page behind a page select what the page has left. -/
theorem IsPageOf.selects_further (order : IsStrictTotalOrder String lt) (id : String) :
    page.further.Selects lt id ↔ params.Selects lt id ∧ page.Leaves lt id := by
  obtain ⟨last, next, -, selected⟩ := isPage.cursor goesOn
  constructor
  · rintro ⟨starts, follows⟩
    have behind := follows last next
    refine ⟨⟨fun start same => starts start (isPage.start.trans same), fun after same => ?_⟩,
      goesOn, last, next, behind⟩
    exact order.trans _ _ _ (selected.cursor after same) behind
  · rintro ⟨⟨starts, -⟩, -, last', next', behind⟩
    refine ⟨fun start same => starts start (isPage.start.symm.trans same), fun after same => ?_⟩
    cases next'.symm.trans same
    exact behind

end

theorem isPageOf_of_shows {page : Page IndexSummary} {present shown rest : List String}
    (named : "" ∉ present) (shows : page.Shows lt present shown rest)
    (start : page.params.start = params.start) (limit : page.params.limit = params.limit)
    (selects : ∀ id, page.params.Selects lt id → params.Selects lt id) :
    IsPageOf lt params page where
  start := start
  limit := limit
  cursor goesOn := by
    obtain ⟨last, next, mem, -, -⟩ := shows.exists_cursor goesOn
    obtain ⟨there, selected⟩ := shows.of_mem mem
    exact ⟨last, next, fun empty => named (empty ▸ there), selects last selected⟩

/-- Whatever becomes of the indexes between the pages of a walk, the pages show ids in order, and
leave only what stands behind the last one. -/
theorem Walk.walked (laws : ListsIds registry.table ids lt) {value : Value}
    (read : PageParams.read value = .valid params) (proper : params.IsProper)
    {visits : List (σ × Page IndexSummary)} {page : Page IndexSummary}
    (walk : Walk registry value visits page) :
    IsPageOf lt params page ∧ ∃ shown, Walked ids lt params visits shown (page.Leaves lt) := by
  -- The induction is on the pages: each of them shows what stands behind those before it.
  induction walk with
  | @first session middle after page ready listed =>
    rw [perform_list read ready] at listed
    obtain ⟨rfl, -, shown, rest, shows⟩ := laws.shows_of_load proper listed
    refine ⟨isPageOf_of_shows (laws.named _) shows rfl rfl fun _ selected => selected, shown, ?_⟩
    have nothing := Walked.nothing ids lt page.params
    exact nothing.page laws.order (fun _ => (and_iff_left trivial).symm) rfl shows
  | @next visits page following session after walk loaded ih =>
    obtain ⟨isPage, before, walked⟩ := ih
    obtain ⟨goesOn, loaded⟩ := perform_next_eq_some.mp loaded
    obtain ⟨given, -, shown, rest, shows⟩ :=
      laws.shows_of_load (isPage.proper_further goesOn proper) loaded
    have selects := isPage.selects_further goesOn laws.order
    rw [← given] at selects
    have start := congrArg PageParams.start given
    have limit := congrArg PageParams.limit given
    have isNext : IsPageOf lt params following := isPageOf_of_shows (laws.named _) shows
      (start.trans isPage.start) (limit.trans isPage.limit) fun id selected =>
        ((selects id).mp selected).1
    exact ⟨isNext, before ++ shown, walked.page laws.order selects isNext.size shows⟩

/-! ## A table that does not change -/

/-- A database that answers the listings that begin like one and are as long. -/
def Answers (registry : Registry) (params : PageParams) (σ : Type) [World σ] : Prop :=
  ∀ (world : σ) (cursor : Value), { params with cursor }.IsProper →
    ∃ result next,
      Accepts (.listIndexes registry.table params.start cursor (params.size + 1)) world result next

/-- While a page is not the last one, the next page shows the first of the ids that it has left, and
leaves the others. -/
theorem next_of_shows (laws : ListsIds registry.table ids lt) {page : Page IndexSummary}
    {shown rest : List String} {session : Session σ} (proper : page.params.IsProper)
    (answers : registry.Answers page.params σ)
    (shows : page.Shows lt (ids session.world) shown rest) (goesOn : page.isLast = false) :
    ∃ (following : Page IndexSummary) (first others : List String) (after : Session σ),
      perform (page.next registry.loadPage) session = (.ok (some following), after) ∧
      following.params = page.further ∧ following.params.IsProper ∧
      following.Shows lt (ids after.world) first others ∧ first ++ others = rest ∧ first ≠ [] := by
  have isPage : IsPageOf lt page.params page :=
    isPageOf_of_shows (laws.named _) shows rfl rfl fun _ selected => selected
  have proper' := isPage.proper_further goesOn proper
  obtain ⟨result, next, accepted⟩ := answers session.world page.response.next proper'
  obtain ⟨following, first, others, after, loaded, same, given, shows'⟩ :=
    laws.load proper' accepted
  -- Both are in order, so they are the same list once the same ids are in them.
  have parts : first ++ others = rest := by
    have := laws.order
    refine shows'.ordered.eq_of_mem_iff (List.pairwise_append.mp shows.ordered).2.1 fun id => ?_
    rw [shows'.selected, given, isPage.selects_further goesOn laws.order,
      shows.mem_rest laws.order, and_assoc]
  have behind : rest ≠ [] := by
    rw [shows.isLast] at goesOn
    exact List.isEmpty_eq_false_iff.mp goesOn
  have nonempty := shows'.shown_ne_nil (parts ▸ behind)
  rw [← same] at shows'
  exact ⟨following, first, others, after, perform_next_eq_some.mpr ⟨goesOn, loaded⟩, given,
    given ▸ proper', shows', parts, nonempty⟩

theorem follow_of_shows (laws : ListsIds registry.table ids lt) {steps : Nat}
    {page : Page IndexSummary} {shown rest : List String} {session : Session σ}
    (proper : page.params.IsProper) (answers : registry.Answers page.params σ)
    (shows : page.Shows lt (ids session.world) shown rest) (enough : rest.length < steps) :
    ∃ (pages : List (Page IndexSummary)) (after : Session σ),
      perform (page.follow registry.loadPage steps) session =
        (.ok (pages.map some ++ [none]), after) ∧
      pages.flatMap Page.ids = rest.map .text := by
  -- What is left gets shorter with every page, so the steps do not run out.
  induction steps generalizing page shown rest session with
  | zero => cases enough
  | succ steps ih =>
    unfold Page.follow
    cases isLast : page.isLast with
    | true =>
      rw [shows.isLast, List.isEmpty_iff] at isLast
      rw [perform_bind, perform_next_eq_none.mpr ⟨shows.isLast.trans (by rw [isLast]; rfl), rfl⟩,
        isLast]
      exact ⟨[], session, rfl, rfl⟩
    | false =>
      obtain ⟨following, first, others, middle, loaded, given, proper', shows', rfl, nonempty⟩ :=
        next_of_shows laws proper answers shows isLast
      have shorter : others.length < steps := by
        have pos := List.length_pos_iff.mpr nonempty
        rw [List.length_append] at enough
        omega
      obtain ⟨pages, after, followed, listed⟩ :=
        ih proper' (by rw [given]; exact answers) shows' shorter
      refine ⟨following :: pages, after, ?_, ?_⟩
      · rw [perform_bind, loaded]
        change perform (following.follow registry.loadPage steps >>= fun behind =>
          pure (Option.some following :: behind)) middle = _
        rw [perform_bind, followed]
        rfl
      · rw [List.flatMap_cons, shows'.ids, listed, ← List.map_append]

/-! ## The whole walk -/

/-- A walk through a listing shows no id twice, and misses none that stays in place.  Each page
shows ids that were there to be listed when it was loaded, and no more of them than were asked for.
If the ids stay as they are, then the walk ends and shows exactly those that were to be listed. -/
theorem walk_complete (laws : ListsIds registry.table ids lt) {value : Value}
    (read : PageParams.read value = .valid params) (proper : params.IsProper) :
    (∀ visits page, Walk registry value visits page → ∃ shown : List String,
      visits.flatMap (fun visit => visit.2.ids) = shown.map .text ∧ shown.Pairwise lt ∧
      (∀ visit ∈ visits, visit.2.items.length ≤ params.size ∧ ∀ value ∈ visit.2.ids,
        ∃ id, value = .text id ∧ id ∈ ids visit.1 ∧ params.Selects lt id) ∧
      ∀ session after : Session σ, perform (page.next registry.loadPage) session = (.ok none, after) →
        ∀ id, params.Selects lt id → (∀ visit ∈ visits, id ∈ ids visit.1) →
          shown.count id = 1) ∧
    (registry.Answers params σ → ∀ session middle : Session σ,
      perform registry.ensureReady session = (.ok (), middle) →
      ∀ steps, (ids middle.world).length < steps →
      ∃ (page : Page IndexSummary) (pages : List (Page IndexSummary)) (first last : Session σ)
        (listed : List String),
        perform (registry.list value) session = (.ok page, first) ∧
        perform (page.follow registry.loadPage steps) first =
          (.ok (pages.map some ++ [none]), last) ∧
        (page :: pages).flatMap Page.ids = listed.map .text ∧ listed.Pairwise lt ∧
        ∀ id, id ∈ listed ↔ id ∈ ids middle.world ∧ params.Selects lt id) := by
  have := laws.order
  refine ⟨fun visits page walk => ?_, fun answers session middle ready steps enough => ?_⟩
  · obtain ⟨-, shown, walked⟩ := walk.walked laws read proper
    refine ⟨shown, walked.shows, walked.ordered,
      fun visit mem => ⟨walked.length visit mem, walked.present visit mem⟩, ?_⟩
    intro session after ends id selected there
    -- The last page leaves nothing, so an id that was there all the time has been shown.
    have isLast := (perform_next_eq_none.mp ends).1
    have mem := walked.complete id selected there fun leaves => nomatch isLast.symm.trans leaves.1
    exact List.count_eq_one_of_mem walked.ordered.nodup mem
  · obtain ⟨result, next, accepted⟩ := answers middle.world params.cursor proper
    obtain ⟨page, shown, rest, first, loaded, same, given, shows⟩ := laws.load proper accepted
    have selected := shows.selected
    -- What is left behind the first page are ids without repetition, so they are no more than all.
    have fits : rest.length ≤ (ids middle.world).length := by
      have nodup := (List.pairwise_append.mp shows.ordered).2.1.nodup
      refine (nodup.subperm fun id mem => ?_).length_le
      exact ((selected id).mp (List.mem_append_right shown mem)).1
    rw [← same] at shows
    rw [← given] at proper answers
    obtain ⟨pages, last, followed, behind⟩ :=
      follow_of_shows laws proper answers shows (Nat.lt_of_le_of_lt fits enough)
    refine ⟨page, pages, first, last, shown ++ rest, ?_, followed, ?_, shows.ordered, ?_⟩
    · rw [perform_list read ready, loaded]
    · rw [List.flatMap_cons, shows.ids, behind, ← List.map_append]
    · rwa [given] at selected

theorem answers_catalog (registry : Registry) (params : PageParams) :
    registry.Answers params Catalog := fun world _ proper =>
  ⟨_, world, Catalog.accepts_iff.mpr ⟨⟨Nat.succ_pos _, proper.cursor⟩, rfl, rfl⟩⟩

/-- For example, an id that stays in place is shown once though the page before it has lost its last
id, and a new id is shown if it stands behind that one. -/
theorem walk_complete_changing_catalog :
    let value := Value.map [("prefix", .text "d"), ("limit", .int 2)]
    let catalog : Catalog := ⟨["a", "d1", "d2", "d5", "e"], by decide +kernel, by decide +kernel⟩
    let changed : Catalog := ⟨["d0", "d1", "d3", "d5"], by decide +kernel, by decide +kernel⟩
    ∃ (first second : Page IndexSummary) (shown : List String),
      Walk {} value [(catalog, first), (changed, second)] second ∧
      first.ids ++ second.ids = shown.map .text ∧ shown.Pairwise (· < ·) ∧
      shown.count "d5" = 1 ∧
      ∃ (page : Page IndexSummary) (pages : List (Page IndexSummary)) (after last : Session Catalog),
        perform (list {} value) { world := catalog, ready := true } = (.ok page, after) ∧
        perform (page.follow (loadPage {}) 6) after = (.ok (pages.map some ++ [none]), last) ∧
        (page :: pages).flatMap Page.ids = ["d1", "d2", "d5"].map .text := by
  intro value catalog changed
  let params : PageParams := { start := some "d", limit := some 2 }
  have read : PageParams.read value = .valid params := rfl
  have proper : params.IsProper := ⟨by decide, .inl rfl⟩
  obtain ⟨walked, settled⟩ := walk_complete (Catalog.listsIds (table {})) read proper
  -- Two pages, between which the catalog changes.
  let first := ListsIds.pageOf params ((catalog.select params.conditions).take 3)
  let second := ListsIds.pageOf first.further ((changed.select first.further.conditions).take 3)
  let session : Session Catalog := { world := catalog, ready := true }
  have opened : perform (ensureReady {}) session = (.ok (), session) := perform_ensureReady {} rfl
  have goesOn : first.isLast = false := by decide +kernel
  have further : first.further.IsProper := ⟨by decide, .inr ⟨"d2", by decide, rfl⟩⟩
  have walk : Walk {} value [(catalog, first), (changed, second)] second :=
    (Walk.first opened ((perform_list read opened).trans (Catalog.perform_load {} proper _))).next
      (perform_next_eq_some.mpr ⟨goesOn, Catalog.perform_load {} further { world := changed }⟩)
  obtain ⟨shown, shows, ordered, -, complete⟩ := walked _ _ walk
  have ends : second.isLast = true := by decide +kernel
  have selected : params.Selects (· < ·) "d5" := PageParams.holds_iff.mp (by decide +kernel)
  have stays : ∀ visit ∈ [(catalog, first), (changed, second)], "d5" ∈ visit.1.ids :=
    List.forall_mem_cons.mpr ⟨by decide, List.forall_mem_singleton.mpr (by decide)⟩
  refine ⟨first, second, shown, walk, by simpa using shows, ordered,
    complete { world := changed } _ (perform_next_eq_none.mpr ⟨ends, rfl⟩) "d5" selected stays, ?_⟩
  -- The walk through the catalog as it was.
  obtain ⟨page, pages, after, last, listed, loaded, followed, ids, ordered, mem⟩ :=
    settled (answers_catalog {} params) _ _ opened 6 (by decide)
  refine ⟨page, pages, after, last, loaded, followed, ids.trans (congrArg _ ?_)⟩
  have there : catalog.select params.conditions = ["d1", "d2", "d5"] := by decide +kernel
  refine ordered.eq_of_mem_iff (by decide +kernel) fun id => ?_
  rw [mem, ← there, Catalog.mem_select, PageParams.holds_iff]

end Registry

end TableSearch
