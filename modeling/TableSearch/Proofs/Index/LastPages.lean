import TableSearch.Proofs.Index.Walking
import TableSearch.Proofs.Query.Answering

/-!
# The last page of a listing

A page goes on from its last id, but a cursor that is empty counts as none.  So a page that ends
with the empty id takes itself for the last one, whatever follows.  No id is sorted before the empty
one, so this is a page for one id that shows the empty one.  Every other page is right about
whether it is the last one.
-/

namespace TableSearch

open Sql Operation

/-! ## Cursors -/

namespace PageParams

/-- The cursors that can be read: none, or a text, which may be empty. -/
inductive IsCursor : Value → Prop where
  | none : IsCursor .null
  | after (id : String) : IsCursor (.text id)

def resolved (params : PageParams) : PageParams :=
  { params with cursor := if params.cursor.truthy then params.cursor else .null }

variable {params : PageParams}

theorem isCursor_of_read {value : Value} (accepted : read value = .valid params) :
    IsCursor params.cursor := by
  cases value with
  | map entries =>
    simp only [read, Decoder.record, Checked.seq_eq_valid, Checked.map_eq_valid] at accepted
    obtain ⟨_, ⟨_, ⟨start, -, rfl⟩, cursor, -, rfl⟩, limit, -, rfl⟩ := accepted
    cases cursor with
    | none => exact .none
    | some after => exact .after after
  | _ => cases accepted

theorem isProper_resolved (size : 0 < params.size) (cursor : IsCursor params.cursor) :
    params.resolved.IsProper where
  size := size
  cursor := by
    generalize given : params.cursor = value at cursor
    cases cursor with
    | none => exact .inl (by rw [resolved, given]; rfl)
    | after id =>
      by_cases empty : id = ""
      · exact .inl (by rw [resolved, given, empty]; rfl)
      · exact .inr ⟨id, empty, by simp [resolved, given, Value.truthy, empty]⟩

/-- A listing without the cursor that counts as none is the same one. -/
theorem clause_resolved (params : PageParams) (table : TableName) (limit : Nat) :
    (Statement.listIndexes table params.start params.cursor limit).clause =
      (Statement.listIndexes table params.resolved.start params.resolved.cursor limit).clause := by
  cases counts : params.cursor.truthy with
  | true => rw [resolved, if_pos counts]
  | false =>
    have none : params.resolved.cursor = .null := by
      rw [resolved, counts]
      rfl
    rw [none, Statement.clause, Statement.listing, counts]
    rfl

end PageParams

/-! ## The database -/

variable {σ : Type} [World σ]

/-- What a database answers to the listings of a registry, whatever its ids are.  It compares and
sorts them by the same order, in which none comes before the empty one. -/
structure ListsAnyIds (table : TableName) (ids : σ → List String) (lt : String → String → Prop) :
    Prop where
  order : IsStrictTotalOrder String lt
  emptyFirst : ∀ id, ¬ lt id ""
  /-- The conditions of a listing are those that its clause spells out. -/
  listing : ∀ {start cursor limit conditions world result next},
    (Statement.listIndexes table start cursor limit).clause = idListing table conditions limit →
    Accepts (.listIndexes table start cursor limit) world result next →
      ids next = ids world ∧ ∃ chosen : List String, chosen.Pairwise lt ∧
        (∀ id, id ∈ chosen ↔ id ∈ ids world ∧ ∀ condition ∈ conditions, condition.Holds lt id) ∧
        result.columns = some ["id"] ∧
        result.rows = (chosen.take limit).map fun id => [.text id]

/-! ## Loaded pages -/

/-- An id that is there, begins like the ids of a listing, and is sorted behind the last item of a
page. -/
structure Page.IsFollowedBy (lt : String → String → Prop) (present : List String)
    (start : Option String) (page : Page IndexSummary) (id : String) : Prop where
  present : id ∈ present
  start : ∀ wanted, start = some wanted → wanted.toList <+: id.toList
  behind : ∃ last, page.ids.getLast? = some (.text last) ∧ lt last id

/-- A page calls itself the last one exactly if no id follows its last item, or if it has room for
one id and shows the empty one. -/
def Page.EndsOrHides (lt : String → String → Prop) (present : List String)
    (start : Option String) (size : Nat) (page : Page IndexSummary) : Prop :=
  page.isLast = true ↔
    (∀ id, ¬ page.IsFollowedBy lt present start id) ∨ (size = 1 ∧ page.ids = [.text ""])

section

variable {lt : String → String → Prop} {params : PageParams} {present chosen : List String}

open ListsIds (pageOf items_pageOf ends_pageOf)

theorem ids_pageOf (params : PageParams) (chosen : List String) :
    (pageOf params (chosen.take (params.size + 1))).ids = (chosen.take params.size).map .text := by
  rw [Page.ids, items_pageOf, List.map_map]
  rfl

variable (order : IsStrictTotalOrder String lt) (ordered : chosen.Pairwise lt)
  (selected : ∀ id, id ∈ chosen ↔ id ∈ present ∧ params.resolved.Selects lt id)

include ordered selected

/-- If some of the ids that were to be shown do not fit on a page, then one follows. -/
theorem isFollowedBy_of_more {front : List String} {last : String}
    (split : chosen.take params.size = front ++ [last]) (more : chosen.drop params.size ≠ []) :
    ∃ id,
      (pageOf params (chosen.take (params.size + 1))).IsFollowedBy lt present params.start id := by
  obtain ⟨id, mem⟩ := List.exists_mem_of_ne_nil _ more
  have whole := List.take_append_drop params.size chosen
  rw [split] at whole
  obtain ⟨there, starts, -⟩ := (selected id).mp (List.mem_of_mem_drop mem)
  rw [← whole] at ordered
  refine ⟨id, there, starts, last, ?_, (List.pairwise_append.mp ordered).2.2 last
    (List.mem_append_right _ (List.mem_singleton_self _)) id mem⟩
  rw [ids_pageOf, split, List.map_append, List.map_singleton, List.getLast?_concat]

include order

/-- If all ids that were to be shown are on a page, then none follows. -/
theorem not_isFollowedBy_of_all (all : chosen.drop params.size = []) (id : String) :
    ¬ (pageOf params (chosen.take (params.size + 1))).IsFollowedBy lt present params.start id := by
  have shown : chosen.take params.size = chosen :=
    List.take_of_length_le (List.drop_eq_nil_iff.mp all)
  rintro ⟨there, starts, last, ends, behind⟩
  rw [ids_pageOf, shown, List.getLast?_map, Option.map_eq_some_iff] at ends
  obtain ⟨_, ends, same⟩ := ends
  cases same
  obtain ⟨front, rfl⟩ := List.getLast?_eq_some_iff.mp ends
  have lastSelected := ((selected last).mp (List.mem_append_right _ (List.mem_singleton_self _))).2
  -- What follows the last id is also behind the cursor, so it is to be shown itself.
  have mem : id ∈ front ++ [last] := (selected id).mpr ⟨there, starts, fun after given =>
    order.trans _ _ _ (lastSelected.cursor after given) behind⟩
  rcases List.mem_append.mp mem with inside | inside
  · have before := (List.pairwise_append.mp ordered).2.2 id inside last (List.mem_singleton_self _)
    exact order.irrefl _ (order.trans _ _ _ behind before)
  · cases List.mem_singleton.mp inside
    exact order.irrefl _ behind

theorem endsOrHides_pageOf (emptyFirst : ∀ id, ¬ lt id "") (size : 0 < params.size) :
    (pageOf params (chosen.take (params.size + 1))).EndsOrHides lt present params.start
      params.size := by
  obtain ⟨ends, goesOn⟩ := ends_pageOf size chosen
  by_cases all : chosen.drop params.size = []
  · exact iff_of_true (ends all) (.inl (not_isFollowedBy_of_all order ordered selected all))
  · obtain ⟨front, last, split, -, isLast⟩ := goesOn all
    obtain ⟨id, follows⟩ := isFollowedBy_of_more ordered selected split all
    rw [Page.EndsOrHides, isLast, String.isEmpty_iff, ids_pageOf, split]
    constructor
    · rintro rfl
      -- Nothing can stand before the empty id, so it is alone.
      have alone : front = [] := by
        refine List.eq_nil_iff_forall_not_mem.mpr fun other inside => emptyFirst other ?_
        have shown := ordered.sublist (List.take_sublist params.size chosen)
        rw [split] at shown
        exact (List.pairwise_append.mp shown).2.2 other inside "" (List.mem_singleton_self _)
      have length := congrArg List.length split
      rw [alone, List.length_take] at length
      have longer := List.drop_eq_nil_iff.not.mp all
      refine .inr ⟨?_, by rw [alone]; rfl⟩
      simp only [List.nil_append, List.length_singleton] at length
      omega
    · rintro (none | ⟨-, shows⟩)
      · exact absurd follows (none id)
      · have ids : front ++ [last] = [] ++ [""] :=
          List.map_injective_iff.mpr (fun _ _ same => Value.text.inj same) shows
        exact List.singleton_inj.mp (List.append_inj_right' ids rfl)

end

namespace ListsAnyIds

variable {registry : Registry} {ids : σ → List String} {lt : String → String → Prop}

/-- A loaded page, and the cursor from which the listing goes on. -/
theorem endsOrHides_of_load (laws : ListsAnyIds registry.table ids lt) {params : PageParams}
    (size : 0 < params.size) (cursor : PageParams.IsCursor params.cursor)
    {session after : Session σ} {page : Page IndexSummary}
    (loaded : perform (Page.load registry.loadPage params) session = (.ok page, after)) :
    page.params = params ∧
      (page.isLast = false → PageParams.IsCursor page.response.next) ∧
      page.EndsOrHides lt (ids session.world) params.start params.size := by
  obtain ⟨result, next, accepted⟩ := ListsIds.exists_accepts_of_load loaded
  have proper := PageParams.isProper_resolved size cursor
  obtain ⟨-, chosen, ordered, selected, columns, values⟩ := laws.listing
    ((params.clause_resolved _ _).trans (proper.clause_listIndexes registry.table _)) accepted
  simp only [PageParams.holds_iff] at selected
  cases loaded.symm.trans (ListsIds.perform_load accepted columns values)
  -- Only a page that is not the last one has an id behind which the next page begins.
  refine ⟨rfl, fun goesOn => ?_,
    endsOrHides_pageOf laws.order ordered selected laws.emptyFirst size⟩
  obtain ⟨ends, behind⟩ := ListsIds.ends_pageOf size chosen
  obtain ⟨-, last, -, next, -⟩ := behind fun all => by
    rw [ends all] at goesOn
    cases goesOn
  exact next ▸ .after last

end ListsAnyIds

/-! ## An inventory -/

/-- A world that holds any ids in order, and answers listings of them. -/
structure Inventory where
  ids : List String
  ordered : ids.Pairwise (· < ·)

namespace Inventory

def select (inventory : Inventory) (conditions : List IdCondition) : List String :=
  inventory.ids.filter fun id => ∀ condition ∈ conditions, condition.Holds (· < ·) id

def list (inventory : Inventory) (params : PageParams) (limit : Nat) : ResultSet where
  columns := some ["id"]
  rows := ((inventory.select params.resolved.conditions).take limit).map fun id => [.text id]

def answer (inventory : Inventory) (params : PageParams) (limit : Nat) : Except String ResultSet :=
  match params.cursor with
  | .null | .text _ => .ok (inventory.list params limit)
  | _ => .error "no cursor"

instance : World Inventory where
  execute statement inventory :=
    (match statement with
      | .listIndexes _ start cursor limit => inventory.answer { start, cursor } limit
      | _ => .error "no listing", inventory)
  runHook inventory := (true, inventory)
  now _ := default

theorem accepts_iff {table : TableName} {start : Option String} {cursor : Value} {limit : Nat}
    {world next : Inventory} {result : ResultSet} :
    Accepts (.listIndexes table start cursor limit) world result next ↔
      PageParams.IsCursor cursor ∧ next = world ∧
        result = world.list { start, cursor } limit := by
  change (world.answer { start, cursor } limit, world) = (Except.ok result, next) ↔ _
  rw [Prod.mk.injEq, answer]
  cases cursor with
  | null => simp [eq_comm, and_comm, PageParams.IsCursor.none]
  | text after => simp [eq_comm, and_comm, PageParams.IsCursor.after]
  | _ => exact ⟨fun ⟨given, _⟩ => (nomatch given), fun ⟨given, _⟩ => (nomatch given)⟩

theorem listsAnyIds (table : TableName) : ListsAnyIds table Inventory.ids (· < ·) where
  order := inferInstance
  emptyFirst id := by
    rw [String.lt_iff_toList_lt]
    exact List.not_lt_nil _
  listing {start cursor limit conditions world result next} spelled accepted := by
    obtain ⟨given, rfl, rfl⟩ := accepts_iff.mp accepted
    let params : PageParams := { start, cursor }
    have proper : params.resolved.IsProper :=
      PageParams.isProper_resolved (Nat.succ_pos _) given
    rw [params.clause_resolved table limit, proper.clause_listIndexes table limit] at spelled
    cases eq_of_idListing spelled
    refine ⟨rfl, next.select _, next.ordered.filter _, fun id => ?_, rfl, rfl⟩
    rw [select, List.mem_filter, decide_eq_true_iff]

theorem perform_load (registry : Registry) {params : PageParams}
    (cursor : PageParams.IsCursor params.cursor) (session : Session Inventory) :
    perform (Page.load registry.loadPage params) session =
      (.ok (ListsIds.pageOf params
          ((session.world.select params.resolved.conditions).take (params.size + 1))),
        session.executed
          (.listIndexes registry.table params.start params.cursor (params.size + 1))) :=
  ListsIds.perform_load (accepts_iff.mpr ⟨cursor, rfl, rfl⟩) rfl rfl

end Inventory

namespace Registry

variable {registry : Registry} {ids : σ → List String} {lt : String → String → Prop}
  {params : PageParams}

/-! ## The pages of a walk -/

/-- Whatever becomes of the indexes between the pages of a walk, a page is followed by no other one
exactly if nothing that was to be listed when it was loaded is sorted behind its last item, or if it
shows just the empty id and has no room for another one. -/
theorem Walk.isLast_iff (laws : ListsAnyIds registry.table ids lt) {value : Value}
    (read : PageParams.read value = .valid params) (size : 0 < params.size)
    {visits : List (σ × Page IndexSummary)} {page : Page IndexSummary}
    (walk : Walk registry value visits page) :
    ∀ visit ∈ visits,
      (visit.2.isLast = true ↔
        (∀ id, ¬ visit.2.IsFollowedBy lt (ids visit.1) params.start id) ∨
          (params.size = 1 ∧ visit.2.ids = [.text ""])) ∧
      ∀ session after : Session σ,
        perform (visit.2.next registry.loadPage) session = (.ok none, after) ↔
          visit.2.isLast = true ∧ after = session := by
  refine fun visit mem => ⟨?_, fun session after => perform_next_eq_none⟩
  -- The induction is on the pages: each has the start and the size of the listing, and a cursor
  -- that is a text.
  suffices all : (page.params.start = params.start ∧ page.params.size = params.size ∧
      (page.isLast = false → PageParams.IsCursor page.response.next)) ∧
      ∀ visit ∈ visits, visit.2.EndsOrHides lt (ids visit.1) params.start params.size from
    all.2 visit mem
  clear visit mem
  induction walk with
  | first ready listed =>
    rw [perform_list read ready] at listed
    obtain ⟨rfl, next, ends⟩ :=
      laws.endsOrHides_of_load size (PageParams.isCursor_of_read read) listed
    exact ⟨⟨rfl, rfl, next⟩, List.forall_mem_singleton.mpr ends⟩
  | @next visits page following session after walk loaded ih =>
    obtain ⟨⟨start, limit, next⟩, before⟩ := ih
    obtain ⟨goesOn, loaded⟩ := perform_next_eq_some.mp loaded
    have limit' : page.further.size = params.size := limit
    obtain ⟨given, next', ends⟩ :=
      laws.endsOrHides_of_load (limit' ▸ size) (next goesOn) loaded
    have start' : page.further.start = params.start := start
    rw [start', limit'] at ends
    refine ⟨⟨?_, ?_, next'⟩, fun visit mem => ?_⟩
    · rw [given, start']
    · rw [given, limit']
    · rcases List.mem_append.mp mem with mem | mem
      · exact before visit mem
      · cases List.mem_singleton.mp mem
        exact ends

/-- For example, a page with the empty id and another one knows whether it is the last one. -/
theorem Walk.isLast_iff_two_pages :
    let value := Value.map [("limit", .int 2)]
    let inventory : Inventory := ⟨["", "a", "b"], by decide +kernel⟩
    ∃ first second : Page IndexSummary,
      Walk {} value [(inventory, first), (inventory, second)] second ∧
        first.ids = [.text "", .text "a"] ∧ first.isLast = false ∧
        first.IsFollowedBy (· < ·) inventory.ids none "b" ∧
        second.ids = [.text "b"] ∧ second.isLast = true ∧
        ∀ id, ¬ second.IsFollowedBy (· < ·) inventory.ids none id := by
  intro value inventory
  let params : PageParams := { limit := some 2 }
  have read : PageParams.read value = .valid params := rfl
  let first := ListsIds.pageOf params ((inventory.select params.resolved.conditions).take 3)
  let second :=
    ListsIds.pageOf first.further ((inventory.select first.further.resolved.conditions).take 3)
  let session : Session Inventory := { world := inventory, ready := true }
  have opened : perform (ensureReady {}) session = (.ok (), session) := perform_ensureReady {} rfl
  have goesOn : first.isLast = false := by decide +kernel
  have ends : second.isLast = true := by decide +kernel
  have walk : Walk {} value [(inventory, first), (inventory, second)] second :=
    (Walk.first opened
      ((perform_list read opened).trans (Inventory.perform_load {} .none session))).next
      (perform_next_eq_some.mpr
        ⟨goesOn, Inventory.perform_load {} (.after "a") { world := inventory }⟩)
  have each := Walk.isLast_iff (Inventory.listsAnyIds (table {})) read (by decide) walk
  have onlyNone := (each (inventory, second) (by simp)).1.mp ends
  have follows : first.IsFollowedBy (· < ·) inventory.ids none "b" :=
    ⟨by simp [inventory], nofun, "a", rfl, by decide +kernel⟩
  refine ⟨first, second, walk, rfl, goesOn, follows, rfl, ends,
    onlyNone.resolve_right fun ⟨size, _⟩ => ?_⟩
  cases size

/-- A page with room for one id that shows the empty one is taken for the last one, although
another id follows. -/
theorem Walk.isLast_before_end :
    let inventory : Inventory := ⟨["", "a"], by decide +kernel⟩
    let session : Session Inventory := { world := inventory, ready := true }
    ∃ (page : Page IndexSummary) (after : Session Inventory),
      perform (list {} (.map [("limit", .int 1)])) session = (.ok page, after) ∧
        page.isLast = true ∧ perform (page.next (loadPage {})) after = (.ok none, after) ∧
        page.ids = [.text ""] ∧ page.IsFollowedBy (· < ·) inventory.ids none "a" := by
  intro inventory session
  let params : PageParams := { limit := some 1 }
  have read : PageParams.read (.map [("limit", .int 1)]) = .valid params := rfl
  have opened : perform (ensureReady {}) session = (.ok (), session) := perform_ensureReady {} rfl
  have listed := (perform_list read opened).trans (Inventory.perform_load {} .none session)
  have isLast : (ListsIds.pageOf params
      ((inventory.select params.resolved.conditions).take 2)).isLast = true := by decide +kernel
  exact ⟨_, _, listed, isLast, perform_next_eq_none.mpr ⟨isLast, rfl⟩, rfl,
    ⟨by simp [inventory], nofun, "", rfl, by decide +kernel⟩⟩

end Registry

end TableSearch
