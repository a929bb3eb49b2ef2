import Mathlib.Data.List.Sort
import Mathlib.Data.String.Basic
import Mathlib.Order.Defs.Unbundled
import TableSearch.Proofs.Index.Initialization

/-!
# Pages of a listing

A page shows the first ids that stand behind a cursor.  The statement that loads it asks for one id
more than fits on the page, from which the page knows whether it is the last one.
-/

namespace TableSearch

open Sql Operation

/-! ## The statement of a listing -/

namespace Sql

inductive IdCondition where
  | startsWith (start : String)
  | after (cursor : String)
deriving DecidableEq, Repr

namespace IdCondition

def fragment (place : Int) : IdCondition → Fragment
  | startsWith _ => [.fixed " AND starts_with(id, ", .slot place, .fixed ")"]
  | after _ => [.fixed " AND id > ", .slot place]

def operand : IdCondition → Value
  | startsWith start => .text start
  | after cursor => .text cursor

/-- Whether an id fulfils a condition, where `lt` is the order of ids. -/
def Holds (lt : String → String → Prop) (id : String) : IdCondition → Prop
  | startsWith start => start.toList <+: id.toList
  | after cursor => lt cursor id

def fragments (place : Int) : List IdCondition → Fragment
  | [] => []
  | condition :: rest => condition.fragment place ++ fragments (place + 1) rest

theorem eq_of_fragments {place : Int} {conditions others : List IdCondition}
    (sameOperands : conditions.map operand = others.map operand)
    (sameText : fragments place conditions = fragments place others) : conditions = others := by
  induction conditions generalizing others place with
  | nil => exact (List.map_eq_nil_iff.mp sameOperands.symm).symm
  | cons condition conditions ih =>
    cases others with
    | nil => cases sameOperands
    | cons other others =>
      rw [List.map_cons, List.map_cons, List.cons.injEq] at sameOperands
      obtain ⟨sameOperand, sameOperands⟩ := sameOperands
      -- Conditions of two kinds differ in the text before the operand.
      have both : condition = other ∧
          fragments (place + 1) conditions = fragments (place + 1) others := by
        cases condition <;> cases other <;>
          simp [fragments, fragment, operand] at sameText sameOperand ⊢ <;>
            exact ⟨sameOperand, sameText⟩
      rw [both.1, ih sameOperands both.2]

end IdCondition

/-- The clause that lists the first ids of this library that fulfil some conditions. -/
def idListing (table : TableName) (conditions : List IdCondition) (limit : Nat) : Clause where
  fragment := .fixed "SELECT id FROM " :: table.fragment ++
    [.fixed "\nWHERE backend = ", .slot 1] ++ IdCondition.fragments 2 conditions ++
      [.fixed "\nORDER BY id ASC LIMIT ", .slot (conditions.length + 2)]
  params := .text backendId :: conditions.map IdCondition.operand ++ [.int limit]

/-- A listing can be read off its clause. -/
theorem eq_of_idListing {table : TableName} {conditions others : List IdCondition} {limit : Nat}
    (same : idListing table conditions limit = idListing table others limit) :
    conditions = others := by
  rw [idListing, idListing, Clause.mk.injEq] at same
  obtain ⟨sameText, sameParams⟩ := same
  have sameOperands : conditions.map IdCondition.operand = others.map IdCondition.operand := by
    simpa using sameParams
  have length : conditions.length = others.length := by
    simpa using congrArg List.length sameOperands
  rw [length] at sameText
  exact IdCondition.eq_of_fragments sameOperands (by simpa using sameText)

end Sql

namespace PageParams

def size (params : PageParams) : Nat := params.limit.getD Registry.standardLimit

/-- Parameters with room for an item, and whose cursor is not empty if there is one. -/
structure IsProper (params : PageParams) : Prop where
  size : 0 < params.size
  cursor : params.cursor = .null ∨ ∃ after, after ≠ "" ∧ params.cursor = .text after

/-- Whether an id is one to be listed. -/
structure Selects (lt : String → String → Prop) (params : PageParams) (id : String) : Prop where
  start : ∀ start, params.start = some start → start.toList <+: id.toList
  cursor : ∀ after, params.cursor = .text after → lt after id

/-- The conditions of a listing.  An empty text would be none. -/
def conditions (params : PageParams) : List IdCondition :=
  (params.start.toList.filter (!·.isEmpty)).map .startsWith ++
    match params.cursor with
    | .text after => [.after after]
    | _ => []

variable {params : PageParams}

/-- The statement of a listing restricts it by these conditions and by no others. -/
theorem IsProper.clause_listIndexes (proper : params.IsProper) (table : TableName) (limit : Nat) :
    (Statement.listIndexes table params.start params.cursor limit).clause =
      idListing table params.conditions limit := by
  obtain ⟨start, cursor, size⟩ := params
  obtain ⟨-, rfl | ⟨after, nonempty, rfl⟩⟩ := proper
  · cases start with
    | none => rfl
    | some start =>
      cases empty : start.isEmpty <;>
        simp [Statement.clause, Statement.listing, Statement.restrict, idListing, conditions, empty,
          IdCondition.fragments, IdCondition.fragment, IdCondition.operand, Value.truthy]
  · have wanted : after.isEmpty = false := by simpa using nonempty
    cases start with
    | none =>
      simp [Statement.clause, Statement.listing, Statement.restrict, idListing, conditions, wanted,
        IdCondition.fragments, IdCondition.fragment, IdCondition.operand, Value.truthy]
    | some start =>
      cases empty : start.isEmpty <;>
        simp [Statement.clause, Statement.listing, Statement.restrict, idListing, conditions, empty,
          wanted, IdCondition.fragments, IdCondition.fragment, IdCondition.operand, Value.truthy]

theorem holds_iff {lt : String → String → Prop} {id : String} :
    (∀ condition ∈ params.conditions, condition.Holds lt id) ↔ params.Selects lt id := by
  obtain ⟨start, cursor, size⟩ := params
  constructor
  · intro holds
    refine ⟨fun wanted same => ?_, fun after same => ?_⟩
    · cases same
      cases empty : wanted.isEmpty with
      | true =>
        -- An empty start is no condition, and every id begins with it.
        rw [String.isEmpty_iff.mp empty]
        exact List.nil_prefix
      | false =>
        refine holds (.startsWith wanted) (List.mem_append_left _ ?_)
        simp [empty]
    · cases same
      exact holds (.after after) (List.mem_append_right _ (List.mem_singleton_self _))
  · rintro ⟨starts, follows⟩ condition mem
    rcases List.mem_append.mp mem with mem | mem
    · simp only [List.mem_map, List.mem_filter, Option.mem_toList] at mem
      obtain ⟨wanted, ⟨rfl, -⟩, rfl⟩ := mem
      exact starts wanted rfl
    · split at mem
      next after same =>
        cases List.mem_singleton.mp mem
        exact follows after same
      next => cases mem

end PageParams

/-! ## The database -/

variable {σ : Type} [World σ]

/-- What a database answers to the listings of a registry.  It compares and sorts ids by the same
order, and no id is empty. -/
structure ListsIds (table : TableName) (ids : σ → List String) (lt : String → String → Prop) :
    Prop where
  order : IsStrictTotalOrder String lt
  named : ∀ world, "" ∉ ids world
  /-- The conditions of a listing are those that its clause spells out. -/
  listing : ∀ {start cursor limit conditions world result next},
    (Statement.listIndexes table start cursor limit).clause = idListing table conditions limit →
    Accepts (.listIndexes table start cursor limit) world result next →
      ids next = ids world ∧ ∃ chosen : List String, chosen.Pairwise lt ∧
        (∀ id, id ∈ chosen ↔ id ∈ ids world ∧ ∀ condition ∈ conditions, condition.Holds lt id) ∧
        result.columns = some ["id"] ∧
        result.rows = (chosen.take limit).map fun id => [.text id]

/-! ## Pages -/

/-- A page with the first of the ids that it was to show, and the ids behind them. -/
structure Page.Shows (lt : String → String → Prop) (present : List String)
    (page : Page IndexSummary) (shown rest : List String) : Prop where
  ordered : (shown ++ rest).Pairwise lt
  selected : ∀ id, id ∈ shown ++ rest ↔ id ∈ present ∧ page.params.Selects lt id
  items : page.items = shown.map fun id => { id := .text id }
  length : shown.length ≤ page.params.size
  isLast : page.isLast = rest.isEmpty
  next : rest ≠ [] → ∃ front last, shown = front ++ [last] ∧ page.response.next = .text last

namespace ListsIds

variable {registry : Registry} {ids : σ → List String} {lt : String → String → Prop}

theorem ofResult_ids {result : ResultSet} {listed : List String}
    (columns : result.columns = some ["id"])
    (values : result.rows = listed.map fun id => [.text id]) :
    ∃ outcome, Outcome.ofResult result = .ok outcome ∧
      outcome.rows = listed.map fun id => [("id", .text id)] :=
  Outcome.exists_ofResult columns values fun _ => rfl

/-- The page that a loader makes of some ids, of which there may be one too many. -/
def pageOf (params : PageParams) (listed : List String) : Page IndexSummary where
  params := params
  response :=
    { items := ((listed.take params.size).map Value.text).map fun id => { id }
      next := if params.size < listed.length then
        ((listed.take params.size).map Value.text).getLastD .null else .null
      last := !decide (params.size < listed.length) }

theorem perform_load {params : PageParams} {session : Session σ} {result : ResultSet} {next : σ}
    {listed : List String}
    (accepted : Accepts (.listIndexes registry.table params.start params.cursor (params.size + 1))
      session.world result next)
    (columns : result.columns = some ["id"])
    (values : result.rows = listed.map fun id => [.text id]) :
    perform (Page.load registry.loadPage params) session =
      (.ok (pageOf params listed), session.executed
        (.listIndexes registry.table params.start params.cursor (params.size + 1))) := by
  obtain ⟨⟨rows, affected⟩, read, rfl⟩ := ofResult_ids columns values
  have ran := run_of_accepts accepted read
  have ids : (List.take params.size (listed.map fun id => [("id", Value.text id)])).mapM
      (Row.column · "id") = .ok ((listed.take params.size).map Value.text) := by
    rw [← List.map_take]
    exact mapM_map_eq_ok (fun _ => by rfl) _
  have size : params.limit.getD Registry.standardLimit = params.size := rfl
  simp only [Page.load, Registry.loadPage, perform_bind, size, ran, ofConversion, ids,
    Failure.ofConversion, Except.mapError, perform_ofExcept, perform_pure, List.length_map]
  rfl

theorem items_pageOf (params : PageParams) (chosen : List String) :
    (pageOf params (chosen.take (params.size + 1))).items =
      (chosen.take params.size).map fun id => { id := .text id } := by
  rw [Page.items, pageOf, List.take_take, Nat.min_eq_left (Nat.le_succ _), List.map_map]
  rfl

/-- A page with nothing behind it is the last one.  Any other page goes on from its last id, and is
taken for the last one only if this id is empty. -/
theorem ends_pageOf {params : PageParams} (size : 0 < params.size) (chosen : List String) :
    (chosen.drop params.size = [] →
      (pageOf params (chosen.take (params.size + 1))).isLast = true) ∧
    (chosen.drop params.size ≠ [] → ∃ front last, chosen.take params.size = front ++ [last] ∧
      (pageOf params (chosen.take (params.size + 1))).response.next = .text last ∧
      (pageOf params (chosen.take (params.size + 1))).isLast = last.isEmpty) := by
  have more_iff : params.size < (chosen.take (params.size + 1)).length ↔
      chosen.drop params.size ≠ [] := by
    rw [List.length_take, ne_eq, List.drop_eq_nil_iff]
    omega
  constructor
  · intro nothing
    have ends : (pageOf params (chosen.take (params.size + 1))).response.last = true := by
      rw [pageOf, decide_eq_false (more_iff.not.mpr (not_not_intro nothing))]
      rfl
    rw [Page.isLast, ends]
    rfl
  · intro behind
    -- The extra id is there, so the page is full and knows its last id.
    have extra := more_iff.mpr behind
    have filled : chosen.take params.size ≠ [] := by
      rw [← List.length_pos_iff, List.length_take]
      rw [List.length_take] at extra
      omega
    obtain ⟨front, last, split⟩ := (List.eq_nil_or_concat _).resolve_left filled
    rw [List.concat_eq_append] at split
    have next : (pageOf params (chosen.take (params.size + 1))).response.next = .text last := by
      rw [pageOf, if_pos extra, List.take_take, Nat.min_eq_left (Nat.le_succ _), split,
        List.map_append, List.map_singleton, List.getLastD_concat]
    have goesOn : (pageOf params (chosen.take (params.size + 1))).response.last = false := by
      rw [pageOf, decide_eq_true extra]
      rfl
    have someItem : ((chosen.take params.size).map fun id =>
        ({ id := .text id } : IndexSummary)).isEmpty = false := List.isEmpty_eq_false_iff.mpr (mt List.map_eq_nil_iff.mp filled)
    refine ⟨front, last, split, next, ?_⟩
    rw [Page.isLast, goesOn, next, items_pageOf, someItem]
    simp [Value.truthy]

theorem shows_pageOf {params : PageParams} (proper : params.IsProper) {present chosen : List String}
    (named : "" ∉ present) (ordered : chosen.Pairwise lt)
    (selected : ∀ id, id ∈ chosen ↔ id ∈ present ∧ params.Selects lt id) :
    (pageOf params (chosen.take (params.size + 1))).Shows lt present (chosen.take params.size)
      (chosen.drop params.size) := by
  have whole := List.take_append_drop params.size chosen
  obtain ⟨ends, goesOn⟩ := ends_pageOf proper.size chosen
  -- Apart from the end of the page nothing depends on whether there is more.
  suffices rest : (pageOf params (chosen.take (params.size + 1))).isLast =
        (chosen.drop params.size).isEmpty ∧
      (chosen.drop params.size ≠ [] → ∃ front last, chosen.take params.size = front ++ [last] ∧
        (pageOf params (chosen.take (params.size + 1))).response.next = .text last) from
    ⟨by rwa [whole], by rwa [whole], items_pageOf params chosen, List.length_take_le _ _, rest.1,
      rest.2⟩
  by_cases nothing : chosen.drop params.size = []
  · rw [ends nothing, nothing]
    exact ⟨rfl, fun behind => absurd rfl behind⟩
  · obtain ⟨front, last, split, next, isLast⟩ := goesOn nothing
    have mem : last ∈ chosen :=
      List.mem_of_mem_take (split ▸ List.mem_append_right front (List.mem_singleton_self last))
    have nonempty : last.isEmpty = false := by
      have nonempty : last ≠ "" := fun empty => named (empty ▸ ((selected last).mp mem).1)
      simpa using nonempty
    rw [isLast, nonempty, List.isEmpty_eq_false_iff.mpr nothing]
    exact ⟨rfl, fun _ => ⟨front, last, split, next⟩⟩

theorem exists_accepts_of_load {params : PageParams} {session after : Session σ}
    {page : Page IndexSummary}
    (loaded : perform (Page.load registry.loadPage params) session = (.ok page, after)) :
    ∃ result next,
      Accepts (.listIndexes registry.table params.start params.cursor (params.size + 1))
        session.world result next := by
  simp only [Page.load, Registry.loadPage, perform_bind_eq_ok] at loaded
  obtain ⟨_, _, ⟨outcome, _, ran, -⟩, -⟩ := loaded
  obtain ⟨-, result, accepted, -⟩ := accepts_of_run ran
  exact ⟨result, _, accepted⟩

theorem load (laws : ListsIds registry.table ids lt) {params : PageParams}
    (proper : params.IsProper) {session : Session σ} {result : ResultSet} {next : σ}
    (accepted : Accepts (.listIndexes registry.table params.start params.cursor (params.size + 1))
      session.world result next) :
    ∃ page shown rest after, perform (Page.load registry.loadPage params) session =
        (.ok page, after) ∧
      ids after.world = ids session.world ∧ page.params = params ∧
      page.Shows lt (ids session.world) shown rest := by
  obtain ⟨same, chosen, ordered, selected, columns, values⟩ :=
    laws.listing (proper.clause_listIndexes registry.table _) accepted
  simp only [PageParams.holds_iff] at selected
  refine ⟨_, _, _, _, perform_load accepted columns values, ?_, rfl,
    shows_pageOf proper (laws.named _) ordered selected⟩
  rw [← same]
  exact congrArg ids (congrArg Prod.snd accepted)

theorem shows_of_load (laws : ListsIds registry.table ids lt) {params : PageParams}
    (proper : params.IsProper) {session after : Session σ} {page : Page IndexSummary}
    (loaded : perform (Page.load registry.loadPage params) session = (.ok page, after)) :
    page.params = params ∧ ids after.world = ids session.world ∧
      ∃ shown rest, page.Shows lt (ids session.world) shown rest := by
  obtain ⟨result, next, accepted⟩ := exists_accepts_of_load loaded
  obtain ⟨other, shown, rest, last, again, same, given, shows⟩ := laws.load proper accepted
  cases loaded.symm.trans again
  exact ⟨given, same, shown, rest, shows⟩

end ListsIds

/-! ## A catalog -/

/-- A world that holds ids in order, and answers listings of them. -/
structure Catalog where
  ids : List String
  ordered : ids.Pairwise (· < ·)
  named : "" ∉ ids

namespace Catalog

instance (id : String) (condition : IdCondition) : Decidable (condition.Holds (· < ·) id) :=
  match condition with
  | .startsWith start => inferInstanceAs (Decidable (start.toList <+: id.toList))
  | .after cursor => inferInstanceAs (Decidable (cursor < id))

def select (catalog : Catalog) (conditions : List IdCondition) : List String :=
  catalog.ids.filter fun id => ∀ condition ∈ conditions, condition.Holds (· < ·) id

theorem mem_select {catalog : Catalog} {conditions : List IdCondition} {id : String} :
    id ∈ catalog.select conditions ↔
      id ∈ catalog.ids ∧ ∀ condition ∈ conditions, condition.Holds (· < ·) id := by
  rw [select, List.mem_filter, decide_eq_true_iff]

def list (catalog : Catalog) (conditions : List IdCondition) (limit : Nat) : ResultSet where
  columns := some ["id"]
  rows := ((catalog.select conditions).take limit).map fun id => [.text id]

def answer (catalog : Catalog) (start : Option String) (limit : Nat) :
    Value → Except String ResultSet
  | .null => .ok (catalog.list (PageParams.conditions { start }) limit)
  | .text after =>
    if after = "" then .error "empty cursor"
    else .ok (catalog.list (PageParams.conditions { start, cursor := .text after }) limit)
  | _ => .error "no cursor"

instance : World Catalog where
  execute statement catalog :=
    (match statement with
      | .listIndexes _ start cursor limit => catalog.answer start limit cursor
      | _ => .error "no listing", catalog)
  runHook catalog := (true, catalog)
  now _ := default

theorem accepts_iff {table : TableName} {start : Option String} {cursor : Value} {limit : Nat}
    {world next : Catalog} {result : ResultSet} :
    Accepts (.listIndexes table start cursor limit) world result next ↔
      PageParams.IsProper { start, cursor } ∧ next = world ∧
        result = world.list (PageParams.conditions { start, cursor }) limit := by
  change (world.answer start limit cursor, world) = (Except.ok result, next) ↔ _
  rw [Prod.mk.injEq]
  cases cursor with
  | null =>
    rw [answer, Except.ok.injEq]
    exact ⟨fun ⟨given, same⟩ => ⟨⟨Nat.succ_pos _, .inl rfl⟩, same.symm, given.symm⟩,
      fun ⟨_, same, given⟩ => ⟨given.symm, same.symm⟩⟩
  | text after =>
    rw [answer]
    split
    next empty =>
      refine ⟨fun ⟨given, _⟩ => (nomatch given), fun ⟨proper, _⟩ => ?_⟩
      obtain ⟨after', nonempty, same⟩ := proper.cursor.resolve_left nofun
      cases same
      exact absurd empty nonempty
    next nonempty =>
      rw [Except.ok.injEq]
      exact ⟨fun ⟨given, same⟩ =>
          ⟨⟨Nat.succ_pos _, .inr ⟨after, nonempty, rfl⟩⟩, same.symm, given.symm⟩,
        fun ⟨_, same, given⟩ => ⟨given.symm, same.symm⟩⟩
  | _ =>
    exact ⟨fun ⟨given, _⟩ => (nomatch given), fun ⟨proper, _⟩ => by
      rcases proper.cursor with same | ⟨_, _, same⟩ <;> cases same⟩

theorem listsIds (table : TableName) : ListsIds table Catalog.ids (· < ·) where
  order := inferInstance
  named := Catalog.named
  listing {start cursor limit conditions world result next} spelled accepted := by
    obtain ⟨proper, rfl, rfl⟩ := accepts_iff.mp accepted
    rw [proper.clause_listIndexes table limit] at spelled
    cases eq_of_idListing spelled
    exact ⟨rfl, next.select _, next.ordered.filter _, fun id => mem_select, rfl, rfl⟩

/-- The page of a listing is made of the ids that fulfil its conditions. -/
theorem perform_load (registry : Registry) {params : PageParams} (proper : params.IsProper)
    (session : Session Catalog) :
    perform (Page.load registry.loadPage params) session =
      (.ok (ListsIds.pageOf params
          ((session.world.select params.conditions).take (params.size + 1))),
        session.executed
          (.listIndexes registry.table params.start params.cursor (params.size + 1))) :=
  have proper' : PageParams.IsProper { start := params.start, cursor := params.cursor } :=
    ⟨Nat.succ_pos _, proper.cursor⟩
  ListsIds.perform_load (accepts_iff.mpr ⟨proper', rfl, rfl⟩) rfl rfl

end Catalog

end TableSearch
