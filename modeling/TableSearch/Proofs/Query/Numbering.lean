import TableSearch.Proofs.Filter.Numbering
import TableSearch.Proofs.Filter.Writing
import TableSearch.Proofs.Query.Reading

/-!
# The numbers in the statement of a search

The clauses of a search are written separately and share one numbering: the vector of
the selection has the first number, to which the order may refer, the predicate goes
on from there and the limit comes last.  `Search.placeholders_tokens` lists all the
placeholders of the statement, and `Search.Numbered` says what follows for the text
and the parameters that are sent.
-/

namespace TableSearch

open Sql

/-! ## Clauses -/

namespace Ranking

theorem body_distance (ranking : Ranking) : Body ranking.distanceTokens [(1, true)] :=
  ⟨rfl, by simp [distanceTokens, beginsClause, clauseWords]⟩

theorem body_score (ranking : Ranking) : Body ranking.scoreTokens [(1, true)] := by
  have inner := body_inParens ranking.body_distance
  unfold scoreTokens
  split
  next =>
    exact (inner.cons (by decide) (by decide)).cons (by decide) (by decide)
  next =>
    have sum : Body ([Token.word "1", .sign "+"] ++ inParens ranking.distanceTokens) [(1, true)] :=
      (inner.cons (by decide) (by decide)).cons (by decide) (by decide)
    exact ((body_inParens sum).cons (by decide) (by decide)).cons (by decide) (by decide)
  next => exact inner.cons (by decide) (by decide)

end Ranking

/-- The placeholders of a ranking: its vector is the first parameter. -/
def rankingSlots (ranking : Option Ranking) : List (Int × Bool) :=
  if ranking.isSome then [(1, true)] else []

def Output.slots : Output → List (Int × Bool)
  | score ranking => rankingSlots ranking
  | key _ => []
  | stored _ => []

theorem Output.body (output : Output) : Body output.tokens output.slots := by
  cases output with
  | key column => exact ⟨rfl, by simp [tokens, beginsClause, clauseWords]⟩
  | stored column => exact ⟨rfl, by simp [tokens, beginsClause]⟩
  | score ranking =>
    cases ranking with
    | none => exact ⟨rfl, by simp [tokens, beginsClause, clauseWords]⟩
    | some ranking =>
      have named : Body [Token.word "as", .word "score"] [] :=
        ⟨rfl, by simp [beginsClause, clauseWords]⟩
      exact ranking.body_score.append named (by decide)

namespace Search

theorem body_selection (search : Search) :
    Body search.selectionTokens (rankingSlots search.ranking) := by
  have inside : ∀ part ∈ (Selection.outputs search.keyColumn search.ranking search.binding
      search.included).map Output.tokens, ∀ token ∈ part, beginsClause token = false := by
    intro part member
    obtain ⟨output, -, rfl⟩ := List.mem_map.mp member
    exact output.body.inside
  have joined : Body search.selectionTokens _ := Body.intercalate (by decide) (by decide) inside
  have each : (fun output : Output => placeholders output.tokens) = Output.slots :=
    funext fun output => output.body.placeholders
  -- of the result columns, only the score refers to the vector
  have found (columns : List String) :
      (.key search.keyColumn :: .score search.ranking :: columns.map Output.stored).flatMap
        Output.slots = rankingSlots search.ranking := by
    simp [Output.slots]
  rw [List.flatMap_map, each] at joined
  exact (found _).symm ▸ joined

theorem body_table (table : TableName) : Body table.tokens [] :=
  ⟨rfl, by simp [TableName.tokens, beginsClause]⟩

theorem body_column (table : TableName) (column : String) : Body (table.columnTokens column) [] := by
  unfold TableName.columnTokens
  split
  next => exact ⟨rfl, by simp [beginsClause]⟩
  next => exact ⟨rfl, by simp [TableName.tokens, beginsClause]⟩

theorem body_predicate (search : Search) :
    Body search.predicateTokens
      (plainNumbers search.firstSlot search.predicateParams.length) := by
  unfold predicateTokens predicateParams
  cases search.filter with
  | none => exact .nil
  | some filter => exact Filter.numbers_tokens search.columnFor search.firstSlot filter

/-- The order refers to the vector unless an order was asked for. -/
theorem body_order (search : Search) :
    Body search.orderTokens (if search.order.isSome then [] else rankingSlots search.ranking) := by
  unfold orderTokens
  cases search.order with
  | some order =>
    have direction : Body [Token.word (if order.descending then "DESC" else "ASC")] [] := by
      cases order.descending <;> exact ⟨rfl, by simp [beginsClause, clauseWords]⟩
    have apart : isApart [Token.word (if order.descending then "DESC" else "ASC")] = true := by
      cases order.descending <;> decide
    exact (body_column search.table _).append direction apart
  | none =>
    cases search.ranking with
    | some ranking => exact ranking.body_distance
    | none => exact ⟨rfl, by simp [beginsClause, clauseWords]⟩

def limitBody (search : Search) (next : Int) : List Token :=
  .slot next :: if 0 < search.offset then [.word "OFFSET", .slot (next + 1)] else []

theorem body_limit (search : Search) (next : Int) :
    Body (search.limitBody next) (plainNumbers next search.limitParams.length) := by
  have two : plainNumbers next 2 = [(next, false), (next + 1, false)] := by
    rw [plainNumbers_add next 1 1]
    simp
  unfold limitBody limitParams
  split
  next => exact ⟨two.symm, by simp [beginsClause, clauseWords]⟩
  next => exact ⟨(plainNumbers_one next).symm, by simp [beginsClause]⟩

/-! ## The statement -/

def parts (search : Search) : List (String × List Token) :=
  [("SELECT", search.selectionTokens), ("FROM", search.table.tokens)] ++
    (if search.predicateTokens.isEmpty then [] else [("WHERE", search.predicateTokens)]) ++
    [("ORDER", .word "BY" :: search.orderTokens),
     ("LIMIT", search.limitBody (search.firstSlot + search.predicateParams.length))]

theorem tokens_eq_ofClauses (search : Search) : search.tokens = ofClauses search.parts := by
  unfold tokens parts conditionTokens
  split <;> simp [ofClauses, limitTokens, limitBody]

theorem parts_body (search : Search) :
    ∀ clause ∈ search.parts, clause.1 ∈ clauseWords ∧
      ∀ token ∈ clause.2, beginsClause token = false := by
  intro clause member
  have order : Body (.word "BY" :: search.orderTokens) _ :=
    search.body_order.cons (by decide) (by decide)
  unfold parts at member
  simp only [List.mem_append, List.mem_cons, List.not_mem_nil, or_false, List.mem_ite_nil_left]
    at member
  rcases member with ((rfl | rfl) | ⟨-, rfl⟩) | rfl | rfl
  · exact ⟨by simp [clauseWords], search.body_selection.inside⟩
  · exact ⟨by simp [clauseWords], (body_table search.table).inside⟩
  · exact ⟨by simp [clauseWords], search.body_predicate.inside⟩
  · exact ⟨by simp [clauseWords], order.inside⟩
  · exact ⟨by simp [clauseWords], (search.body_limit _).inside⟩

def orderSlots (search : Search) : List (Int × Bool) :=
  if search.order.isSome then [] else rankingSlots search.ranking

/-- All the placeholders of the statement of a search, from left to right. -/
theorem placeholders_tokens (search : Search) :
    placeholders search.tokens =
      rankingSlots search.ranking ++
        plainNumbers search.firstSlot search.predicateParams.length ++ search.orderSlots ++
        plainNumbers (search.firstSlot + search.predicateParams.length)
          search.limitParams.length := by
  rw [tokens_eq_ofClauses,
    placeholders_ofClauses fun clause member => (search.parts_body clause member).1]
  -- A search without a predicate has no condition, and its empty tokens have no placeholder.
  have condition :
      (if search.predicateTokens.isEmpty then [] else [("WHERE", search.predicateTokens)]).flatMap
        (fun clause => placeholders clause.2) = placeholders search.predicateTokens := by
    cases search.predicateTokens <;> simp [placeholders]
  have order : placeholders (.word "BY" :: search.orderTokens) = search.orderSlots :=
    search.body_order.placeholders
  unfold parts
  rw [List.flatMap_append, List.flatMap_append, condition]
  simp [order, search.body_selection.placeholders, (body_table search.table).placeholders,
    search.body_predicate.placeholders, (search.body_limit _).placeholders]

theorem clauseAt_tokens (search : Search) {word : String} (wanted : word ∈ clauseWords) :
    clauseAt word search.tokens = (search.parts.lookup word).getD [] := by
  rw [tokens_eq_ofClauses]
  exact clauseAt_ofClauses wanted (fun clause member => (search.parts_body clause member).1)
    fun clause member => (search.parts_body clause member).2

theorem clauseAt_selection (search : Search) :
    clauseAt "SELECT" search.tokens = search.selectionTokens :=
  search.clauseAt_tokens (by decide)

theorem clauseAt_order (search : Search) :
    clauseAt "ORDER" search.tokens = .word "BY" :: search.orderTokens := by
  rw [search.clauseAt_tokens (by decide)]
  unfold parts
  split <;> rfl

/-! ## The text and its parameters -/

end Search

def SearchQuery.vector? (q : SearchQuery) : Option Value :=
  (Signal.findVector? q.signals).map Prod.snd

/-- The placeholders of a written search fit its parameters.  `q` is the query it was made
from. -/
structure Search.Numbered (q : SearchQuery) (clause : Clause) : Prop where
  /-- There is a placeholder for each parameter and for nothing else. -/
  covered : ∀ number, number ∈ slots (Sql.tokens clause.text) ↔
    1 ≤ number ∧ number ≤ clause.params.length
  /-- Those of the predicate, the limit and the offset come one after the other. -/
  consecutive :
    slots (clauseAt "WHERE" (Sql.tokens clause.text)) ++
        slots (clauseAt "LIMIT" (Sql.tokens clause.text)) =
      Sql.consecutive (1 + q.vector?.toList.length)
        (clause.params.length - q.vector?.toList.length)
  /-- None of them stands a second time anywhere in the text. -/
  once : ∀ number ∈ slots (clauseAt "WHERE" (Sql.tokens clause.text)) ++
      slots (clauseAt "LIMIT" (Sql.tokens clause.text)),
    (slots (Sql.tokens clause.text)).count number = 1
  /-- Only the first one is repeated, and only for a vector. -/
  repeated : ∀ number, 1 < (slots (Sql.tokens clause.text)).count number →
    number = 1 ∧ q.vector?.isSome = true
  /-- The vector is the first parameter. -/
  vector : ∀ vector ∈ q.vector?, ∃ text, Vector.encode vector = .ok text ∧
    clause.params.head? = some (.text text)
  /-- The placeholders that are cast to vectors are those of the vector. -/
  cast : ∀ entry ∈ placeholders (Sql.tokens clause.text),
    entry.2 = true ↔ entry.1 = 1 ∧ q.vector?.isSome = true
  /-- One of them is in the score, and without an explicit order one is in the order. -/
  selection : slots (clauseAt "SELECT" (Sql.tokens clause.text)) =
    if q.vector?.isSome then [1] else []
  order : slots (clauseAt "ORDER" (Sql.tokens clause.text)) =
    if q.vector?.isSome && q.orderBy.isNone then [1] else []

namespace Search

/-- An accepted query is searched with its own parts, and with the filter that is read from its
entries. -/
theorem exists_of_ofQuery {q : SearchQuery} {table : TableName} {keyColumn : String}
    {binding : Option Binding} {search : Search}
    (accepted : ofQuery q table keyColumn binding = .ok search) :
    ∃ filter : Option Filter,
      (∀ part ∈ filter, ∃ entries, Filter.read (.map entries) = .ok part) ∧
      search =
        { table, keyColumn, binding, signals := q.signals, filter
          order := q.orderBy, topK := q.topK.getD standardCount, offset := q.offset.getD 0
          included := q.included } := by
  unfold ofQuery at accepted
  cases listed : q.filter with
  | none =>
    simp only [listed, bind_eq_ok, pure_eq_ok] at accepted
    obtain ⟨-, -, _, rfl, rfl⟩ := accepted
    exact ⟨none, by simp, rfl⟩
  | some entries =>
    simp only [listed, bind_eq_ok, map_eq_ok, pure_eq_ok, Failure.ofFilter, mapError_eq_ok]
      at accepted
    obtain ⟨-, -, _, ⟨filter, read, rfl⟩, rfl⟩ := accepted
    exact ⟨some filter, fun _ same => ⟨entries, Option.some.inj same ▸ read⟩, rfl⟩

theorem ofQuery_eq_ok {q : SearchQuery} {table : TableName} {keyColumn : String}
    {binding : Option Binding} {search : Search}
    (accepted : ofQuery q table keyColumn binding = .ok search) :
    search.signals = q.signals ∧ search.order = q.orderBy ∧
      ∀ filter ∈ search.filter, ∃ entries, Filter.read (.map entries) = .ok filter := by
  obtain ⟨filter, read, rfl⟩ := exists_of_ofQuery accepted
  exact ⟨rfl, rfl, read⟩

theorem eq_of_ofQuery {q : SearchQuery} {table : TableName} {keyColumn : String}
    {binding : Option Binding} {search : Search}
    (accepted : ofQuery q table keyColumn binding = .ok search) :
    search =
      { table, keyColumn, binding, signals := q.signals, filter := search.filter
        order := q.orderBy, topK := q.topK.getD standardCount, offset := q.offset.getD 0
        included := q.included } := by
  obtain ⟨filter, -, rfl⟩ := exists_of_ofQuery accepted
  rfl

theorem ranking_vector (search : Search) :
    search.ranking.map Ranking.vector = (Signal.findVector? search.signals).map Prod.snd := by
  unfold ranking Ranking.ofSignals? Ranking.ofField
  cases Signal.findVector? search.signals with
  | none => rfl
  | some found =>
    simp only [Option.map_some, Option.some.injEq]
    split <;> rfl

/-- The statement is written unless the vector has a component out of range. -/
theorem clause_succeeds {q : SearchQuery} {table : TableName} {keyColumn : String}
    {binding : Option Binding} {search : Search}
    (accepted : ofQuery q table keyColumn binding = .ok search) :
    (∃ clause, search.clause = .ok clause) ↔
      ∀ vector ∈ q.vector?, ∃ text, Vector.encode vector = .ok text := by
  obtain ⟨signals, -, wellFormed⟩ := ofQuery_eq_ok accepted
  have vector : q.vector? = search.ranking.map Ranking.vector := by
    rw [ranking_vector, signals, SearchQuery.vector?]
  have filterWritten (next : Int) : ∃ clause, search.predicate next = .ok clause := by
    unfold predicate
    cases read : search.filter with
    | none => exact ⟨.empty, rfl⟩
    | some filter =>
      obtain ⟨entries, wellFormed⟩ := wellFormed filter (by simp [read])
      exact (Filter.predicate_succeeds _ next filter).mpr (Filter.isListed_of_read _ wellFormed)
  have encodes : (∃ params, Selection.params search.ranking = .ok params) ↔
      ∀ vector ∈ q.vector?, ∃ text, Vector.encode vector = .ok text := by
    rw [vector]
    cases search.ranking with
    | none => simp [Selection.params]
    | some ranking =>
      simp only [Selection.params, bind_eq_ok, pure_eq_ok, Option.map_some, Option.mem_def,
        Option.some.injEq, forall_eq']
      constructor
      · rintro ⟨_, text, encoded, -⟩
        exact ⟨text, encoded⟩
      · rintro ⟨text, encoded⟩
        exact ⟨_, text, encoded, rfl⟩
  -- The filter was read, so it can be written; nothing but the vector is left that may fail.
  rw [← encodes]
  simp only [Search.clause, map_eq_ok, clauses, selection, Selection.clause, bind_eq_ok, pure_eq_ok]
  constructor
  · rintro ⟨_, _, ⟨_, ⟨params, encoded, -⟩, -⟩, -⟩
    exact ⟨params, encoded⟩
  · rintro ⟨params, encoded⟩
    obtain ⟨predicate, written⟩ := filterWritten (1 + params.length)
    exact ⟨_, _, ⟨_, ⟨params, encoded, rfl⟩, predicate, written, rfl⟩, rfl⟩

/-! ## The main fact -/

theorem slots_rankingSlots (ranking : Option Ranking) :
    (rankingSlots ranking).map Prod.fst = Sql.consecutive 1 ranking.toList.length := by
  cases ranking with
  | none => rfl
  | some ranking => simp [rankingSlots, Sql.consecutive]

theorem slots_plainNumbers (start : Int) (count : Nat) :
    (plainNumbers start count).map Prod.fst = Sql.consecutive start count := by
  simp [plainNumbers, Function.comp_def]

theorem firstSlot_eq (search : Search) :
    search.firstSlot = 1 + search.ranking.toList.length := by
  unfold firstSlot
  cases search.ranking <;> rfl

def paramCount (search : Search) : Nat :=
  search.ranking.toList.length + search.predicateParams.length + search.limitParams.length

/-- Apart from those of the order, the placeholders are numbered from one on. -/
theorem slots_perm (search : Search) :
    (slots search.tokens).Perm
      (search.orderSlots.map Prod.fst ++ Sql.consecutive 1 search.paramCount) := by
  unfold slots paramCount
  rw [placeholders_tokens, consecutive_add, consecutive_add]
  simp only [List.map_append, slots_rankingSlots, slots_plainNumbers, firstSlot_eq,
    Int.natCast_add, ← Int.add_assoc]
  rw [List.append_assoc]
  exact List.perm_append_comm_assoc _ _ _

/-- Each number is used once; the first one is used again when the order is by distance. -/
theorem count_slots (search : Search) (number : Int) :
    (slots search.tokens).count number =
      (if search.ranking.isSome && search.order.isNone && number == 1 then 1 else 0) +
        if 1 ≤ number ∧ number ≤ search.paramCount then 1 else 0 := by
  have again : (search.orderSlots.map Prod.fst).count number =
      if search.ranking.isSome && search.order.isNone && number == 1 then 1 else 0 := by
    unfold orderSlots rankingSlots
    cases search.order with
    | some order => simp
    | none =>
      cases search.ranking with
      | none => simp
      | some ranking =>
        by_cases first : number = 1
        · simp [first]
        · simp [first, Ne.symm first]
  have bound : (1 ≤ number ∧ number < 1 + (search.paramCount : Int)) ↔
      1 ≤ number ∧ number ≤ search.paramCount := by omega
  rw [search.slots_perm.count_eq, List.count_append, again, count_consecutive]
  simp only [bound]

theorem mem_slots_iff (search : Search) {number : Int} :
    number ∈ slots search.tokens ↔ 1 ≤ number ∧ number ≤ search.paramCount := by
  have limited : 0 < search.limitParams.length := by simp [limitParams]
  -- The number that is used again is one of them, since a search has a limit at least.
  have first : (search.ranking.isSome && search.order.isNone && number == 1) = true →
      1 ≤ number ∧ number ≤ search.paramCount := by
    intro again
    obtain rfl : number = 1 := by simp_all
    unfold paramCount
    omega
  rw [← List.count_pos_iff, count_slots]
  split
  next again => simp [first again]
  next => split <;> simp_all

theorem slots_selection (search : Search) :
    slots (clauseAt "SELECT" search.tokens) = if search.ranking.isSome then [1] else [] := by
  rw [clauseAt_selection, slots, search.body_selection.placeholders]
  unfold rankingSlots
  split <;> rfl

theorem slots_order (search : Search) :
    slots (clauseAt "ORDER" search.tokens) =
      if search.ranking.isSome && search.order.isNone then [1] else [] := by
  have placed : placeholders (.word "BY" :: search.orderTokens) = search.orderSlots :=
    search.body_order.placeholders
  rw [clauseAt_order, slots, placed]
  unfold orderSlots rankingSlots
  cases search.order <;> cases search.ranking <;> rfl

theorem slots_condition_limit (search : Search) :
    slots (clauseAt "WHERE" search.tokens) ++ slots (clauseAt "LIMIT" search.tokens) =
      Sql.consecutive search.firstSlot
        (search.predicateParams.length + search.limitParams.length) := by
  have condition : clauseAt "WHERE" search.tokens = search.predicateTokens := by
    rw [search.clauseAt_tokens (by decide)]
    unfold parts
    cases search.predicateTokens <;> rfl
  have limit : clauseAt "LIMIT" search.tokens =
      search.limitBody (search.firstSlot + search.predicateParams.length) := by
    rw [search.clauseAt_tokens (by decide)]
    unfold parts
    split <;> rfl
  rw [condition, limit, slots, slots, search.body_predicate.placeholders,
    (search.body_limit _).placeholders, slots_plainNumbers, slots_plainNumbers, consecutive_add]

/-- The placeholders of the predicate, the limit and the offset stand nowhere else. -/
theorem count_slots_of_condition_limit (search : Search) :
    ∀ number ∈ slots (clauseAt "WHERE" search.tokens) ++ slots (clauseAt "LIMIT" search.tokens),
      (slots search.tokens).count number = 1 := by
  rw [slots_condition_limit, firstSlot_eq]
  intro number member
  obtain ⟨above, below⟩ := mem_consecutive.mp member
  have inside : 1 ≤ number ∧ number ≤ search.paramCount := by
    unfold paramCount
    omega
  -- With a vector the first number is the vector's, so that theirs begin behind it.
  have notFirst : (search.ranking.isSome && search.order.isNone && number == 1) = false := by
    cases ranked : search.ranking with
    | none => rfl
    | some ranking =>
      have notOne : number ≠ 1 := by
        simp only [ranked, Option.toList_some, List.length_singleton] at above
        omega
      simp [notOne]
  rw [count_slots, notFirst, if_pos inside]
  rfl

/-- The placeholders that are cast are those of the vector. -/
theorem cast_placeholders (search : Search) :
    ∀ entry ∈ placeholders search.tokens,
      entry.2 = true ↔ entry.1 = 1 ∧ search.ranking.isSome = true := by
  have plain {start : Int} {count : Nat} (above : search.firstSlot ≤ start) :
      ∀ entry ∈ plainNumbers start count,
        entry.2 = true ↔ entry.1 = 1 ∧ search.ranking.isSome = true := by
    intro entry member
    obtain ⟨number, among, rfl⟩ := List.mem_map.mp member
    have number_ge := (mem_consecutive.mp among).1
    cases ranked : search.ranking with
    | none => simp
    | some ranking =>
      -- With a vector the plain placeholders begin behind the first one.
      have second : search.firstSlot = 2 := by simp [firstSlot, ranked]
      simp
      omega
  have cast : ∀ entry ∈ rankingSlots search.ranking,
      entry.2 = true ↔ entry.1 = 1 ∧ search.ranking.isSome = true := by
    cases search.ranking <;> simp [rankingSlots]
  intro entry member
  rw [placeholders_tokens] at member
  simp only [List.mem_append] at member
  rcases member with ((member | member) | member) | member
  · exact cast entry member
  · exact plain (by omega) entry member
  · unfold orderSlots at member
    split at member
    next => simp at member
    next => exact cast entry member
  · exact plain (by omega) entry member

/-- However an accepted query was given, and whatever its fields, columns and tables are called,
the placeholders of its statement fit its parameters.  The statement is written unless the
vector cannot be. -/
theorem numbered_of_ofQuery {q : SearchQuery} {table : TableName} {keyColumn : String}
    {binding : Option Binding} {search : Search}
    (accepted : ofQuery q table keyColumn binding = .ok search) :
    ((∃ clause, search.clause = .ok clause) ↔
        ∀ vector ∈ q.vector?, ∃ text, Vector.encode vector = .ok text) ∧
      ∀ clause, search.clause = .ok clause → Numbered q clause := by
  refine ⟨clause_succeeds accepted, fun clause written => ?_⟩
  obtain ⟨signals, order, -⟩ := ofQuery_eq_ok accepted
  obtain ⟨spells, vectorParams, encoded, params⟩ := clause_reads written
  have read : Sql.tokens clause.text = search.tokens := spells.read
  have vector : q.vector? = search.ranking.map Ranking.vector := by
    rw [ranking_vector, signals, SearchQuery.vector?]
  have isSome : q.vector?.isSome = search.ranking.isSome := by rw [vector, Option.isSome_map]
  have length : q.vector?.toList.length = search.ranking.toList.length := by
    rw [vector]
    cases search.ranking <;> rfl
  have vectorCount : vectorParams.length = search.ranking.toList.length := by
    rw [params_length encoded]
    cases search.ranking <;> rfl
  have count : clause.params.length = search.paramCount := by
    simp [params, paramCount, vectorCount, Nat.add_assoc]
  constructor
  case covered =>
    intro number
    rw [read, count]
    exact search.mem_slots_iff
  case consecutive =>
    rw [read, slots_condition_limit, firstSlot_eq, length, count]
    congr 1
    simp [paramCount]
    omega
  case once =>
    rw [read]
    exact search.count_slots_of_condition_limit
  case repeated =>
    intro number
    rw [read, count_slots, isSome]
    split <;> split <;> simp_all
  case vector =>
    rw [vector]
    intro value ranked
    obtain ⟨ranking, isRanking, rfl⟩ := Option.map_eq_some_iff.mp ranked
    simp only [isRanking, Selection.params, bind_eq_ok, pure_eq_ok] at encoded
    obtain ⟨text, encodes, rfl⟩ := encoded
    exact ⟨text, encodes, by simp [params]⟩
  case cast =>
    rw [read, isSome]
    exact search.cast_placeholders
  case selection => rw [read, slots_selection, isSome]
  case order => rw [read, slots_order, isSome, order]

/-- So it is for columns whose names look like placeholders. -/
theorem numbered_of_slot_names :
    let q : SearchQuery :=
      { query := some [[("a\"$3", .list [.int 1, .int 2])]]
        filter := some [("b $2", .int 5), ("$or", .list [.map [], .map [("c", .null)]])]
        offset := some 20 }
    ∃ search clause, ofQuery q ⟨"s", "t"⟩ "id" none = .ok search ∧
      search.clause = .ok clause ∧ Numbered q clause := by
  intro q
  have accepted : ∃ search, ofQuery q ⟨"s", "t"⟩ "id" none = .ok search := ⟨_, rfl⟩
  obtain ⟨search, accepted⟩ := accepted
  obtain ⟨succeeds, numbered⟩ := numbered_of_ofQuery accepted
  have encodes : ∀ vector ∈ q.vector?, ∃ text, Vector.encode vector = .ok text := by
    intro vector member
    obtain rfl : Value.list [.int 1, .int 2] = vector := Option.some.inj member
    exact ⟨_, rfl⟩
  obtain ⟨clause, written⟩ := succeeds.mpr encodes
  exact ⟨search, clause, accepted, written, numbered clause written⟩

end Search

end TableSearch
