import TableSearch.Proofs.Index.OwnColumns
import TableSearch.Proofs.Json.Documents

/-!
# Rows without a binding

Without a binding the columns of a row are shown as they are, but a text in brackets is taken for
a vector.  Not every text in brackets is one: if its items cannot be converted to doubles, then
the row has no hit at all.  `Hit.ofRow_without_binding` says which rows have a hit, what it shows,
and for which rows these are the vectors among the texts and nothing else.
-/

namespace TableSearch

/-! ## Texts that begin with a bracket -/

namespace Json

/-- The outermost container is a list: it is under way, or it is complete. -/
inductive State.InList : State → Prop where
  | inside {stack : List Frame} {items : List Value} {awaiting : Awaiting}
      (outermost : stack.getLast? = some (.list items)) : InList ⟨stack, awaiting⟩
  | first : InList ⟨[], .firstItem⟩
  | next (items : List Value) : InList ⟨[], .nextItem items⟩
  | done (items : List Value) : InList ⟨[], .done (.list items)⟩

section Steps

variable {stack : List Frame} {items : List Value} {token : Token} {state next : State}

theorem State.InList.fill (outermost : stack.getLast? = some (.list items)) (value : Value) :
    (State.fill stack value).InList := by
  cases stack with
  | nil => cases outermost
  | cons frame outer =>
    cases outer with
    | nil =>
      cases outermost
      exact .next _
    | cons next outer =>
      rw [List.getLast?_cons_cons] at outermost
      cases frame <;> exact .inside outermost

theorem State.InList.begin (outermost : stack.getLast? = some (.list items))
    (begun : State.begin stack token = .ok next) : next.InList := by
  cases token with
  | text | atom =>
    cases begun
    exact .fill outermost _
  | openList | openMap =>
    cases begun
    exact .inside outermost
  | closeList | closeMap | comma | colon | oversized | malformed => cases begun

theorem State.InList.firstItem (outermost : (Frame.list [] :: stack).getLast? = some (.list items))
    (other : token ≠ .closeList) (stepped : State.step ⟨stack, .firstItem⟩ token = .ok next) :
    next.InList := by
  rw [step_firstItem stack other] at stepped
  exact .begin outermost stepped

/-- A list is left only when it is complete. -/
theorem State.InList.step (before : state.InList) (stepped : state.step token = .ok next) :
    next.InList := by
  cases before with
  | first =>
    by_cases closes : token = .closeList
    · subst closes
      cases stepped
      exact .done []
    · exact .firstItem rfl closes stepped
  | next items =>
    cases token with
    | comma =>
      cases stepped
      exact .inside rfl
    | closeList =>
      cases stepped
      exact .done _
    | _ => cases stepped
  | done => cases stepped
  | @inside stack items awaiting outermost =>
    -- A value that is filled in may complete the list; any other step leaves the outermost frame.
    have within (frame : Frame) : (frame :: stack).getLast? = some (.list items) := by
      rw [List.getLast?_cons, outermost]
      rfl
    cases awaiting with
    | value => exact .begin outermost stepped
    | firstItem =>
      by_cases closes : token = .closeList
      · subst closes
        cases stepped
        exact .fill outermost _
      · exact .firstItem (within _) closes stepped
    | nextItem =>
      cases token with
      | comma => cases stepped; exact .inside (within _)
      | closeList => cases stepped; exact .fill outermost _
      | _ => cases stepped
    | firstKey =>
      cases token with
      | text => cases stepped; exact .inside outermost
      | closeMap => cases stepped; exact .fill outermost _
      | _ => cases stepped
    | key =>
      cases token with
      | text => cases stepped; exact .inside outermost
      | _ => cases stepped
    | colon =>
      cases token with
      | colon => cases stepped; exact .inside (within _)
      | _ => cases stepped
    | nextEntry =>
      cases token with
      | comma => cases stepped; exact .inside outermost
      | closeMap => cases stepped; exact .fill outermost _
      | _ => cases stepped
    | done => cases stepped

end Steps

/-- So it is through a whole run. -/
theorem State.InList.run {state final : State} (before : state.InList) {tokens : List Token}
    (ran : state.run tokens = .ok final) : final.InList := by
  induction tokens generalizing state with
  | nil =>
    cases ran
    exact before
  | cons token tokens ih =>
    rw [State.run, List.foldlM_cons] at ran
    obtain ⟨next, stepped, rest⟩ := bind_eq_ok.mp ran
    exact ih (before.step stepped) rest

/-- A JSON text that begins with a bracket denotes a list. -/
theorem exists_list_of_read {cs : List Char} {value : Value} (opens : cs.head? = some '[')
    (found : read cs = .ok value) : ∃ items, value = .list items := by
  obtain ⟨rest, rfl⟩ := List.head?_eq_some_iff.mp opens
  have cut : tokens ('[' :: rest) = .openList :: tokens rest := rfl
  have opened : State.step ⟨[], .value⟩ .openList = .ok ⟨[], .firstItem⟩ := rfl
  rw [read, cut, run_cons _ opened] at found
  split at found
  next last ran =>
    cases found
    cases State.InList.first.run ran with
    | inside outermost => cases outermost
    | done items => exact ⟨items, rfl⟩
  next => cases found
  next => cases found

end Json

namespace Hit

/-! ## Texts and vectors -/

/-- A text that is a JSON array, from the opening to the closing bracket. -/
def IsArray (s : String) (items : List Value) : Prop :=
  isBracketed s = true ∧ Json.read s.toList = .ok (.list items)

def Denotes (s : String) (doubles : List Binary64) : Prop :=
  ∃ items, IsArray s items ∧ (∀ item ∈ items, item.isPlainNumber = true) ∧
    List.Forall₂ (fun item x => item.toReal = .ok x) items doubles

/-- A text that is a JSON array of things that are converted to these doubles.  Numbers are not the
only ones. -/
def ConvertsTo (s : String) (doubles : List Binary64) : Prop :=
  ∃ items, IsArray s items ∧ List.Forall₂ (fun item x => item.toReal = .ok x) items doubles

variable {s : String} {doubles : List Binary64}

theorem Denotes.convertsTo (denotes : Denotes s doubles) : ConvertsTo s doubles := by
  obtain ⟨items, array, -, each⟩ := denotes
  exact ⟨items, array, each⟩

theorem ConvertsTo.isBracketed (converts : ConvertsTo s doubles) : isBracketed s = true := by
  obtain ⟨items, ⟨bracketed, -⟩, -⟩ := converts
  exact bracketed

theorem ConvertsTo.unique {others : List Binary64} (left : ConvertsTo s doubles)
    (right : ConvertsTo s others) : doubles = others := by
  obtain ⟨items, ⟨-, found⟩, each⟩ := left
  obtain ⟨items', ⟨-, found'⟩, each'⟩ := right
  cases found.symm.trans found'
  have same := (Vector.components_eq_ok_iff.mpr each).symm.trans
    (Vector.components_eq_ok_iff.mpr each')
  exact List.map_injective_iff.mpr (fun _ _ => Value.real.inj) (Except.ok.inj same)

/-- A text in brackets is decoded just if it is an array of things that are converted to doubles. -/
theorem decode_eq_ok_iff (bracketed : isBracketed s = true) {shown : Value} :
    Vector.decode (.text s) = .ok shown ↔
      ∃ doubles, ConvertsTo s doubles ∧ shown = .list (doubles.map .real) := by
  have opens : s.toList.head? = some '[' := beq_iff_eq.mp (Bool.and_eq_true_iff.mp bracketed).1
  constructor
  · intro decoded
    simp only [Vector.decode, if_pos opens, bind_eq_ok, pure_eq_ok] at decoded
    obtain ⟨value, found, members, listed, reals, converted, rfl⟩ := decoded
    obtain ⟨items, rfl⟩ := Json.exists_list_of_read opens found
    cases listed
    obtain ⟨doubles, rfl⟩ := Vector.exists_reals converted
    exact ⟨doubles, ⟨members, ⟨bracketed, found⟩, Vector.components_eq_ok_iff.mp converted⟩, rfl⟩
  · rintro ⟨doubles, ⟨items, ⟨-, found⟩, each⟩, rfl⟩
    exact Vector.decode_of_read opens found (Vector.components_eq_ok_iff.mpr each)

/-! ## Columns -/

/-- How a column is shown if some texts are taken for vectors: such a text as the list of its
doubles, any other value as it is. -/
inductive Shown (IsVector : String → List Binary64 → Prop) : Value → Value → Prop where
  | vector {s : String} {doubles : List Binary64} (taken : IsVector s doubles) :
      Shown IsVector (.text s) (.list (doubles.map .real))
  | same {value : Value} (other : ∀ s doubles, value = .text s → ¬IsVector s doubles) :
      Shown IsVector value value

theorem Shown.exists_isVector {IsVector : String → List Binary64 → Prop} {items : List Value}
    (shown : Shown IsVector (.text s) (.list items)) : ∃ doubles, IsVector s doubles := by
  cases shown with
  | vector taken => exact ⟨_, taken⟩

theorem exists_shown (IsVector : String → List Binary64 → Prop) (value : Value) :
    ∃ shown, Shown IsVector value shown := by
  by_cases vector : ∃ s doubles, value = .text s ∧ IsVector s doubles
  · obtain ⟨s, doubles, rfl, taken⟩ := vector
    exact ⟨_, .vector taken⟩
  · exact ⟨value, .same fun s doubles same taken => vector ⟨s, doubles, same, taken⟩⟩

/-- A column that can be shown: if it is a text in brackets, then one that can be converted. -/
def Convertible (column : String × Value) : Prop :=
  ∀ s, column.2 = .text s → isBracketed s = true → ∃ doubles, ConvertsTo s doubles

def ShowsAll (IsVector : String → List Binary64 → Prop) (columns : Row) (document : Entries) :
    Prop :=
  List.Forall₂ (fun column entry => entry.1 = column.1 ∧ Shown IsVector column.2 entry.2)
    columns document

theorem exists_showsAll (IsVector : String → List Binary64 → Prop) (columns : Row) :
    ∃ document, ShowsAll IsVector columns document :=
  exists_forall₂ fun column _ =>
    have ⟨shown, told⟩ := exists_shown IsVector column.2
    ⟨(column.1, shown), rfl, told⟩

theorem decodeColumn_of_plain {column : String × Value}
    (plain : ∀ s, column.2 = .text s → isBracketed s = false) :
    decodeColumn column = .ok column := by
  obtain ⟨name, value⟩ := column
  cases value with
  | text s => simp only [decodeColumn, plain s rfl, Bool.false_eq_true, if_false]
  | _ => rfl

theorem decodeColumn_of_bracketed (name : String) (bracketed : isBracketed s = true) :
    decodeColumn (name, .text s) = (Vector.decode (.text s)).map (name, ·) := by
  simp only [decodeColumn, if_pos bracketed]
  rfl

theorem decodeColumn_eq_ok_iff {column entry : String × Value} :
    decodeColumn column = .ok entry ↔
      Convertible column ∧ entry.1 = column.1 ∧ Shown ConvertsTo column.2 entry.2 := by
  obtain ⟨name, value⟩ := column
  obtain ⟨shownName, shown⟩ := entry
  -- Only a text in brackets is decoded, so that only there something can be refused.
  by_cases bracketed : ∃ s, value = .text s ∧ isBracketed s = true
  · obtain ⟨s, rfl, bracketed⟩ := bracketed
    simp only [decodeColumn_of_bracketed name bracketed, except_map_eq_ok,
      decode_eq_ok_iff bracketed, Prod.mk.injEq]
    constructor
    · rintro ⟨_, ⟨doubles, converts, rfl⟩, rfl, rfl⟩
      refine ⟨fun other same _ => ?_, rfl, .vector converts⟩
      cases same
      exact ⟨doubles, converts⟩
    · rintro ⟨convertible, rfl, seen⟩
      obtain ⟨doubles, converts⟩ := convertible s rfl bracketed
      cases seen with
      | vector taken => exact ⟨_, ⟨_, taken, rfl⟩, rfl, rfl⟩
      | same other => exact absurd converts (other s doubles rfl)
  · have plain : ∀ s, value = .text s → isBracketed s = false := fun s same =>
      Bool.eq_false_iff.mpr fun yes => bracketed ⟨s, same, yes⟩
    rw [decodeColumn_of_plain plain, Except.ok.injEq, Prod.mk.injEq]
    constructor
    · rintro ⟨rfl, rfl⟩
      exact ⟨fun s same yes => absurd ⟨s, same, yes⟩ bracketed, rfl,
        .same fun s _ same converts => bracketed ⟨s, same, converts.isBracketed⟩⟩
    · rintro ⟨-, rfl, seen⟩
      cases seen with
      | vector converts => exact absurd ⟨_, rfl, converts.isBracketed⟩ bracketed
      | same => exact ⟨rfl, rfl⟩

/-- A column that can be shown is shown as it is unless it denotes a vector, just if it denotes one
whenever it is in brackets. -/
theorem shown_denotes_iff {column : String × Value} {shown : Value}
    (convertible : Convertible column) (seen : Shown ConvertsTo column.2 shown) :
    Shown Denotes column.2 shown ↔
      ∀ s, column.2 = .text s → isBracketed s = true → ∃ doubles, Denotes s doubles := by
  obtain ⟨name, value⟩ := column
  cases seen with
  | @vector s doubles converts =>
    constructor
    · intro told other same _
      cases same
      exact told.exists_isVector
    · intro told
      obtain ⟨others, denotes⟩ := told s rfl converts.isBracketed
      -- The text is one array only, so that both ways of reading it give the same doubles.
      obtain rfl := denotes.convertsTo.unique converts
      exact .vector denotes
  | same other =>
    constructor
    · rintro - s rfl bracketed
      obtain ⟨doubles, converts⟩ := convertible s rfl bracketed
      exact absurd converts (other s doubles rfl)
    · exact fun _ => .same fun s doubles same denotes => other s doubles same denotes.convertsTo

theorem showsAll_denotes_iff {columns : Row} {document : Entries}
    (convertible : ∀ column ∈ columns, Convertible column)
    (seen : ShowsAll ConvertsTo columns document) :
    ShowsAll Denotes columns document ↔
      ∀ column ∈ columns, ∀ s, column.2 = .text s →
        isBracketed s = true → ∃ doubles, Denotes s doubles := by
  induction seen with
  | nil => exact ⟨fun _ => nofun, fun _ => .nil⟩
  | cons first _ ih =>
    obtain ⟨here, others⟩ := List.forall_mem_cons.mp convertible
    have rest := ih others
    rw [ShowsAll] at rest ⊢
    rw [List.forall₂_cons, rest, List.forall_mem_cons, shown_denotes_iff here first.2,
      and_iff_right first.1]

/-! ## Rows -/

variable {row : Row} {index : String} {included : Option Include} {key : Value}

theorem documentEntries_eq_ok_iff {document : Entries} :
    documentEntries row none included = .ok document ↔
      (∀ column ∈ documentColumns row, Convertible column) ∧
        ShowsAll ConvertsTo (documentColumns row) document := by
  rw [documentEntries, mapM_eq_ok]
  simp only [decodeColumn_eq_ok_iff]
  exact List.forall₂_and_left _ _

def ScoreInRange (row : Row) : Prop :=
  ∀ n, row.lookup Binding.scoreName = some (.int n) → (Binary64.ofInt? n).isSome = true

theorem exists_scoreOf_iff : (∃ x, scoreOf row = .ok x) ↔ ScoreInRange row := by
  rw [scoreOf, ScoreInRange]
  split
  next m found =>
    simp only [found, Option.some.injEq, Value.int.injEq, forall_eq', Value.toReal]
    cases Binary64.ofInt? m with
    | none => simp [Value.orElse]
    | some x => simp [Value.orElse]
  next x found => simp [found]
  next notInt _ => exact ⟨fun _ n same => absurd same (notInt n), fun _ => ⟨_, rfl⟩⟩

theorem ofRow_parts (keyed : row.lookup Binding.idName = some key) {binding : Option Binding}
    {hit : Hit} (found : ofRow row index binding included = .ok hit) :
    hit.id = key.display ∧ hit.index = index ∧ scoreOf row = .ok hit.score := by
  simp only [ofRow, bind_eq_ok, pure_eq_ok, keyText_of_lookup keyed, Except.ok.injEq] at found
  obtain ⟨document, -, _, rfl, score, scored, rfl⟩ := found
  exact ⟨rfl, rfl, scored⟩

theorem exists_ofRow_iff (keyed : row.lookup Binding.idName = some key) :
    (∃ hit, ofRow row index none included = .ok hit) ↔
      ScoreInRange row ∧ ∀ column ∈ documentColumns row, Convertible column := by
  constructor
  · rintro ⟨hit, found⟩
    obtain ⟨-, -, scored⟩ := ofRow_parts keyed found
    exact ⟨exists_scoreOf_iff.mp ⟨_, scored⟩,
      (documentEntries_eq_ok_iff.mp (ofRow_eq_ok found)).1⟩
  · rintro ⟨inRange, convertible⟩
    obtain ⟨x, scored⟩ := exists_scoreOf_iff.mpr inRange
    obtain ⟨document, shows⟩ := exists_showsAll ConvertsTo (documentColumns row)
    have entries : documentEntries row none included = .ok document :=
      documentEntries_eq_ok_iff.mpr ⟨convertible, shows⟩
    obtain ⟨hit, found, -⟩ := exists_ofRow index entries (keyText_of_lookup keyed) scored
    exact ⟨hit, found⟩

/-- What becomes of a row with a key where there is no binding.  It has a hit unless its score is
beyond the range of doubles or one of its texts in brackets is no array of things that are converted
to doubles.  The hit shows all columns but the key and the score, with the texts in brackets as
vectors.  So exactly the arrays of numbers are shown as vectors just if each text in brackets is an
array of numbers. -/
theorem ofRow_without_binding (keyed : row.lookup Binding.idName = some key) (index : String)
    (included : Option Include) :
    ((∃ hit, ofRow row index none included = .ok hit) ↔
      ScoreInRange row ∧ ∀ column ∈ documentColumns row, Convertible column) ∧
    (∀ hit, ofRow row index none included = .ok hit →
      hit.id = key.display ∧ hit.index = index ∧
        ShowsAll ConvertsTo (documentColumns row) (hit.document.getD [])) ∧
    ((∃ hit, ofRow row index none included = .ok hit ∧
        ShowsAll Denotes (documentColumns row) (hit.document.getD [])) ↔
      ScoreInRange row ∧ ∀ column ∈ documentColumns row, ∀ s, column.2 = .text s →
        isBracketed s = true → ∃ doubles, Denotes s doubles) := by
  have hits : (∃ hit, ofRow row index none included = .ok hit) ↔ _ := exists_ofRow_iff keyed
  have shows (hit : Hit) (found : ofRow row index none included = .ok hit) :=
    documentEntries_eq_ok_iff.mp (ofRow_eq_ok found)
  refine ⟨hits, fun hit found => ?_, ?_⟩
  · obtain ⟨sameKey, sameIndex, -⟩ := ofRow_parts keyed found
    exact ⟨sameKey, sameIndex, (shows hit found).2⟩
  constructor
  · rintro ⟨hit, found, told⟩
    obtain ⟨convertible, seen⟩ := shows hit found
    exact ⟨(hits.mp ⟨hit, found⟩).1, (showsAll_denotes_iff convertible seen).mp told⟩
  · rintro ⟨inRange, told⟩
    -- What denotes doubles can be converted to them, so no column keeps the row from being read.
    have convertible : ∀ column ∈ documentColumns row, Convertible column := by
      intro column mem s same bracketed
      obtain ⟨doubles, denotes⟩ := told column mem s same bracketed
      exact ⟨doubles, denotes.convertsTo⟩
    obtain ⟨hit, found⟩ := hits.mpr ⟨inRange, convertible⟩
    exact ⟨hit, found, (showsAll_denotes_iff convertible (shows hit found).2).mpr told⟩

/-- For example, a row with a vector, a title and a text that ends in a bracket. -/
theorem ofRow_without_binding_vector :
    let row : Row := [("id", .text "a"), ("score", .int 1), ("place", .text "[0.5, 1]"),
      ("title", .text "A [draft]"), ("tags", .list [.text "x"]), ("note", .null)]
    row.lookup Binding.idName = some (.text "a") ∧
      ∃ hit, ofRow row "docs" none none = .ok hit ∧ hit.id = "a" ∧
        ShowsAll Denotes (documentColumns row) (hit.document.getD []) := by
  intro row
  have keyed : row.lookup Binding.idName = some (.text "a") := rfl
  have columns : documentColumns row = [("place", .text "[0.5, 1]"), ("title", .text "A [draft]"),
    ("tags", .list [.text "x"]), ("note", .null)] := rfl
  have place : ∃ doubles, Denotes "[0.5, 1]" doubles :=
    ⟨[_, _], _, ⟨by decide, rfl⟩, List.forall_mem_cons.mpr ⟨rfl, List.forall_mem_singleton.mpr rfl⟩,
      .cons rfl (.cons rfl .nil)⟩
  obtain ⟨-, shows, told⟩ := ofRow_without_binding keyed "docs" none
  have inRange : ScoreInRange row := by
    intro n same
    cases same
    decide
  have vectors : ∀ column ∈ documentColumns row, ∀ s, column.2 = .text s →
      isBracketed s = true → ∃ doubles, Denotes s doubles := by
    rw [columns]
    refine List.forall_mem_cons.mpr ⟨fun s same => ?_, List.forall_mem_cons.mpr ⟨fun s same => ?_,
      List.forall_mem_cons.mpr ⟨nofun, List.forall_mem_singleton.mpr nofun⟩⟩⟩
    · cases same
      exact fun _ => place
    · cases same
      exact fun bracketed => absurd bracketed (by decide)
  obtain ⟨hit, found, same⟩ := told.mpr ⟨inRange, vectors⟩
  exact ⟨keyed, hit, found, (shows hit found).1, same⟩

/-- But a title in brackets leaves the row without a hit, although it is no array of numbers. -/
theorem no_hit_bracketed_title :
    let row : Row := [("id", .text "a"), ("score", .int 1), ("title", .text "[draft]")]
    row.lookup Binding.idName = some (.text "a") ∧ (∀ doubles, ¬Denotes "[draft]" doubles) ∧
      ¬∃ hit, ofRow row "docs" none none = .ok hit ∧
        ShowsAll Denotes (documentColumns row) (hit.document.getD []) := by
  intro row
  refine ⟨rfl, ?_, ?_⟩
  · rintro doubles ⟨items, ⟨-, found⟩, -⟩
    cases found
  · rintro ⟨hit, found, -⟩
    cases found

end Hit

end TableSearch
