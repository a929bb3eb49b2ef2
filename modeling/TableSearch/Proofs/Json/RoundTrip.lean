import TableSearch.Json.Reader
import TableSearch.Proofs.Json.Spelling

/-!
# Written values are read back

The machine that reads JSON takes the tokens of a value for that value, with the entries
of its mappings in their order.  Together with the tokens that a written value is cut into,
this makes reading the inverse of writing.
-/

namespace TableSearch

/-- A value that has a JSON form of its own: its sequences are lists, and no mapping
repeats a key. -/
inductive Value.IsJson : Value → Prop where
  | null : IsJson .null
  | bool (b : Bool) : IsJson (.bool b)
  | int (n : Int) : IsJson (.int n)
  | real (x : Binary64) : IsJson (.real x)
  | text (s : String) : IsJson (.text s)
  | list {items : List Value} (each : ∀ item ∈ items, IsJson item) : IsJson (.list items)
  | map {entries : Entries} (distinct : (entries.map (·.1)).Nodup)
      (each : ∀ entry ∈ entries, IsJson entry.2) : IsJson (.map entries)

/-- A value without real numbers whose integers have a property.  Whatever keeps JSON values keeps
such a value exactly. -/
inductive Value.IsExact (P : Int → Prop) : Value → Prop where
  | null : IsExact P .null
  | bool (b : Bool) : IsExact P (.bool b)
  | int {n : Int} (holds : P n) : IsExact P (.int n)
  | text (s : String) : IsExact P (.text s)
  | list {items : List Value} (each : ∀ item ∈ items, IsExact P item) : IsExact P (.list items)
  | map {entries : Entries} (distinct : (entries.map (·.1)).Nodup)
      (each : ∀ entry ∈ entries, IsExact P entry.2) : IsExact P (.map entries)

theorem Value.IsExact.isJson {P : Int → Prop} {value : Value} (exact_ : value.IsExact P) :
    value.IsJson := by
  induction exact_ with
  | null => exact .null
  | bool b => exact .bool b
  | int => exact .int _
  | text s => exact .text s
  | list _ ih => exact .list ih
  | map distinct _ ih => exact .map distinct ih

/-- An integer that stands somewhere in a value. -/
inductive Value.HoldsInteger (n : Int) : Value → Prop where
  | int : HoldsInteger n (.int n)
  | list {items : List Value} {item : Value} (mem : item ∈ items) (inside : HoldsInteger n item) :
      HoldsInteger n (.list items)
  | map {entries : Entries} {entry : String × Value} (mem : entry ∈ entries)
      (inside : HoldsInteger n entry.2) : HoldsInteger n (.map entries)

theorem Value.IsExact.of_holdsInteger {P : Int → Prop} {value : Value} (exact_ : value.IsExact P)
    {n : Int} (inside : value.HoldsInteger n) : P n := by
  induction inside with
  | int =>
    cases exact_ with
    | int holds => exact holds
  | list mem _ ih =>
    cases exact_ with
    | list each => exact ih (each _ mem)
  | map mem _ ih =>
    cases exact_ with
    | map _ each => exact ih (each _ mem)

theorem insertEntry_of_not_mem {α : Type} {key : String} (value : α) {entries : List (String × α)}
    (new : key ∉ entries.map (·.1)) : insertEntry key value entries = entries ++ [(key, value)] := by
  induction entries with
  | nil => rfl
  | cons entry entries ih =>
    simp only [List.map_cons, List.mem_cons, not_or] at new
    rw [insertEntry, if_neg (Ne.symm new.1), ih new.2, List.cons_append]

/-- New keys are put behind the present ones, one after the other. -/
theorem foldl_insertEntry {α : Type} {before entries : List (String × α)}
    (distinct : ((before ++ entries).map (·.1)).Nodup) :
    entries.foldl (fun known entry => insertEntry entry.1 entry.2 known) before =
      before ++ entries := by
  induction entries generalizing before with
  | nil => exact (List.append_nil before).symm
  | cons entry entries ih =>
    have new : entry.1 ∉ before.map (·.1) := by
      rw [List.map_append, List.nodup_append] at distinct
      exact fun mem => distinct.2.2 entry.1 mem entry.1 List.mem_cons_self rfl
    rw [List.append_cons] at distinct
    rw [List.foldl_cons, insertEntry_of_not_mem entry.2 new, ih distinct, ← List.append_cons]

namespace Json

/-! ## Steps of the machine -/

theorem run_cons {state next : State} {token : Token} (tokens : List Token)
    (step : state.step token = .ok next) : state.run (token :: tokens) = next.run tokens := by
  rw [State.run, List.foldlM_cons, step]
  rfl

def Delivers (value : Value) : Prop :=
  ∀ stack tokens, State.run ⟨stack, .value⟩ (spelled value ++ tokens) =
    State.run (.fill stack value) tokens

theorem spelled_head {value : Value} (json : value.IsJson) :
    ∃ token tokens, spelled value = token :: tokens ∧ token ≠ .closeList := by
  cases json with
  | null | bool | real | text => exact ⟨_, _, rfl, by rintro ⟨⟩⟩
  | int n =>
    refine ⟨integerToken n, [], rfl, ?_⟩
    rw [integerToken]
    split <;> rintro ⟨⟩
  | list | map => exact ⟨_, _, rfl, by rintro ⟨⟩⟩

/-! ## Lists -/

/-- Where the first item may stand the machine does what it does on any value. -/
theorem step_firstItem (stack : List Frame) {token : Token} (other : token ≠ .closeList) :
    State.step ⟨stack, .firstItem⟩ token = State.step ⟨.list [] :: stack, .value⟩ token := by
  cases token with
  | closeList => exact absurd rfl other
  | _ => rfl

/-- The items of a list behind those that were read before. -/
theorem run_items {items : List Value} (nonempty : items ≠ [])
    (each : ∀ item ∈ items, Delivers item) (before : List Value) (stack : List Frame)
    (tokens : List Token) :
    State.run ⟨.list before :: stack, .value⟩
        ([Token.comma].intercalate (spelledItems items) ++ .closeList :: tokens) =
      State.run (.fill stack (.list (before.reverse ++ items))) tokens := by
  induction items generalizing before with
  | nil => exact absurd rfl nonempty
  | cons item items ih =>
    have first : Delivers item := each item List.mem_cons_self
    cases items with
    | nil =>
      rw [spelledItems, spelledItems, List.intercalate_singleton, first]
      have closes : State.step (.fill (.list before :: stack) item) .closeList =
          .ok (.fill stack (.list (item :: before).reverse)) := rfl
      rw [run_cons tokens closes, List.reverse_cons]
    | cons next items =>
      have others := ih (List.cons_ne_nil _ _)
        (fun other mem => each other (List.mem_cons_of_mem _ mem)) (item :: before)
      have goesOn : State.step (.fill (.list before :: stack) item) .comma =
          .ok ⟨.list (item :: before) :: stack, .value⟩ := rfl
      rw [spelledItems] at others ⊢
      rw [spelledItems, List.intercalate_cons_cons, List.append_assoc, List.append_assoc, first,
        List.singleton_append, run_cons _ goesOn, others, List.reverse_cons, List.append_assoc]
      rfl

theorem delivers_list {items : List Value} (json : ∀ item ∈ items, item.IsJson)
    (each : ∀ item ∈ items, Delivers item) : Delivers (.list items) := by
  intro stack tokens
  have opens : State.step ⟨stack, .value⟩ .openList = .ok ⟨stack, .firstItem⟩ := rfl
  rw [spelled, List.cons_append, List.cons_append, run_cons _ opens, List.append_assoc,
    List.singleton_append]
  cases items with
  | nil =>
    have closes : State.step ⟨stack, .firstItem⟩ .closeList = .ok (.fill stack (.list [])) := rfl
    exact run_cons tokens closes
  | cons item items =>
    have all := run_items (List.cons_ne_nil _ _) each [] stack tokens
    rw [List.reverse_nil, List.nil_append] at all
    rw [← all]
    obtain ⟨token, rest, head, open'⟩ := spelled_head (json item List.mem_cons_self)
    -- Only the first token tells an empty list from the others, so the first item is opened to see
    -- it.
    have begins : ∃ tail, [Token.comma].intercalate (spelledItems (item :: items)) =
        token :: tail := by
      cases items <;> simp [spelledItems, head, List.intercalate_cons_cons]
    obtain ⟨tail, begins⟩ := begins
    rw [begins, List.cons_append, State.run, State.run, List.foldlM_cons, List.foldlM_cons,
      step_firstItem stack open']

/-! ## Mappings -/

/-- The entries of a mapping behind those that were read before. -/
theorem run_entries {entries : Entries} (nonempty : entries ≠ [])
    (each : ∀ entry ∈ entries, Delivers entry.2) (before : Entries)
    (distinct : ((before ++ entries).map (·.1)).Nodup) (stack : List Frame)
    (tokens : List Token) :
    State.run ⟨stack, .key before⟩
        ([Token.comma].intercalate (spelledEntries entries) ++ .closeMap :: tokens) =
      State.run (.fill stack (.map (before ++ entries))) tokens := by
  induction entries generalizing before with
  | nil => exact absurd rfl nonempty
  | cons entry entries ih =>
    obtain ⟨key, value⟩ := entry
    have first : Delivers value := each (key, value) List.mem_cons_self
    -- A key that was there before would have its value replaced, and the entry would not be the
    -- last one.
    have new : key ∉ before.map (·.1) := by
      rw [List.map_append, List.nodup_append] at distinct
      exact fun mem => distinct.2.2 key mem key List.mem_cons_self rfl
    have named : State.step ⟨stack, .key before⟩ (.text key) = .ok ⟨stack, .colon before key⟩ := rfl
    have awaits : State.step ⟨stack, .colon before key⟩ .colon =
        .ok ⟨.map before key :: stack, .value⟩ := rfl
    have filled : State.fill (.map before key :: stack) value =
        ⟨stack, .nextEntry (before ++ [(key, value)])⟩ := by
      rw [State.fill, insertEntry_of_not_mem value new]
    cases entries with
    | nil =>
      have closes : State.step ⟨stack, .nextEntry (before ++ [(key, value)])⟩ .closeMap =
          .ok (.fill stack (.map (before ++ [(key, value)]))) := rfl
      rw [spelledEntries, spelledEntries, List.intercalate_singleton, List.cons_append,
        List.cons_append, run_cons _ named, run_cons _ awaits, first, filled, run_cons _ closes]
    | cons next entries =>
      have goesOn : State.step ⟨stack, .nextEntry (before ++ [(key, value)])⟩ .comma =
          .ok ⟨stack, .key (before ++ [(key, value)])⟩ := rfl
      have others := ih (List.cons_ne_nil _ _)
        (fun other mem => each other (List.mem_cons_of_mem _ mem)) (before ++ [(key, value)])
        (by rwa [List.append_assoc])
      rw [spelledEntries] at others ⊢
      rw [spelledEntries, List.intercalate_cons_cons, List.append_assoc, List.append_assoc,
        List.cons_append, List.cons_append, run_cons _ named, run_cons _ awaits, first, filled,
        List.singleton_append, run_cons _ goesOn, others, List.append_assoc]
      rfl

theorem delivers_map {entries : Entries} (distinct : (entries.map (·.1)).Nodup)
    (each : ∀ entry ∈ entries, Delivers entry.2) : Delivers (.map entries) := by
  intro stack tokens
  have opens : State.step ⟨stack, .value⟩ .openMap = .ok ⟨stack, .firstKey⟩ := rfl
  rw [spelled, List.cons_append, List.cons_append, run_cons _ opens, List.append_assoc,
    List.singleton_append]
  cases entries with
  | nil =>
    have closes : State.step ⟨stack, .firstKey⟩ .closeMap = .ok (.fill stack (.map [])) := rfl
    exact run_cons tokens closes
  | cons entry entries =>
    have all := run_entries (List.cons_ne_nil _ _) each [] distinct stack tokens
    rw [List.nil_append] at all
    rw [← all]
    obtain ⟨key, value⟩ := entry
    have same : State.step ⟨stack, .firstKey⟩ (.text key) =
        State.step ⟨stack, .key []⟩ (.text key) := rfl
    have begins : ∃ tail, [Token.comma].intercalate (spelledEntries ((key, value) :: entries)) =
        .text key :: tail := by
      cases entries <;> simp [spelledEntries, List.intercalate_cons_cons]
    obtain ⟨tail, begins⟩ := begins
    rw [begins, List.cons_append, State.run, State.run, List.foldlM_cons, List.foldlM_cons, same]

/-! ## Values -/

theorem spelledItems_eq_map (items : List Value) : spelledItems items = items.map spelled := by
  induction items with
  | nil => rfl
  | cons item items ih => rw [spelledItems, ih, List.map_cons]

theorem spelledEntries_eq_map (entries : Entries) :
    spelledEntries entries =
      entries.map fun entry => .text entry.1 :: .colon :: spelled entry.2 := by
  induction entries with
  | nil => rfl
  | cons entry entries ih => rw [spelledEntries, ih, List.map_cons]

theorem mem_spelled_list {items : List Value} {item : Value} {token : Token} (mem : item ∈ items)
    (inside : token ∈ spelled item) : token ∈ spelled (.list items) :=
  List.mem_append_left _ <| List.mem_cons_of_mem _ <|
    mem_intercalate inside (spelledItems_eq_map _ ▸ List.mem_map_of_mem mem)

/-- The tokens of the value under a key are among those of its mapping. -/
theorem mem_spelled_map {entries : Entries} {entry : String × Value} {token : Token}
    (mem : entry ∈ entries) (inside : token ∈ spelled entry.2) : token ∈ spelled (.map entries) :=
  List.mem_append_left _ <| List.mem_cons_of_mem _ <|
    mem_intercalate (List.mem_cons_of_mem _ (List.mem_cons_of_mem _ inside))
      (spelledEntries_eq_map _ ▸ List.mem_map_of_mem mem)

def IsShort (n : Int) : Prop := (toString n.natAbs).length ≤ digitLimit

instance (n : Int) : Decidable (IsShort n) :=
  inferInstanceAs (Decidable ((toString n.natAbs).length ≤ digitLimit))

theorem length_toString_le_iff {n limit : Nat} (pos : 0 < limit) :
    (toString n).length ≤ limit ↔ n < Nat.pow 10 limit := by
  rw [Nat.toString_eq_ofList_toDigits, String.length_ofList]
  exact Nat.length_toDigits_le_iff (by decide) pos

theorem isShort_iff {n : Int} : IsShort n ↔ n.natAbs < Nat.pow 10 digitLimit :=
  length_toString_le_iff (by decide)

/-- The least integer with one digit too many. -/
theorem not_isShort_pow : ¬IsShort (Nat.pow 10 digitLimit : Nat) := by
  rw [isShort_iff, Int.natAbs_natCast]
  exact Nat.lt_irrefl _

/-- Among the tokens of a value there is one for each integer in it that is too long. -/
theorem oversized_mem_spelled_iff {value : Value} (json : value.IsJson) :
    Token.oversized ∈ spelled value ↔ ∃ n, value.HoldsInteger n ∧ ¬IsShort n := by
  constructor
  · intro long
    induction json with
    | null | bool | real | text => simp [spelled] at long
    -- An integer is the only value whose own token can be the oversized one.
    | int n =>
      refine ⟨n, .int, fun short => ?_⟩
      rw [spelled, integerToken, if_neg (Nat.not_lt.mpr short)] at long
      cases List.mem_singleton.mp long
    | list _ ih =>
      rw [spelled, spelledItems_eq_map] at long
      rcases mem_of_mem_intercalate (by simpa using long) with same | ⟨part, among, here⟩
      · cases same
      · obtain ⟨item, mem, rfl⟩ := List.mem_map.mp among
        obtain ⟨n, inside, tooLong⟩ := ih item mem here
        exact ⟨n, .list mem inside, tooLong⟩
    | map _ _ ih =>
      rw [spelled, spelledEntries_eq_map] at long
      rcases mem_of_mem_intercalate (by simpa using long) with same | ⟨part, among, here⟩
      · cases same
      · obtain ⟨entry, mem, rfl⟩ := List.mem_map.mp among
        obtain ⟨n, inside, tooLong⟩ := ih entry mem (by simpa using here)
        exact ⟨n, .map mem inside, tooLong⟩
  · rintro ⟨n, inside, long⟩
    -- From here on the induction is on where the integer stands, not on the value.
    clear json
    induction inside with
    | int =>
      rw [spelled, integerToken, if_pos (Nat.not_le.mp long)]
      exact List.mem_singleton_self _
    | list mem _ ih => exact mem_spelled_list mem ih
    | map mem _ ih => exact mem_spelled_map mem ih

theorem oversized_not_mem_spelled {value : Value} (exact_ : value.IsExact IsShort) :
    Token.oversized ∉ spelled value := by
  rw [oversized_mem_spelled_iff exact_.isJson]
  rintro ⟨n, inside, long⟩
  exact long (exact_.of_holdsInteger inside)

theorem delivers_atom {value : Value} (spells : spelled value = [.atom value]) :
    Delivers value := by
  intro stack tokens
  have step : State.step ⟨stack, .value⟩ (.atom value) = .ok (.fill stack value) := rfl
  rw [spells, List.singleton_append, run_cons _ step]

/-- The machine takes the tokens of a value for that value, if none of its integers is too
long to be read. -/
theorem delivers {value : Value} (json : value.IsJson) (short : Token.oversized ∉ spelled value) :
    Delivers value := by
  -- The stack is any, so that an item inside a list or mapping is covered by the hypothesis.
  induction json with
  | null | bool | real => exact delivers_atom rfl
  | int n =>
    refine delivers_atom ?_
    simp only [spelled, integerToken] at short ⊢
    split
    next long =>
      rw [if_pos long] at short
      exact absurd List.mem_cons_self short
    next => rfl
  | text s =>
    intro stack tokens
    have step : State.step ⟨stack, .value⟩ (.text s) = .ok (.fill stack (.text s)) := rfl
    exact run_cons tokens step
  | list json ih =>
    exact delivers_list json fun item mem =>
      ih item mem fun long => short (mem_spelled_list mem long)
  | map distinct json ih =>
    exact delivers_map distinct fun entry mem =>
      ih entry mem fun long => short (mem_spelled_map mem long)

theorem tokens_of_write {style : Style} (separates : style.Separates) {value : Value}
    {text : String} (written : write style value = .ok text) :
    tokens text.toList = spelled value := by
  have whole := (write_cutInto separates value written).cut [] nofun
  rwa [List.append_nil, tokensFrom, List.append_nil] at whole

/-- What is written is read back unless an integer is too long. -/
theorem read_write_of_short {style : Style} (separates : style.Separates) {value : Value}
    (json : value.IsJson) (short : Token.oversized ∉ spelled value) {text : String}
    (written : write style value = .ok text) : read text.toList = .ok value := by
  have run := delivers json short [] []
  rw [List.append_nil] at run
  rw [read, tokens_of_write separates written, run]
  rfl

theorem read_write {style : Style} (separates : style.Separates)
    (short : style.longIntegers = false) {value : Value} (json : value.IsJson) {text : String}
    (written : write style value = .ok text) : read text.toList = .ok value :=
  read_write_of_short separates json ((write_cutInto separates value written).short short) written

/-! ## Long integers -/

/-- An integer that is too long is nowhere read. -/
theorem step_oversized (state next : State) : state.step .oversized ≠ .ok next := by
  obtain ⟨stack, awaiting⟩ := state
  cases awaiting <;> nofun

theorem run_oversized {tokens : List Token} (long : Token.oversized ∈ tokens)
    (state final : State) : state.run tokens ≠ .ok final := by
  induction tokens generalizing state with
  | nil => cases long
  | cons token tokens ih =>
    rw [State.run, List.foldlM_cons]
    intro done
    obtain ⟨next, step, rest⟩ := bind_eq_ok.mp done
    rcases List.mem_cons.mp long with same | inside
    · exact step_oversized state next (same ▸ step)
    · exact ih inside next rest

/-- Even if integers may be too long to be read, a written value is not read as another one. -/
theorem eq_of_read_write {style : Style} (separates : style.Separates) {value other : Value}
    (json : value.IsJson) {text : String} (written : write style value = .ok text)
    (found : read text.toList = .ok other) : other = value := by
  by_cases long : Token.oversized ∈ spelled value
  · rw [read, tokens_of_write separates written] at found
    split at found
    next same => exact absurd same (run_oversized long _ _)
    next => cases found
    next => cases found
  · have same := (read_write_of_short separates json long written).symm.trans found
    exact (Except.ok.inj same).symm

/-- A written value is read unless it holds an integer that is too long. -/
theorem exists_read_write_iff {style : Style} (separates : style.Separates) {value : Value}
    (json : value.IsJson) {text : String} (written : write style value = .ok text) :
    (∃ found, read text.toList = .ok found) ↔ ∀ n, value.HoldsInteger n → IsShort n := by
  constructor
  · rintro ⟨found, same⟩ n inside
    by_contra long
    have spells := (oversized_mem_spelled_iff json).mpr ⟨n, inside, long⟩
    rw [read, tokens_of_write separates written] at same
    split at same
    next run => exact run_oversized spells _ _ run
    next => cases same
    next => cases same
  · intro short
    refine ⟨value, read_write_of_short separates json (fun long => ?_) written⟩
    obtain ⟨n, inside, tooLong⟩ := (oversized_mem_spelled_iff json).mp long
    exact tooLong (short n inside)

/-! ## Values that can be written -/

theorem writeItems_eq_mapM (style : Style) (items : List Value) :
    writeItems style items = items.mapM (write style) := by
  induction items with
  | nil => rfl
  | cons item items ih => rw [writeItems, ih, List.mapM_cons]

def writeEntry (style : Style) (entry : String × Value) : Except ConversionError String := do
  return quote style.asciiOnly entry.1 ++ style.keySeparator ++ (← write style entry.2)

theorem writeEntries_eq_mapM (style : Style) (entries : Entries) :
    writeEntries style entries = entries.mapM (writeEntry style) := by
  induction entries with
  | nil => rfl
  | cons entry entries ih =>
    rw [writeEntries, ih, List.mapM_cons, writeEntry, bind_assoc]
    simp only [pure_bind]

theorem exists_writeItems {style : Style} {items : List Value}
    (each : ∀ item ∈ items, ∃ text, write style item = .ok text) :
    ∃ parts, writeItems style items = .ok parts := by
  obtain ⟨parts, written⟩ := exists_forall₂ each
  exact ⟨parts, by rw [writeItems_eq_mapM, mapM_eq_ok]; exact written⟩

theorem exists_writeEntries {style : Style} {entries : Entries}
    (each : ∀ entry ∈ entries, ∃ text, write style entry.2 = .ok text) :
    ∃ parts, writeEntries style entries = .ok parts := by
  have written : ∀ entry ∈ entries, ∃ text, writeEntry style entry = .ok text := by
    intro entry mem
    obtain ⟨text, written⟩ := each entry mem
    exact ⟨_, by rw [writeEntry, written]; rfl⟩
  obtain ⟨parts, written⟩ := exists_forall₂ written
  exact ⟨parts, by rw [writeEntries_eq_mapM, mapM_eq_ok]; exact written⟩

/-- A value with a JSON form can be written if its integers can. -/
theorem exists_write {style : Style} {value : Value} (json : value.IsJson)
    (admitted : ∀ n, value.HoldsInteger n → ∃ text, writeInteger style n = .ok text) :
    ∃ text, write style value = .ok text := by
  induction json with
  | null | bool | real | text => exact ⟨_, rfl⟩
  | int n => exact admitted n .int
  | list _ ih =>
    obtain ⟨parts, written⟩ := exists_writeItems fun item mem =>
      ih item mem fun n inside => admitted n (.list mem inside)
    exact ⟨_, by rw [write, written]; rfl⟩
  | map _ _ ih =>
    obtain ⟨parts, written⟩ := exists_writeEntries fun entry mem =>
      ih entry mem fun n inside => admitted n (.map mem inside)
    exact ⟨_, by rw [write, written]; rfl⟩

theorem exists_writeInteger {style : Style} {n : Int}
    (short : style.longIntegers = false → IsShort n) : ∃ text, writeInteger style n = .ok text := by
  cases long : style.longIntegers with
  | true => exact ⟨toString n, by simp [writeInteger, long]⟩
  | false =>
    have fits : ¬digitLimit < (toString n.natAbs).length := Nat.not_lt.mpr (short long)
    exact ⟨toString n, by simp only [writeInteger, decide_eq_false fits, Bool.and_false]; rfl⟩

/-- A style that refuses long integers writes just the values that hold none. -/
theorem exists_write_iff {style : Style} (separates : style.Separates)
    (short : style.longIntegers = false) {value : Value} (json : value.IsJson) :
    (∃ text, write style value = .ok text) ↔ ∀ n, value.HoldsInteger n → IsShort n := by
  constructor
  · rintro ⟨text, written⟩ n inside
    by_contra long
    exact (write_cutInto separates value written).short short
      ((oversized_mem_spelled_iff json).mpr ⟨n, inside, long⟩)
  · exact fun each => exists_write json fun n inside => exists_writeInteger fun _ => each n inside

end Json

end TableSearch
