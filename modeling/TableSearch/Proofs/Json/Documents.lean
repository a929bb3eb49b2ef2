import TableSearch.Proofs.Json.RoundTrip
import TableSearch.Proofs.Text.Encoding
import TableSearch.Proofs.Value.Same

/-!
# Documents and vectors as texts

Documents and vectors are written with visible ASCII characters only, so that their bytes say
the same as their texts.  From either the written value is decoded, with the keys of mappings in
their order.  Only integers with more digits than are read have no text.
-/

namespace TableSearch

def IsVisibleText (text : String) : Prop := ∀ c ∈ text.toList, IsVisible c

instance (text : String) : Decidable (IsVisibleText text) := List.decidableBAll _ text.toList

theorem IsVisible.of_isWordChar {c : Char} (letter : Json.isWordChar c = true) : IsVisible c := by
  simp only [Json.isWordChar, Bool.or_eq_true, beq_iff_eq] at letter
  rcases letter with ((alphanumeric | rfl) | rfl) | rfl
  · exact .of_isAlphanum alphanumeric
  all_goals decide

namespace IsVisibleText

theorem append {s t : String} (left : IsVisibleText s) (right : IsVisibleText t) :
    IsVisibleText (s ++ t) := by
  intro c mem
  rw [String.toList_append] at mem
  exact (List.mem_append.mp mem).elim (left c) (right c)

theorem intercalate {separator : String} (between : IsVisibleText separator) {parts : List String}
    (each : ∀ part ∈ parts, IsVisibleText part) : IsVisibleText (separator.intercalate parts) := by
  induction parts with
  | nil => exact fun _ => nofun
  | cons part parts ih =>
    obtain ⟨first, others⟩ := List.forall_mem_cons.mp each
    cases parts with
    | nil => simpa using first
    | cons next parts =>
      rw [String.intercalate_cons_cons]
      exact (first.append between).append (ih others)

theorem ofWord {text : String} (word : text.toList.all Json.isWordChar = true) :
    IsVisibleText text :=
  fun c mem => .of_isWordChar (List.all_eq_true.mp word c mem)

end IsVisibleText

namespace Json

/-! ## Quoted texts -/

theorem isVisible_hexDigit {n : Nat} (small : n < 16) : IsVisible (Literal.hexDigit n) := by
  have all : ∀ n < 16, IsVisible (Literal.hexDigit n) := by decide
  exact all n small

theorem isVisible_escapeUnit (unit : Nat) : ∀ c ∈ escapeUnit unit, IsVisible c := by
  have digit (n : Nat) : IsVisible (Literal.hexDigit (n % 16)) :=
    isVisible_hexDigit (Nat.mod_lt _ (by decide))
  rw [escapeUnit, hex_four]
  simp only [List.forall_mem_cons, digit, List.not_mem_nil, false_implies, implies_true, and_true]
  decide

/-- A character is visible or written by visible ones. -/
theorem isVisible_escape (c : Char) : ∀ d ∈ escape true c, IsVisible d := by
  rw [escape]
  split
  next letter escaped =>
    have visible : IsVisible letter := by
      unfold escapeLetter? at escaped
      split at escaped <;> cases escaped <;> decide
    exact List.forall_mem_cons.mpr ⟨by decide, List.forall_mem_singleton.mpr visible⟩
  next =>
    split
    next =>
      -- Beyond the first plane there are two units.
      rw [List.forall_mem_flatMap]
      exact fun unit _ => isVisible_escapeUnit unit
    next plain =>
      simp only [true_and, not_or, Nat.not_lt, Nat.not_le] at plain
      exact List.forall_mem_singleton.mpr plain

theorem isVisibleText_quote (s : String) : IsVisibleText (quote true s) := by
  rw [IsVisibleText, quote, String.toList_ofList]
  simp only [List.cons_append, List.forall_mem_cons, List.forall_mem_append,
    List.forall_mem_flatMap]
  exact ⟨by decide, fun c _ => isVisible_escape c, by decide,
    fun _ inside => absurd inside List.not_mem_nil⟩

/-! ## Values -/

/-- A style whose texts are visible ASCII. -/
structure Style.IsVisible (style : Style) : Prop where
  escapes : style.asciiOnly = true
  items : IsVisibleText style.itemSeparator
  keys : IsVisibleText style.keySeparator

theorem documentStyle_isVisible : documentStyle.IsVisible := ⟨rfl, by decide, by decide⟩

theorem isVisibleText_writeInteger {style : Style} {n : Int} {text : String}
    (written : writeInteger style n = .ok text) : IsVisibleText text := by
  rw [writeInteger] at written
  split at written
  next => cases written
  next =>
    cases written
    exact .ofWord (all_isWordChar_integer n)

theorem isVisibleText_write {style : Style} (visible : style.IsVisible) {value : Value}
    (json : value.IsJson) {text : String} (written : write style value = .ok text) :
    IsVisibleText text := by
  induction json generalizing text with
  | null => cases written; decide
  | bool b => cases written; cases b <;> decide
  | int n => exact isVisibleText_writeInteger written
  | real x => cases written; exact .ofWord (all_isWordChar_real x)
  | text s =>
    cases written
    rw [visible.escapes]
    exact isVisibleText_quote s
  | list _ ih =>
    simp only [write, except_map_eq_ok, writeItems_eq_mapM, mapM_eq_ok] at written
    obtain ⟨parts, each, rfl⟩ := written
    have inner : ∀ part ∈ parts, IsVisibleText part := by
      intro part mem
      obtain ⟨item, inside, written⟩ := exists_mem_of_forall₂ each.flip mem
      exact ih item inside written
    exact (IsVisibleText.append (by decide) (visible.items.intercalate inner)).append (by decide)
  | map _ _ ih =>
    simp only [write, except_map_eq_ok, writeEntries_eq_mapM, mapM_eq_ok] at written
    obtain ⟨parts, each, rfl⟩ := written
    have inner : ∀ part ∈ parts, IsVisibleText part := by
      intro part mem
      obtain ⟨entry, inside, written⟩ := exists_mem_of_forall₂ each.flip mem
      simp only [writeEntry, bind_eq_ok, pure_eq_ok] at written
      obtain ⟨text, written, rfl⟩ := written
      rw [visible.escapes]
      exact ((isVisibleText_quote _).append visible.keys).append (ih entry inside written)
    exact (IsVisibleText.append (by decide) (visible.items.intercalate inner)).append (by decide)

/-- The bytes of a text of visible characters are decoded like the text. -/
theorem decode_bytes {text : String} (visible : IsVisibleText text) :
    decode (.bytes (utf8Bytes text)) = decode (.text text) := by
  have found : Encoding.jsonText? (utf8Bytes text) = some text.toList := by
    rw [utf8Bytes_of_visible visible, Encoding.jsonText?_of_visible visible]
  simp only [decode, found]
  rfl

theorem isJson_reals (reals : List Binary64) : (Value.list (reals.map .real)).IsJson := by
  refine .list fun item mem => ?_
  obtain ⟨x, -, rfl⟩ := List.mem_map.mp mem
  exact .real x

theorem not_holdsInteger_reals {reals : List Binary64} {n : Int} :
    ¬(Value.list (reals.map .real)).HoldsInteger n := by
  rintro (_ | ⟨mem, inside⟩)
  obtain ⟨x, -, rfl⟩ := List.mem_map.mp mem
  cases inside

theorem exists_write_reals (style : Style) (reals : List Binary64) :
    ∃ text, write style (.list (reals.map .real)) = .ok text :=
  exists_write (isJson_reals reals) fun _ inside => absurd inside not_holdsInteger_reals

theorem head?_write_list {style : Style} {items : List Value} {text : String}
    (written : write style (.list items) = .ok text) : text.toList.head? = some '[' := by
  simp only [write, except_map_eq_ok] at written
  obtain ⟨parts, -, rfl⟩ := written
  simp [write.bracket]

end Json

/-! ## Vectors -/

namespace Vector

theorem exists_reals {items components : List Value}
    (found : Vector.components items = .ok components) :
    ∃ reals : List Binary64, components = reals.map .real := by
  rw [Vector.components, mapM_eq_ok] at found
  induction found with
  | nil => exact ⟨[], rfl⟩
  | cons first _ ih =>
    obtain ⟨reals, rfl⟩ := ih
    obtain ⟨x, -, rfl⟩ := except_map_eq_ok.mp first
    exact ⟨x :: reals, rfl⟩

theorem components_eq_ok_iff {items : List Value} {reals : List Binary64} :
    components items = .ok (reals.map .real) ↔
      List.Forall₂ (fun item x => item.toReal = .ok x) items reals := by
  simp only [components, mapM_eq_ok, List.forall₂_map_right_iff, except_map_eq_ok, Value.real.injEq,
    exists_eq_right]

/-- The text of a vector is read as the list of its components. -/
theorem read_encode {items : List Value} {text : String}
    (encoded : encode (.list items) = .ok text) :
    ∃ reals : List Binary64, components items = .ok (reals.map .real) ∧
      Json.read text.toList = .ok (.list (reals.map .real)) := by
  simp only [encode, bind_eq_ok] at encoded
  obtain ⟨members, same, reals, found, written⟩ := encoded
  cases same
  obtain ⟨reals, rfl⟩ := exists_reals found
  exact ⟨reals, found,
    Json.read_write Json.vectorStyle_separates rfl (Json.isJson_reals reals) written⟩

/-- A vector is written through the doubles that its members are converted to. -/
theorem encode_of_converts {items : List Value} {reals : List Binary64}
    (converts : List.Forall₂ (fun item x => item.toReal = .ok x) items reals) :
    encode (.list items) = Json.write Json.vectorStyle (.list (reals.map .real)) := by
  have members : (Value.list items).toList = .ok items := rfl
  simp only [encode, members, components_eq_ok_iff.mpr converts, bind, Except.bind]

/-- A text in brackets that is read as a list is decoded to the components of the list. -/
theorem decode_of_read {text : String} {items reals : List Value}
    (opens : text.toList.head? = some '[') (found : Json.read text.toList = .ok (.list items))
    (converted : components items = .ok reals) : decode (.text text) = .ok (.list reals) := by
  have members : (Value.list items).toList = .ok items := rfl
  simp only [decode, opens, if_true, Json.decode, found, bind, Except.bind, members, converted]
  rfl

end Vector

/-! ## Decoding undoes encoding -/

/-- A document is encoded just if no integer in it is too long, and it is decoded from its text and
from the bytes of its text.  Numbers are encoded as a vector just as the doubles that they are
converted to, and these are what is decoded. -/
theorem decoding_undoes_encoding :
    (∀ value : Value, value.IsJson →
      ((∃ text, Json.write Json.documentStyle value = .ok text) ↔
        ∀ n, value.HoldsInteger n → Json.IsShort n) ∧
      ∀ text, Json.write Json.documentStyle value = .ok text →
        IsVisibleText text ∧ Json.decode (.text text) = .ok value ∧
          Json.decode (.bytes (utf8Bytes text)) = .ok value) ∧
    ∀ (numbers : List Value) (doubles : List Binary64),
      List.Forall₂ (fun number x => number.toReal = .ok x) numbers doubles →
      ∃ text, Vector.encode (.list numbers) = .ok text ∧
        Vector.decode (.text text) = .ok (.list (doubles.map .real)) ∧
        Vector.encode (.list (doubles.map .real)) = .ok text := by
  refine ⟨fun value json => ⟨?_, fun text written => ?_⟩, fun numbers doubles converts => ?_⟩
  · exact Json.exists_write_iff Json.documentStyle_separates rfl json
  · have visible := Json.isVisibleText_write Json.documentStyle_isVisible json written
    have decoded : Json.decode (.text text) = .ok value :=
      Json.read_write Json.documentStyle_separates rfl json written
    exact ⟨visible, decoded, (Json.decode_bytes visible).trans decoded⟩
  · -- The doubles are converted to themselves, so that they are written as the numbers are.
    obtain ⟨text, written⟩ := Json.exists_write_reals Json.vectorStyle doubles
    have own := Vector.components_eq_ok_iff.mp (Vector.components_reals doubles)
    have found := Json.read_write Json.vectorStyle_separates rfl (Json.isJson_reals doubles) written
    exact ⟨text, (Vector.encode_of_converts converts).trans written,
      Vector.decode_of_read (Json.head?_write_list written) found (Vector.components_reals doubles),
      (Vector.encode_of_converts own).trans written⟩

/-- For example, a document with characters beyond ASCII, a control character and a not-a-number,
and a vector of an integer and a negative zero. -/
theorem decoding_undoes_encoding_odd_values :
    let value : Value := .map [("é😀\"", .list [.int (-10), .real .notANumber, .text "\x01\\"]),
      ("", .map [])]
    let text := "\x7b\"\\u00e9\\ud83d\\ude00\\\"\": [-10, NaN, \"\\u0001\\\\\"], \"\": \x7b\x7d\x7d"
    let minusZero : Binary64 := .finite true .zero
    (value.IsJson ∧ Json.write Json.documentStyle value = .ok text ∧ IsVisibleText text ∧
      Json.decode (.bytes (utf8Bytes text)) = .ok value ∧
      ∀ n, value.HoldsInteger n → Json.IsShort n) ∧
    (∃ one, (Value.int 1).toReal = .ok one ∧
      ∃ text, Vector.encode (.list [.int 1, .real minusZero]) = .ok text ∧
        Vector.decode (.text text) = .ok (.list [.real one, .real minusZero])) := by
  intro value text minusZero
  have json : value.IsJson := by
    refine .map (by decide) (List.forall_mem_cons.mpr ⟨.list ?_, ?_⟩)
    · exact List.forall_mem_cons.mpr ⟨.int _, List.forall_mem_cons.mpr
        ⟨.real _, List.forall_mem_singleton.mpr (.text _)⟩⟩
    · exact List.forall_mem_singleton.mpr (.map .nil nofun)
  have written : Json.write Json.documentStyle value = .ok text := rfl
  obtain ⟨documents, vectors⟩ := decoding_undoes_encoding
  obtain ⟨writable, decodes⟩ := documents value json
  obtain ⟨visible, -, decoded⟩ := decodes text written
  obtain ⟨one, converted⟩ : ∃ one, (Value.int 1).toReal = .ok one := ⟨_, rfl⟩
  obtain ⟨vector, encoded, back, -⟩ := vectors [.int 1, .real minusZero] [one, minusZero]
    (.cons converted (.cons rfl .nil))
  exact ⟨⟨json, written, visible, decoded, writable.mp ⟨text, written⟩⟩,
    one, converted, vector, encoded, back⟩

/-- But a document with an integer that has one digit too many is not encoded. -/
theorem not_encoded_long_integer :
    let value : Value := .map [("table", .text "t"), ("note", .int (Nat.pow 10 digitLimit : Nat))]
    value.IsJson ∧ ∀ text, Json.write Json.documentStyle value ≠ .ok text := by
  intro value
  have json : value.IsJson :=
    .map (by decide) (List.forall_mem_cons.mpr ⟨.text _, List.forall_mem_singleton.mpr (.int _)⟩)
  refine ⟨json, fun text written => ?_⟩
  have short := (Json.exists_write_iff Json.documentStyle_separates rfl json).mp ⟨text, written⟩
  exact Json.not_isShort_pow (short _ (.map (List.mem_cons_of_mem _ List.mem_cons_self) .int))

end TableSearch
