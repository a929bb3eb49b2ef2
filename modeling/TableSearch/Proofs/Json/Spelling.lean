import TableSearch.Proofs.Json.Numbers
import TableSearch.Proofs.Json.Texts
import TableSearch.Proofs.Results

/-!
# The tokens of a written value

A value that is written as JSON is cut into the tokens that its structure says, whatever
spaces the style puts behind its separators.
-/

namespace TableSearch.Json

/-! ## The tokens that a value stands for -/

def integerToken (n : Int) : Token :=
  if digitLimit < (toString n.natAbs).length then .oversized else .atom (.int n)

mutual

def spelled : Value → List Token
  | .null => [.atom .null]
  | .bool b => [.atom (.bool b)]
  | .int n => [integerToken n]
  | .real x => [.atom (.real x)]
  | .text s => [.text s]
  | .list items => .openList :: [Token.comma].intercalate (spelledItems items) ++ [.closeList]
  | .tuple items => .openList :: [Token.comma].intercalate (spelledItems items) ++ [.closeList]
  | .map entries => .openMap :: [Token.comma].intercalate (spelledEntries entries) ++ [.closeMap]
  | .bytes _ => []
  | .timestamp _ => []
  | .decimal _ => []

def spelledItems : List Value → List (List Token)
  | [] => []
  | item :: rest => spelled item :: spelledItems rest

def spelledEntries : List (String × Value) → List (List Token)
  | [] => []
  | (key, value) :: rest => (.text key :: .colon :: spelled value) :: spelledEntries rest

end

/-! ## Words and separators -/

def EndsWord (rest : List Char) : Prop := ∀ c ∈ rest.head?, isWordChar c = false

theorem endsWord_cons {c : Char} {rest : List Char} (other : isWordChar c = false) :
    EndsWord (c :: rest) := by
  intro d mem
  cases mem
  exact other

/-- A style whose separators are a comma and a colon with spaces behind them. -/
structure Style.Separates (style : Style) : Prop where
  items : ∃ spaces, style.itemSeparator.toList = ',' :: spaces ∧ spaces.all isSpace = true
  keys : ∃ spaces, style.keySeparator.toList = ':' :: spaces ∧ spaces.all isSpace = true

theorem documentStyle_separates : documentStyle.Separates :=
  ⟨⟨[' '], rfl, rfl⟩, ⟨[' '], rfl, rfl⟩⟩

theorem vectorStyle_separates : vectorStyle.Separates := ⟨⟨[], rfl, rfl⟩, ⟨[], rfl, rfl⟩⟩

theorem bindingStyle_separates : bindingStyle.Separates := ⟨⟨[], rfl, rfl⟩, ⟨[], rfl, rfl⟩⟩

section Words

variable {letters rest : List Char}

/-- A word goes on up to a character that does not belong to words. -/
theorem tokensFrom_word (before : List Char) (all : letters.all isWordChar = true)
    (ends : EndsWord rest) :
    tokensFrom (.word before) (letters ++ rest) =
      word (before.reverse ++ letters) :: tokensFrom .between rest := by
  induction letters generalizing before with
  | nil =>
    rw [List.nil_append, List.append_nil]
    cases rest with
    | nil => rfl
    | cons c rest =>
      have other : isWordChar c = false := ends c rfl
      rw [tokensFrom, tokensFrom, other]
      simp only [Bool.false_eq_true, if_false]
      cases start? c <;> rfl
  | cons c letters ih =>
    simp only [List.all_cons, Bool.and_eq_true] at all
    rw [List.cons_append, tokensFrom, if_pos all.1, ih (c :: before) all.2, List.reverse_cons,
      List.append_assoc]
    rfl

theorem not_isSpace_of_isWordChar {c : Char} (letter : isWordChar c = true) :
    isSpace c = false := by
  cases space : isSpace c with
  | false => rfl
  | true =>
    simp only [isSpace, Bool.or_eq_true, beq_iff_eq, or_assoc] at space
    rcases space with rfl | rfl | rfl | rfl <;> exact absurd letter (by decide)

theorem tokensFrom_between_word (nonempty : letters ≠ []) (all : letters.all isWordChar = true)
    (ends : EndsWord rest) :
    tokensFrom .between (letters ++ rest) = word letters :: tokensFrom .between rest := by
  obtain ⟨first, others, rfl⟩ := List.exists_cons_of_ne_nil nonempty
  simp only [List.all_cons, Bool.and_eq_true] at all
  have starts : start? first = some ([], .word [first]) := by
    simp [start?, all.1, not_isSpace_of_isWordChar all.1]
  rw [List.cons_append, tokensFrom, starts]
  exact tokensFrom_word [first] all.2 ends

theorem tokensFrom_spaces {spaces : List Char} (all : spaces.all isSpace = true) :
    tokensFrom .between (spaces ++ rest) = tokensFrom .between rest := by
  induction spaces with
  | nil => rfl
  | cons c spaces ih =>
    simp only [List.all_cons, Bool.and_eq_true] at all
    have starts : start? c = some ([], .between) := by simp [start?, all.1]
    rw [List.cons_append, tokensFrom, starts]
    exact ih all.2

theorem tokensFrom_itemSeparator {style : Style} (separates : style.Separates) :
    tokensFrom .between (style.itemSeparator.toList ++ rest) =
      .comma :: tokensFrom .between rest := by
  obtain ⟨spaces, text, all⟩ := separates.items
  have starts : tokensFrom .between (',' :: (spaces ++ rest)) =
      .comma :: tokensFrom .between (spaces ++ rest) := rfl
  rw [text, List.cons_append, starts, tokensFrom_spaces all]

theorem tokensFrom_keySeparator {style : Style} (separates : style.Separates) :
    tokensFrom .between (style.keySeparator.toList ++ rest) =
      .colon :: tokensFrom .between rest := by
  obtain ⟨spaces, text, all⟩ := separates.keys
  have starts : tokensFrom .between (':' :: (spaces ++ rest)) =
      .colon :: tokensFrom .between (spaces ++ rest) := rfl
  rw [text, List.cons_append, starts, tokensFrom_spaces all]

end Words

/-! ## Written values -/

/-- A text that is cut into some tokens wherever it ends in front of a separator, and whose
integers are short enough to be read unless the style admits others. -/
structure CutInto (style : Style) (text : String) (tokens : List Token) : Prop where
  cut : ∀ rest, EndsWord rest →
    tokensFrom .between (text.toList ++ rest) = tokens ++ tokensFrom .between rest
  short : style.longIntegers = false → Token.oversized ∉ tokens

namespace CutInto

variable {style : Style} {text : String} {tokens : List Token}

theorem ofWord {value : Value} (all : text.toList.all isWordChar = true)
    (named : word text.toList = .atom value) : CutInto style text [.atom value] where
  cut rest ends := by
    have nonempty : text.toList ≠ [] := by
      intro none
      rw [none] at named
      cases named
    rw [tokensFrom_between_word nonempty all ends, named]
    rfl
  short _ := by simp

theorem ofQuote (s : String) : CutInto style (quote style.asciiOnly s) [.text s] where
  cut _ _ := tokensFrom_quote style.asciiOnly s
  short _ := by simp

/-- Texts with separators between them are cut into their tokens with commas between them. -/
theorem intercalate (separates : style.Separates) {texts : List String}
    {parts : List (List Token)} (each : List.Forall₂ (CutInto style) texts parts) :
    CutInto style (style.itemSeparator.intercalate texts) ([Token.comma].intercalate parts) := by
  induction each with
  | nil => exact ⟨fun _ _ => rfl, fun _ => by simp⟩
  | @cons text part texts parts first others ih =>
    -- The last text has no separator behind it, so whether there is a next one is asked first.
    cases others with
    | nil => simpa using first
    | @cons next nextPart texts parts second others =>
      rw [String.intercalate_cons_cons, List.intercalate_cons_cons]
      refine ⟨fun rest ends => ?_, fun short => ?_⟩
      -- A separator begins with a mark, so that a word in front of it ends there.
      · have separator : EndsWord (style.itemSeparator.toList ++
            ((style.itemSeparator.intercalate (next :: texts)).toList ++ rest)) := by
          obtain ⟨spaces, same, -⟩ := separates.items
          rw [same]
          exact endsWord_cons rfl
        rw [String.toList_append, String.toList_append, List.append_assoc, List.append_assoc,
          first.cut _ separator, tokensFrom_itemSeparator separates, ih.cut rest ends]
        simp
      · have firstShort := first.short short
        have restShort := ih.short short
        simp [firstShort, restShort]

theorem between {opening closing : String} {o c : Char} {first last : Token}
    (opens : opening.toList = [o] ∧ start? o = some ([first], .between))
    (closes : closing.toList = [c] ∧ start? c = some ([last], .between))
    (apart : isWordChar c = false) (known : first ≠ .oversized ∧ last ≠ .oversized)
    (inner : CutInto style text tokens) :
    CutInto style (opening ++ text ++ closing) (first :: tokens ++ [last]) where
  cut rest ends := by
    have begins (cs : List Char) : tokensFrom .between (o :: cs) =
        first :: tokensFrom .between cs := by rw [tokensFrom, opens.2]; rfl
    have finishes (cs : List Char) : tokensFrom .between (c :: cs) =
        last :: tokensFrom .between cs := by rw [tokensFrom, closes.2]; rfl
    simp only [String.toList_append, opens.1, closes.1, List.cons_append, List.nil_append,
      List.append_assoc, begins, inner.cut _ (endsWord_cons apart), finishes]
  short isShort := by
    have innerShort := inner.short isShort
    simp [innerShort, known.1.symm, known.2.symm]

theorem list (separates : style.Separates) {texts : List String} {parts : List (List Token)}
    (each : List.Forall₂ (CutInto style) texts parts) :
    CutInto style (write.bracket style texts)
      (.openList :: [Token.comma].intercalate parts ++ [.closeList]) :=
  between ⟨rfl, rfl⟩ ⟨rfl, rfl⟩ rfl (by simp) (intercalate separates each)

theorem map (separates : style.Separates) {texts : List String} {parts : List (List Token)}
    (each : List.Forall₂ (CutInto style) texts parts) :
    CutInto style ("\x7b" ++ style.itemSeparator.intercalate texts ++ "\x7d")
      (.openMap :: [Token.comma].intercalate parts ++ [.closeMap]) :=
  between ⟨rfl, rfl⟩ ⟨rfl, rfl⟩ rfl (by simp) (intercalate separates each)

theorem entry (separates : style.Separates) (key : String) (inner : CutInto style text tokens) :
    CutInto style (quote style.asciiOnly key ++ style.keySeparator ++ text)
      (.text key :: .colon :: tokens) where
  cut rest ends := by
    rw [String.toList_append, String.toList_append, List.append_assoc, List.append_assoc,
      tokensFrom_quote, tokensFrom_keySeparator separates, inner.cut rest ends]
    rfl
  short isShort := by
    have innerShort := inner.short isShort
    simp [innerShort]

end CutInto

theorem cutInto_integer {style : Style} {n : Int} {text : String}
    (written : writeInteger style n = .ok text) : CutInto style text [integerToken n] := by
  simp only [writeInteger] at written
  split at written
  next => cases written
  next admitted =>
    cases written
    have nonempty : (toString n).toList ≠ [] := by
      rw [toList_toString]
      exact List.append_ne_nil_of_right_ne_nil _ Nat.toDigits_ne_nil
    refine ⟨fun rest ends => ?_, fun short => ?_⟩
    · rw [tokensFrom_between_word nonempty (all_isWordChar_integer n) ends, word_integer]
      rfl
    · rw [short] at admitted
      have fits : ¬digitLimit < (toString n.natAbs).length := by simpa using admitted
      rw [integerToken, if_neg fits]
      simp

mutual

/-- A written value is cut into the tokens of its structure. -/
theorem write_cutInto {style : Style} (separates : style.Separates) (value : Value) {text : String}
    (written : write style value = .ok text) : CutInto style text (spelled value) := by
  match value with
  | .null => cases written; exact .ofWord (by decide) rfl
  | .bool b => cases written; cases b <;> exact .ofWord (by decide) rfl
  | .int n => exact cutInto_integer written
  | .real x => cases written; exact .ofWord (all_isWordChar_real x) (word_real x)
  | .text s => cases written; exact .ofQuote s
  | .list items =>
    simp only [write, except_map_eq_ok] at written
    obtain ⟨texts, each, rfl⟩ := written
    exact .list separates (writeItems_cutInto separates items each)
  | .tuple items =>
    simp only [write, except_map_eq_ok] at written
    obtain ⟨texts, each, rfl⟩ := written
    exact .list separates (writeItems_cutInto separates items each)
  | .map entries =>
    simp only [write, except_map_eq_ok] at written
    obtain ⟨texts, each, rfl⟩ := written
    exact .map separates (writeEntries_cutInto separates entries each)
  | .bytes _ => cases written
  | .timestamp _ => cases written
  | .decimal _ => cases written

theorem writeItems_cutInto {style : Style} (separates : style.Separates) (items : List Value)
    {texts : List String} (written : writeItems style items = .ok texts) :
    List.Forall₂ (CutInto style) texts (spelledItems items) := by
  match items with
  | [] => cases written; exact .nil
  | item :: rest =>
    simp only [writeItems, bind_eq_ok, pure_eq_ok] at written
    obtain ⟨text, first, texts, others, rfl⟩ := written
    exact .cons (write_cutInto separates item first) (writeItems_cutInto separates rest others)

theorem writeEntries_cutInto {style : Style} (separates : style.Separates)
    (entries : List (String × Value)) {texts : List String}
    (written : writeEntries style entries = .ok texts) :
    List.Forall₂ (CutInto style) texts (spelledEntries entries) := by
  match entries with
  | [] => cases written; exact .nil
  | (key, value) :: rest =>
    simp only [writeEntries, bind_eq_ok, pure_eq_ok] at written
    obtain ⟨text, first, texts, others, rfl⟩ := written
    exact .cons (.entry separates key (write_cutInto separates value first))
      (writeEntries_cutInto separates rest others)

end

end TableSearch.Json
