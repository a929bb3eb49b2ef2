import Mathlib.Data.List.Forall2
import TableSearch.Proofs.Sql.Token

/-!
# Reading fragments

The text of a fragment is read piece by piece as long as no piece runs into the
next one.  `Fragment.isParted` checks this on the pieces alone, without regard to
the names and the numbers in them, and `Fragment.tokens_text` is the main fact: the
text of a parted fragment has exactly the tokens of its pieces.
-/

namespace TableSearch.Sql

/-! ## Pieces -/

namespace Piece

def tokens : Piece → List Token
  | fixed s => Sql.tokens s
  | name s => [.name s]
  | slot number => [.slot number]

def mode (piece : Piece) : Mode := Mode.between.after piece.text.toList

@[simp] theorem mode_name (s : String) : (name s).mode = .closing s.toList.reverse := by
  simp only [mode, text, toList_quoteName]
  change (Mode.quoted []).after (doubled s.toList ++ ['"']) = _
  exact after_of_reach? (reach?_quoteName s)

@[simp] theorem mode_slot (number : Int) :
    (slot number).mode = .slot (toString number).toList.reverse := by
  have reached := reach?_slot (toString number).toList [] (toString_isSlotLetter number)
  simp only [mode, text, String.toList_append]
  change (Mode.slot []).after (toString number).toList = _
  simpa using after_of_reach? reached

theorem tokens_text (piece : Piece) : Sql.tokens piece.text = piece.tokens := by
  cases piece with
  | fixed s => rfl
  | name s =>
    have read := tokensFrom_of_reach? (reach?_quoteName s) []
    simp only [Sql.tokens, text, toList_quoteName]
    change tokensFrom (Mode.quoted []) (doubled s.toList ++ ['"']) = _
    simpa [tokensFrom, Mode.finish, tokens] using read
  | slot number =>
    have reached := reach?_slot (toString number).toList [] (toString_isSlotLetter number)
    have read := tokensFrom_of_reach? reached []
    simp only [Sql.tokens, text, String.toList_append]
    change tokensFrom (Mode.slot []) (toString number).toList = _
    simpa only [List.append_nil, tokensFrom, Mode.finish, List.reverse_reverse,
      readSlot_toString, tokens] using read

end Piece

/-! ## Fragments -/

/-- A character that ends every token but an open name. -/
def isDelimiter (c : Char) : Bool :=
  !(c == '"' || c == '$' || isWordLetter c || isSignLetter c)

theorem extend?_of_isDelimiter {mode : Mode} {c : Char} (delimiter : isDelimiter c = true)
    (closed : ∀ letters, mode ≠ .quoted letters) : mode.extend? c = none := by
  simp only [isDelimiter, Bool.not_eq_true', Bool.or_eq_false_iff] at delimiter
  obtain ⟨⟨⟨noQuote, noDollar⟩, noWord⟩, noSign⟩ := delimiter
  -- A placeholder goes on with digits, which are among the letters of words, and with the minus,
  -- which is among the signs.
  have noSlot : isSlotLetter c = false := by
    simp only [isSlotLetter, Bool.or_eq_false_iff]
    constructor
    · simp only [isWordLetter, Char.isAlphanum, Bool.or_eq_false_iff] at noWord
      exact noWord.1.1.2
    · cases minus : c == '-' with
      | false => rfl
      | true => rw [beq_iff_eq.mp minus] at noSign; exact absurd noSign (by decide)
  cases mode with
  | quoted letters => exact absurd rfl (closed letters)
  | _ => simp_all [Mode.extend?]

namespace Piece

def opens : Piece → Bool
  | fixed s =>
    match s.toList with
    | c :: _ => isDelimiter c
    | [] => false
  | _ => false

/-- Whether nothing that follows can belong to the last token of a piece. -/
def isFree : Piece → Bool
  | fixed s => decide (Mode.between.after s.toList = .between)
  | _ => false

def isClosed : Piece → Bool
  | fixed s => !(Sql.tokens s).contains .broken
  | _ => true

theorem mode_eq_between {piece : Piece} (free : piece.isFree = true) : piece.mode = .between := by
  cases piece with
  | fixed s => simpa [isFree, mode, text] using free
  | name s => simp [isFree] at free
  | slot number => simp [isFree] at free

theorem mode_ne_quoted {piece : Piece} (closed : piece.isClosed = true) (letters : List Char) :
    piece.mode ≠ .quoted letters := by
  cases piece with
  | fixed s =>
    intro quoted
    have quoted : Mode.between.after s.toList = .quoted letters := quoted
    obtain ⟨complete, atEnd, -⟩ := tokensFrom_append .between s.toList
    have broken : Sql.tokens s = complete ++ [.broken] := by
      rw [Sql.tokens, atEnd, quoted]
      rfl
    simp [isClosed, broken] at closed
  | name s => simp
  | slot number => simp

end Piece

namespace Fragment

/-- Whether each piece is set apart from the one before it: it begins with a delimiter, or it
follows a piece behind which a token may begin.  `free` says so of what stands in front. -/
def isParted (free : Bool) : Fragment → Bool
  | [] => true
  | piece :: rest => (free || piece.opens) && piece.isClosed && isParted piece.isFree rest

def endsFree (free : Bool) : Fragment → Bool
  | [] => free
  | piece :: rest => endsFree piece.isFree rest

def tokens (fragment : Fragment) : List Token := fragment.flatMap Piece.tokens

@[simp] theorem tokens_append (front rest : Fragment) :
    tokens (front ++ rest) = tokens front ++ tokens rest := List.flatMap_append

@[simp] theorem isParted_append (free : Bool) (front rest : Fragment) :
    isParted free (front ++ rest) = (isParted free front && isParted (endsFree free front) rest) := by
  induction front generalizing free with
  | nil => simp [isParted, endsFree]
  | cons piece front ih => simp [isParted, endsFree, ih, Bool.and_assoc]

theorem tokensFrom_text {mode : Mode} {free : Bool} {fragment : Fragment}
    (parted : isParted free fragment = true) (between : free = true → mode = .between)
    (closed : ∀ letters, mode ≠ .quoted letters) :
    tokensFrom mode fragment.text.toList = mode.finish ++ fragment.tokens := by
  -- From the left: the mode in front of a piece is all that the pieces before it leave behind.
  induction fragment generalizing mode free with
  | nil => simp [text, tokens, tokensFrom]
  | cons piece rest ih =>
    simp only [isParted, Bool.and_eq_true, Bool.or_eq_true] at parted
    obtain ⟨⟨apart, pieceClosed⟩, restParted⟩ := parted
    have restRead := ih restParted Piece.mode_eq_between (Piece.mode_ne_quoted pieceClosed)
    obtain ⟨complete, atEnd, onward⟩ := tokensFrom_append .between piece.text.toList
    have whole : tokensFrom .between (piece.text.toList ++ (text rest).toList) =
        piece.tokens ++ tokens rest := by
      rw [onward, ← Piece.tokens_text, Sql.tokens, atEnd]
      simpa [Piece.mode] using restRead
    have split : (text (piece :: rest)).toList = piece.text.toList ++ (text rest).toList := by
      simp [text]
    rw [split]
    rcases apart with isFree | opens
    · rw [between isFree, whole]
      rfl
    · -- the first letter of the piece ends the token in front of it
      cases piece with
      | fixed s =>
        cases letters : s.toList with
        | nil => simp [Piece.opens, letters] at opens
        | cons c letters' =>
          simp only [Piece.opens, letters] at opens
          simp only [Piece.text, letters, List.cons_append] at whole ⊢
          rw [tokensFrom_of_extend?_eq_none (extend?_of_isDelimiter opens closed), whole]
          rfl
      | name s => simp [Piece.opens] at opens
      | slot number => simp [Piece.opens] at opens

/-- The text of a fragment is read as the tokens of its pieces. -/
theorem tokens_text {fragment : Fragment} (parted : fragment.isParted true = true) :
    Sql.tokens fragment.text = fragment.tokens := by
  have read : tokensFrom .between fragment.text.toList = Mode.between.finish ++ fragment.tokens :=
    tokensFrom_text parted (fun _ => rfl) (by simp)
  simpa [Sql.tokens, Mode.finish] using read

/-- The tokens of a parted fragment are complete. -/
theorem broken_not_mem_tokens {free : Bool} {fragment : Fragment}
    (parted : isParted free fragment = true) : Token.broken ∉ fragment.tokens := by
  induction fragment generalizing free with
  | nil => simp [tokens]
  | cons piece rest ih =>
    simp only [isParted, Bool.and_eq_true] at parted
    obtain ⟨⟨-, closed⟩, restParted⟩ := parted
    have own : Token.broken ∉ piece.tokens := by
      cases piece with
      | fixed s =>
        have closed : Token.broken ∉ Sql.tokens s := by simpa [Piece.isClosed] using closed
        exact closed
      | name s => simp [Piece.tokens]
      | slot number => simp [Piece.tokens]
    simpa [tokens, List.flatMap_cons, own] using ih restParted

/-! ## Joined fragments -/

/-- A text that ends what is in front of it and lets a token begin behind it. -/
structure Separates (separator : String) : Prop where
  opens : (Piece.fixed separator).opens = true
  isClosed : (Piece.fixed separator).isClosed = true
  isFree : (Piece.fixed separator).isFree = true

theorem separates_comma : Separates ", " := ⟨by decide, by decide, by decide⟩

theorem separates_line : Separates "\n" := ⟨by decide, by decide, by decide⟩

theorem isParted_join {separator : String} (separates : Separates separator)
    {fragments : List Fragment} (parted : ∀ fragment ∈ fragments, fragment.isParted true = true) :
    (join separator fragments).isParted true = true := by
  fun_induction join separator fragments with
  | case1 => rfl
  | case2 only => exact parted only (by simp)
  | case3 first rest notSingle ih =>
    have restParted := ih fun fragment member => parted fragment (by simp [member])
    simp [parted first (by simp), isParted, separates.opens, separates.isClosed, separates.isFree,
      restParted]

theorem tokens_join (separator : String) (fragments : List Fragment) :
    tokens (join separator fragments) =
      (Sql.tokens separator).intercalate (fragments.map tokens) := by
  fun_induction join separator fragments with
  | case1 => rfl
  | case2 only => simp [List.intercalate]
  | case3 first rest notSingle ih =>
    cases rest with
    | nil => exact absurd rfl notSingle
    | cons second rest =>
      -- The last fragment has no separator behind it, so the rest is opened once more.
      simp only [tokens_append, List.map_cons] at ih ⊢
      simp only [tokens, List.flatMap_cons] at ih ⊢
      rw [ih]
      simp [List.intercalate, List.intersperse, Piece.tokens]

theorem tokens_lines (fragments : List Fragment) :
    tokens (join "\n" fragments) = fragments.flatMap tokens := by
  have blank : Sql.tokens "\n" = [] := by decide
  rw [tokens_join, blank, List.flatMap_def]
  induction fragments.map tokens with
  | nil => rfl
  | cons first rest ih => cases rest <;> simp_all [List.intercalate, List.intersperse]

theorem isParted_inParens {free : Bool} {fragment : Fragment}
    (parted : fragment.isParted true = true) : fragment.inParens.isParted free = true := by
  have opening : (Piece.fixed "(").opens = true ∧ (Piece.fixed "(").isClosed = true ∧
      (Piece.fixed "(").isFree = true := by decide
  have closing : (Piece.fixed ")").opens = true ∧ (Piece.fixed ")").isClosed = true := by decide
  simp [inParens, isParted, opening, closing, parted]

theorem tokens_inParens (fragment : Fragment) :
    tokens fragment.inParens = .mark '(' :: tokens fragment ++ [.mark ')'] := by
  simp only [inParens, tokens, List.flatMap_cons, List.flatMap_append]
  rfl

/-! ## Spelling -/

def opens : Fragment → Bool
  | [] => true
  | piece :: _ => piece.opens

theorem isParted_of_opens {fragment : Fragment} (opened : fragment.opens = true)
    (parted : fragment.isParted true = true) (free : Bool) : fragment.isParted free = true := by
  cases fragment with
  | nil => rfl
  | cons piece rest =>
    have opened : piece.opens = true := opened
    simpa [isParted, opened] using parted

/-- A fragment whose text is read as some tokens. -/
structure Spells (fragment : Fragment) (tokens : List Token) : Prop where
  parted : fragment.isParted true = true
  tokens : fragment.tokens = tokens

namespace Spells

variable {fragment rest : Fragment} {tokens more : List Token}

theorem read (spells : Spells fragment tokens) : Sql.tokens fragment.text = tokens :=
  (tokens_text spells.parted).trans spells.tokens

theorem unbroken (spells : Spells fragment tokens) : Token.broken ∉ tokens :=
  spells.tokens ▸ broken_not_mem_tokens spells.parted

theorem of_eq {other : Fragment} {others : List Token} (spells : Spells fragment tokens)
    (sameFragment : other = fragment) (sameTokens : others = tokens) : Spells other others := by
  rw [sameFragment, sameTokens]
  exact spells

/-- One fragment behind another, when a token may begin there or a delimiter does. -/
theorem append (spells : Spells fragment tokens) (behind : Spells rest more)
    (apart : fragment.endsFree true = true ∨ rest.opens = true) :
    Spells (fragment ++ rest) (tokens ++ more) where
  parted := by
    rw [isParted_append, spells.parted, Bool.true_and]
    rcases apart with free | opened
    · rw [free, behind.parted]
    · exact isParted_of_opens opened behind.parted _
  tokens := by rw [tokens_append, spells.tokens, behind.tokens]

theorem cons {piece : Piece} (behind : Spells fragment tokens) (closed : piece.isClosed = true)
    (apart : piece.isFree = true ∨ fragment.opens = true) :
    Spells (piece :: fragment) (piece.tokens ++ tokens) := by
  have alone : Spells [piece] piece.tokens :=
    ⟨by simp [isParted, closed], by simp [Fragment.tokens]⟩
  exact alone.append behind apart

theorem inParens (spells : Spells fragment tokens) :
    Spells fragment.inParens (.mark '(' :: tokens ++ [.mark ')']) :=
  ⟨isParted_inParens spells.parted, by rw [tokens_inParens, spells.tokens]⟩

theorem of_text {s : String} (read : Sql.tokens s = tokens) (unbroken : Token.broken ∉ tokens) :
    Spells [.fixed s] tokens where
  parted := by
    have closed : (Piece.fixed s).isClosed = true := by
      simpa only [Piece.isClosed, read, Bool.not_eq_true', List.contains_eq_mem,
        decide_eq_false_iff_not] using unbroken
    simp only [isParted, Bool.true_or, closed, Bool.and_self]
  tokens := by simpa only [Fragment.tokens, Piece.tokens, List.flatMap_cons, List.flatMap_nil,
    List.append_nil] using read

theorem fixed (spells : Spells fragment tokens) : Spells [.fixed fragment.text] tokens :=
  of_text spells.read spells.unbroken

/-- Fragments with a separator between each two of them. -/
theorem join {separator : String} (separates : Separates separator) {fragments : List Fragment}
    {parts : List (List Token)} (each : List.Forall₂ Spells fragments parts) :
    Spells (Fragment.join separator fragments) ((Sql.tokens separator).intercalate parts) where
  parted := by
    apply isParted_join separates
    induction each with
    | nil => simp
    | cons first _ ih => simpa [first.parted] using ih
  tokens := by
    rw [tokens_join]
    congr 1
    induction each with
    | nil => rfl
    | cons first _ ih => simp [first.tokens, ih]

/-- Fragments of several things with a separator between each two of them. -/
theorem join_map {α : Type} {separator : String} (separates : Separates separator)
    {fragmentOf : α → Fragment} {tokensOf : α → List Token}
    (each : ∀ thing, Spells (fragmentOf thing) (tokensOf thing)) (things : List α) :
    Spells (Fragment.join separator (things.map fragmentOf))
      ((Sql.tokens separator).intercalate (things.map tokensOf)) := by
  apply join separates
  induction things with
  | nil => exact .nil
  | cons thing rest ih => exact .cons (each thing) ih

theorem lines {fragments : List Fragment}
    (parted : ∀ fragment ∈ fragments, fragment.isParted true = true) :
    Spells (Fragment.join "\n" fragments) (fragments.flatMap Fragment.tokens) :=
  ⟨isParted_join separates_line parted, tokens_lines fragments⟩

end Spells

end Fragment

end TableSearch.Sql
