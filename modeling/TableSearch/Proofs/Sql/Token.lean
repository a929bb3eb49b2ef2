import TableSearch.Sql.Fragment

/-!
# The tokens of SQL

How a database reads the text of a statement: quoted names, numbered
placeholders, words, operators and punctuation.  A quote opens a name, which
ends at the first quote that is not doubled; only there may a name of the caller
stand.

`tokensFrom_append` lets a text be read part by part; the letters of a quoted name
and the digits of a placeholder never leave their token.
-/

namespace TableSearch.Sql

/-- A piece of SQL text that is not divided any further. -/
inductive Token where
  /-- A quoted name, without its quotes. -/
  | name (s : String)
  /-- The placeholder of the parameter with this number. -/
  | slot (number : Int)
  /-- A keyword, the name of a type or a function, or a number. -/
  | word (s : String)
  /-- An operator. -/
  | sign (s : String)
  /-- A punctuation character. -/
  | mark (c : Char)
  /-- A name without a closing quote, or a dollar sign without a number. -/
  | broken
deriving DecidableEq, Repr

/-! ## Classes of characters -/

/-- The characters that begin a word or a number.  Letters beyond ASCII are among them. -/
def isWordLetter (c : Char) : Bool := c.isAlphanum || c == '_' || 0x80 ≤ c.toNat

def isSignLetter (c : Char) : Bool := "+-*/<>=~!@#%^&|?".toList.contains c

/-- The characters of a number behind a dollar sign.  Callers choose the first number, and
may choose it below zero. -/
def isSlotLetter (c : Char) : Bool := c.isDigit || c == '-'

def isBlankLetter (c : Char) : Bool := c == ' ' || c == '\n'

def readSlot : List Char → Token
  | '-' :: digits =>
    if digits.isEmpty || !digits.all Char.isDigit then .broken
    else .slot (-(Nat.ofDigitChars 10 digits 0 : Int))
  | digits =>
    if digits.isEmpty || !digits.all Char.isDigit then .broken
    else .slot (Nat.ofDigitChars 10 digits 0 : Nat)

/-! ## Reading -/

/-- Where the reader stands: between tokens, or inside one whose letters so far are kept last
letter first. -/
inductive Mode where
  | between
  | word (letters : List Char)
  | sign (letters : List Char)
  | slot (letters : List Char)
  | quoted (letters : List Char)
  /-- Behind a quote inside a name, which ends the name or is the first of two. -/
  | closing (letters : List Char)
deriving DecidableEq

namespace Mode

/-- The mode after a character that belongs to the token under way. -/
def extend? : Mode → Char → Option Mode
  | between, _ => none
  | word letters, c => if isWordLetter c || c == '$' then some (word (c :: letters)) else none
  | sign letters, c => if isSignLetter c then some (sign (c :: letters)) else none
  | slot letters, c => if isSlotLetter c then some (slot (c :: letters)) else none
  | quoted letters, c => if c = '"' then some (closing letters) else some (quoted (c :: letters))
  | closing letters, c => if c = '"' then some (quoted ('"' :: letters)) else none

def finish : Mode → List Token
  | between => []
  | word letters => [.word (String.ofList letters.reverse)]
  | sign letters => [.sign (String.ofList letters.reverse)]
  | slot letters => [readSlot letters.reverse]
  | quoted _ => [.broken]
  | closing letters => [.name (String.ofList letters.reverse)]

def begin (c : Char) : List Token × Mode :=
  if c = '"' then ([], quoted [])
  else if c = '$' then ([], slot [])
  else if isWordLetter c then ([], word [c])
  else if isSignLetter c then ([], sign [c])
  else if isBlankLetter c then ([], between)
  else ([.mark c], between)

/-- The mode after several characters that all belong to the token under way. -/
def reach? (mode : Mode) (letters : List Char) : Option Mode := letters.foldlM extend? mode

def after : Mode → List Char → Mode
  | mode, [] => mode
  | mode, c :: rest =>
    match mode.extend? c with
    | some mode => mode.after rest
    | none => (begin c).2.after rest

end Mode

def tokensFrom : Mode → List Char → List Token
  | mode, [] => mode.finish
  | mode, c :: rest =>
    match mode.extend? c with
    | some mode => tokensFrom mode rest
    | none => mode.finish ++ (Mode.begin c).1 ++ tokensFrom (Mode.begin c).2 rest

def tokens (text : String) : List Token := tokensFrom .between text.toList

/-! ## Reading one text behind another -/

/-- A character that cannot belong to the token under way ends it. -/
theorem tokensFrom_of_extend?_eq_none {mode : Mode} {c : Char} (ends : mode.extend? c = none)
    (rest : List Char) :
    tokensFrom mode (c :: rest) = mode.finish ++ tokensFrom .between (c :: rest) := by
  have between : Mode.between.extend? c = none := rfl
  simp only [tokensFrom, ends, between]
  simp [Mode.finish]

/-- Reading a text leaves some tokens complete, and the one under way is in the mode. -/
theorem tokensFrom_append (mode : Mode) (front : List Char) :
    ∃ complete, tokensFrom mode front = complete ++ (mode.after front).finish ∧
      ∀ rest, tokensFrom mode (front ++ rest) = complete ++ tokensFrom (mode.after front) rest := by
  -- `complete` are the tokens that end inside `front`; only the one under way depends on what
  -- follows.
  induction front generalizing mode with
  | nil => exact ⟨[], by simp [tokensFrom, Mode.after], fun rest => by simp [Mode.after]⟩
  | cons c front ih =>
    cases extended : mode.extend? c with
    | some next =>
      obtain ⟨complete, atEnd, onward⟩ := ih next
      refine ⟨complete, ?_, fun rest => ?_⟩
      · simpa [tokensFrom, Mode.after, extended] using atEnd
      · simpa [tokensFrom, Mode.after, extended] using onward rest
    | none =>
      obtain ⟨complete, atEnd, onward⟩ := ih (Mode.begin c).2
      refine ⟨mode.finish ++ (Mode.begin c).1 ++ complete, ?_, fun rest => ?_⟩
      · simp [tokensFrom, Mode.after, extended, atEnd]
      · simp [tokensFrom, Mode.after, extended, onward]

theorem Mode.reach?_cons_eq_some {mode next : Mode} {c : Char} {rest : List Char} :
    mode.reach? (c :: rest) = some next ↔
      ∃ extended, mode.extend? c = some extended ∧ extended.reach? rest = some next := by
  simp [reach?, List.foldlM_cons, Option.bind_eq_some_iff]

theorem tokensFrom_of_reach? {mode next : Mode} {front : List Char}
    (reached : mode.reach? front = some next) (rest : List Char) :
    tokensFrom mode (front ++ rest) = tokensFrom next rest := by
  induction front generalizing mode with
  | nil =>
    obtain rfl : mode = next := by simpa [Mode.reach?] using reached
    rfl
  | cons c front ih =>
    obtain ⟨extended, extends_, onward⟩ := Mode.reach?_cons_eq_some.mp reached
    simp only [List.cons_append, tokensFrom, extends_]
    exact ih onward

theorem after_of_reach? {mode next : Mode} {front : List Char}
    (reached : mode.reach? front = some next) : mode.after front = next := by
  induction front generalizing mode with
  | nil => simpa [Mode.reach?, Mode.after] using reached
  | cons c front ih =>
    obtain ⟨extended, extends_, onward⟩ := Mode.reach?_cons_eq_some.mp reached
    simp only [Mode.after, extends_]
    exact ih onward

/-! ## Names -/

/-- The characters of a name as they stand between its quotes. -/
def doubled (letters : List Char) : List Char :=
  letters.flatMap fun c => if c = '"' then ['"', '"'] else [c]

theorem toList_quoteName (name : String) :
    (quoteName name).toList = '"' :: (doubled name.toList ++ ['"']) := by
  simp [quoteName, doubled]

theorem reach?_doubled (letters read : List Char) :
    (Mode.quoted read).reach? (doubled letters) = some (.quoted (letters.reverse ++ read)) := by
  induction letters generalizing read with
  | nil => rfl
  | cons c letters ih =>
    have onward := ih (c :: read)
    by_cases quote : c = '"'
    · subst quote
      simpa [Mode.reach?, Mode.extend?, doubled] using onward
    · simpa [Mode.reach?, Mode.extend?, doubled, quote] using onward

theorem reach?_quoteName (name : String) :
    (Mode.quoted []).reach? (doubled name.toList ++ ['"']) = some (.closing name.toList.reverse) := by
  have inside := reach?_doubled name.toList []
  simp only [Mode.reach?] at inside ⊢
  simp [List.foldlM_append, inside, Mode.extend?]

/-! ## Placeholders -/

theorem toDigits_isDigit (n : Nat) : ∀ c ∈ Nat.toDigits 10 n, c.isDigit = true :=
  fun _ member => Nat.isDigit_of_mem_toDigits (by decide) (by decide) member

theorem toList_toString (number : Int) :
    (toString number).toList =
      if 0 ≤ number then Nat.toDigits 10 number.toNat
      else '-' :: Nat.toDigits 10 (-number).toNat := by
  rw [Int.toString_eq_repr, Int.repr_eq_if]
  split <;> simp

theorem readSlot_of_digits {digits : List Char} (nonempty : digits ≠ [])
    (allDigits : ∀ c ∈ digits, c.isDigit = true) :
    readSlot digits = .slot (Nat.ofDigitChars 10 digits 0 : Nat) := by
  have checked : (digits.isEmpty || !digits.all Char.isDigit) = false := by
    simpa [nonempty] using allDigits
  unfold readSlot
  split
  -- A minus in front would be one of the digits.
  next rest => exact absurd (allDigits '-' (by simp)) (by decide)
  next => rw [checked]; rfl

theorem readSlot_toString (number : Int) : readSlot (toString number).toList = .slot number := by
  rw [toList_toString]
  split
  next natural =>
    rw [readSlot_of_digits Nat.toDigits_ne_nil (toDigits_isDigit _)]
    simp [Int.toNat_of_nonneg natural]
  next negative =>
    have checked : ((Nat.toDigits 10 (-number).toNat).isEmpty ||
        !(Nat.toDigits 10 (-number).toNat).all Char.isDigit) = false := by
      simpa [Nat.toDigits_ne_nil] using toDigits_isDigit (-number).toNat
    simp only [readSlot, checked, Nat.ofDigitChars_ten_toDigits]
    have nonneg : ((-number).toNat : Int) = -number := Int.toNat_of_nonneg (by omega)
    simp [nonneg]

theorem toString_isSlotLetter (number : Int) :
    ∀ c ∈ (toString number).toList, isSlotLetter c = true := by
  intro c member
  rw [toList_toString] at member
  split at member
  next => simp [isSlotLetter, toDigits_isDigit _ c member]
  next =>
    rcases List.mem_cons.mp member with rfl | member
    · decide
    · simp [isSlotLetter, toDigits_isDigit _ c member]

theorem reach?_slot (letters read : List Char) (slots : ∀ c ∈ letters, isSlotLetter c = true) :
    (Mode.slot read).reach? letters = some (.slot (letters.reverse ++ read)) := by
  induction letters generalizing read with
  | nil => rfl
  | cons c letters ih =>
    have onward := ih (c :: read) fun d member => slots d (by simp [member])
    simpa [Mode.reach?, Mode.extend?, slots c (by simp)] using onward

end TableSearch.Sql
