import Mathlib.Data.List.Infix

/-!
# Patterns

How a database matches a text with a pattern, whatever the case of its letters.  In a pattern a
percent sign stands for any run of characters and an underscore for any single one, and a backslash
takes the character behind it as it is.

A text that is put between percent signs is itself read as a pattern.  What is found then is said by
`Occurrence.answers_closed` and `Occurrence.answers_open`, and which texts are found just where they
occur by `Occurrence.foundLiterally_iff`.
-/

namespace TableSearch.Sql

/-! ## Case -/

/-- The characters that have a meaning of their own in a pattern. -/
def patternSigns : List Char := ['%', '_', '\\']

/-- How case is disregarded: characters are the same if they fold to the same one.  The signs of
patterns have no case, so nothing else folds to what they fold to. -/
structure CaseFold where
  fold : Char → Char
  caseless : ∀ sign ∈ patternSigns, ∀ c, fold c = fold sign → c = sign

def CaseFold.ascii : CaseFold where
  fold := Char.toLower
  caseless := by
    intro sign mem c same
    have fixed : sign.toLower = sign ∧ sign.val.toNat < 97 := by
      simp only [patternSigns, List.mem_cons, List.not_mem_nil, or_false] at mem
      rcases mem with rfl | rfl | rfl <;> decide
    rw [fixed.1] at same
    unfold Char.toLower at same
    split at same
    next upper =>
      -- The small letters come behind all signs.
      have small : sign.val.toNat < 97 := fixed.2
      rw [← same, UInt32.toNat_add] at small
      have above : 65 ≤ c.val.toNat := UInt32.le_iff_toNat_le.mp upper.1
      have below : c.val.toNat ≤ 90 := UInt32.le_iff_toNat_le.mp upper.2
      change (c.val.toNat + 32) % _ < 97 at small
      omega
    next => exact same

/-! ## Matching -/

/-- A part of a pattern. -/
inductive PatternPart where
  /-- Any run of characters, also an empty one. -/
  | run
  /-- Any single character. -/
  | single
  | letter (c : Char)
deriving DecidableEq, Repr

/-- The part that a character stands for where it is not escaped. -/
def PatternPart.ofChar (c : Char) : PatternPart :=
  if c = '%' then run else if c = '_' then single else letter c

theorem PatternPart.ofChar_letter {c : Char} (notRun : c ≠ '%') (notSingle : c ≠ '_') :
    ofChar c = letter c := by
  rw [ofChar, if_neg notRun, if_neg notSingle]

/-- A pattern that has been read. -/
structure Pattern where
  parts : List PatternPart
  /-- Whether it ends with a backslash that has no character to take. -/
  isOpen : Bool
deriving DecidableEq, Repr

namespace Pattern

def cons (part : PatternPart) (pattern : Pattern) : Pattern :=
  { pattern with parts := part :: pattern.parts }

def read (escaped : Bool) : List Char → Pattern
  | [] => ⟨[], escaped⟩
  | c :: rest =>
    if escaped then cons (.letter c) (read false rest)
    else if c = '\\' then read true rest
    else cons (.ofChar c) (read false rest)

/-- Whether the parts of a pattern match a text.  A run tries every end of the text. -/
def isMatch (case : CaseFold) : List PatternPart → List Char → Bool
  | [], text => text.isEmpty
  | .run :: parts, text => text.tails.any (isMatch case parts)
  | .single :: parts, text =>
    match text with
    | [] => false
    | _ :: rest => isMatch case parts rest
  | .letter c :: parts, text =>
    match text with
    | [] => false
    | d :: rest => case.fold c == case.fold d && isMatch case parts rest

end Pattern

/-- Whether a text matches a pattern.  A pattern with an open end is malformed, and there is no
answer to it. -/
def iLike (case : CaseFold) (pattern text : String) : Option Bool :=
  let pattern := Pattern.read false pattern.toList
  if pattern.isOpen then none else some (Pattern.isMatch case pattern.parts text.toList)

example : iLike .ascii "a%\\%_" "ABC%d" = some true := by decide

namespace Pattern

variable {case : CaseFold} {parts : List PatternPart} {text : List Char}

theorem isMatch_run : isMatch case (.run :: parts) text = true ↔
    ∃ rest, rest <:+ text ∧ isMatch case parts rest = true := by
  simp only [isMatch, List.any_eq_true, List.mem_tails]

theorem isMatch_single : isMatch case (.single :: parts) text = true ↔
    ∃ c rest, text = c :: rest ∧ isMatch case parts rest = true := by
  cases text <;> simp [isMatch]

theorem isMatch_letter {c : Char} : isMatch case (.letter c :: parts) text = true ↔
    ∃ d rest, text = d :: rest ∧ case.fold c = case.fold d ∧ isMatch case parts rest = true := by
  cases text <;> simp [isMatch]

/-- A pattern of two halves matches what falls into a match of each. -/
theorem isMatch_append {back : List PatternPart} : isMatch case (parts ++ back) text = true ↔
    ∃ front rest, text = front ++ rest ∧ isMatch case parts front = true ∧
      isMatch case back rest = true := by
  induction parts generalizing text with
  | nil => simp [isMatch]
  | cons part parts ih =>
    cases part with
    | run =>
      simp only [List.cons_append, isMatch_run, ih]
      constructor
      · rintro ⟨_, ⟨skipped, rfl⟩, front, rest, rfl, own, others⟩
        exact ⟨skipped ++ front, rest, by simp, ⟨front, List.suffix_append .., own⟩, others⟩
      · rintro ⟨_, rest, rfl, ⟨front, ⟨skipped, rfl⟩, own⟩, others⟩
        exact ⟨front ++ rest, ⟨skipped, by simp⟩, front, rest, rfl, own, others⟩
    | single =>
      simp only [List.cons_append, isMatch_single, ih]
      constructor
      · rintro ⟨c, _, rfl, front, rest, rfl, own, others⟩
        exact ⟨c :: front, rest, rfl, ⟨c, front, rfl, own⟩, others⟩
      · rintro ⟨_, rest, rfl, ⟨c, front, rfl, own⟩, others⟩
        exact ⟨c, front ++ rest, rfl, front, rest, rfl, own, others⟩
    | letter c =>
      simp only [List.cons_append, isMatch_letter, ih]
      constructor
      · rintro ⟨d, _, rfl, same, front, rest, rfl, own, others⟩
        exact ⟨d :: front, rest, rfl, ⟨d, front, rfl, same, own⟩, others⟩
      · rintro ⟨_, rest, rfl, ⟨d, front, rfl, same, own⟩, others⟩
        exact ⟨d, front ++ rest, rfl, same, front, rest, rfl, own, others⟩

theorem isMatch_only_run : isMatch case [.run] text = true :=
  isMatch_run.mpr ⟨[], List.nil_suffix, rfl⟩

theorem isMatch_letters {letters : List Char} :
    isMatch case (letters.map .letter) text = true ↔
      letters.map case.fold = text.map case.fold := by
  induction letters generalizing text with
  | nil => cases text <;> simp [isMatch]
  | cons c letters ih =>
    cases text with
    | nil => simp [isMatch]
    | cons d text => simp [isMatch, ih]

/-! ## Reading -/

/-- A pattern is read piece by piece, each behind the end of the one before it. -/
theorem read_append (escaped : Bool) (front rest : List Char) :
    read escaped (front ++ rest) =
      ⟨(read escaped front).parts ++ (read (read escaped front).isOpen rest).parts,
        (read (read escaped front).isOpen rest).isOpen⟩ := by
  induction front generalizing escaped with
  | nil => rfl
  | cons c front ih =>
    rw [List.cons_append, read, read]
    -- A character of `front` is taken as it is, taken for an escape, or read as a part.
    split_ifs <;> rw [ih] <;> rfl

theorem read_letters {letters : List Char} (plain : ∀ c ∈ letters, c ∉ patternSigns) :
    read false letters = ⟨letters.map .letter, false⟩ := by
  induction letters with
  | nil => rfl
  | cons c letters ih =>
    obtain ⟨first, others⟩ := List.forall_mem_cons.mp plain
    simp only [patternSigns, List.mem_cons, List.not_mem_nil, or_false, not_or] at first
    obtain ⟨notRun, notSingle, notEscape⟩ := first
    rw [read, if_neg (by decide), if_neg notEscape, ih others,
      PatternPart.ofChar_letter notRun notSingle]
    rfl

/-- A pattern with an open end ends with a backslash. -/
theorem exists_of_isOpen {letters : List Char} (isOpen : (read false letters).isOpen = true) :
    ∃ front, letters = front ++ ['\\'] := by
  rcases List.eq_nil_or_concat letters with rfl | ⟨front, c, rfl⟩
  · cases isOpen
  · rw [List.concat_eq_append, read_append] at isOpen
    simp only [read] at isOpen
    split_ifs at isOpen with escaped isEscape
    · cases isOpen
    · exact ⟨front, by rw [isEscape, List.concat_eq_append]⟩
    · cases isOpen

/-! ## A text that matches -/

def sample : List PatternPart → List Char
  | [] => []
  | .run :: parts => sample parts
  | .single :: parts => 'a' :: sample parts
  | .letter c :: parts => c :: sample parts

theorem isMatch_sample : isMatch case parts (sample parts) = true := by
  induction parts with
  | nil => rfl
  | cons part parts ih =>
    cases part with
    | run => exact isMatch_run.mpr ⟨sample parts, List.suffix_refl _, ih⟩
    | single => exact isMatch_single.mpr ⟨'a', sample parts, rfl, ih⟩
    | letter c => exact isMatch_letter.mpr ⟨c, sample parts, rfl, rfl, ih⟩

theorem length_sample_cons_le (part : PatternPart) (parts : List PatternPart) :
    (sample (part :: parts)).length ≤ (sample parts).length + 1 := by
  cases part <;> simp [sample]

/-- A pattern is not shorter than its shortest match. -/
theorem length_sample_le (escaped : Bool) (letters : List Char) :
    (sample (read escaped letters).parts).length ≤ letters.length := by
  induction letters generalizing escaped with
  | nil => exact Nat.le_refl 0
  | cons c letters ih =>
    rw [read]
    split_ifs
    · exact (length_sample_cons_le _ _).trans (Nat.succ_le_succ (ih false))
    · exact Nat.le_succ_of_le (ih true)
    · exact (length_sample_cons_le _ _).trans (Nat.succ_le_succ (ih false))

/-- A pattern that its shortest match spells has no signs: a percent sign or a backslash would make
the match shorter, and an underscore is matched by other characters. -/
theorem plain_of_sample {letters : List Char}
    (spelled : letters.map case.fold = (sample (read false letters).parts).map case.fold) :
    ∀ c ∈ letters, c ∉ patternSigns := by
  induction letters with
  | nil => simp
  | cons c letters ih =>
    -- The lengths rule out a run and a backslash, each of which matches by less than it is written
    -- with.
    have sameLength : letters.length + 1 = (sample (read false (c :: letters)).parts).length := by
      simpa using congrArg List.length spelled
    rw [read, if_neg (by decide)] at spelled sameLength
    by_cases isEscape : c = '\\'
    · have short := length_sample_le true letters
      rw [if_pos isEscape] at sameLength
      omega
    rw [if_neg isEscape] at spelled sameLength
    by_cases isRun : c = '%'
    · have short := length_sample_le false letters
      subst isRun
      change letters.length + 1 = (sample (read false letters).parts).length at sameLength
      omega
    by_cases isSingle : c = '_'
    · subst isSingle
      have first : case.fold '_' = case.fold 'a' := (List.cons.inj spelled).1
      exact absurd (case.caseless '_' (by decide) 'a' first.symm) (by decide)
    rw [PatternPart.ofChar_letter isRun isSingle] at spelled
    refine List.forall_mem_cons.mpr ⟨?_, ih (List.cons.inj spelled).2⟩
    simp [patternSigns, isRun, isSingle, isEscape]

end Pattern

/-! ## Texts inside of patterns -/

/-- Where a text is looked for in another one. -/
inductive Occurrence where
  | anywhere
  | atFront
  | atEnd
deriving DecidableEq, Repr

namespace Occurrence

/-- Whether a list stands in another one at the right place. -/
def Occurs {α : Type} : Occurrence → List α → List α → Prop
  | anywhere, part, whole => part <:+: whole
  | atFront, part, whole => part <+: whole
  | atEnd, part, whole => part <:+ whole

/-- The pattern with a run wherever there may be more than the text that is looked for. -/
def wrap (occurrence : Occurrence) (operand : String) : String :=
  match occurrence with
  | anywhere => "%" ++ operand ++ "%"
  | atFront => operand ++ "%"
  | atEnd => "%" ++ operand

variable (occurrence : Occurrence)

theorem occurs_refl {α : Type} (whole : List α) : occurrence.Occurs whole whole := by
  cases occurrence with
  | anywhere => exact List.infix_refl whole
  | atFront => exact List.prefix_refl whole
  | atEnd => exact List.suffix_refl whole

theorem occurs_map_iff {α β : Type} {f : α → β} {part : List β} {whole : List α} :
    occurrence.Occurs part (whole.map f) ↔
      ∃ own, occurrence.Occurs own whole ∧ part = own.map f := by
  cases occurrence with
  | anywhere => exact List.infix_map_iff
  | atFront => exact List.prefix_map_iff
  | atEnd => exact List.suffix_map_iff

variable {occurrence} in
theorem Occurs.eq_of_length_le {α : Type} {part whole : List α}
    (occurs : occurrence.Occurs part whole) (short : whole.length ≤ part.length) :
    part = whole := by
  cases occurrence with
  | anywhere => exact List.IsInfix.eq_of_length_le occurs short
  | atFront => exact List.IsPrefix.eq_of_length_le occurs short
  | atEnd => exact List.IsSuffix.eq_of_length_le occurs short

end Occurrence

/-- An answer that is given, and that is yes just when something holds. -/
def Answers (answer : Option Bool) (holds : Prop) : Prop :=
  ∃ b, answer = some b ∧ (b = true ↔ holds)

namespace Pattern

variable {case : CaseFold} {parts : List PatternPart} {text : List Char}

theorem isMatch_before_run : isMatch case (parts ++ [.run]) text = true ↔
    ∃ part, part <+: text ∧ isMatch case parts part = true := by
  rw [isMatch_append]
  constructor
  · rintro ⟨front, rest, rfl, own, -⟩
    exact ⟨front, List.prefix_append _ _, own⟩
  · rintro ⟨part, ⟨rest, rfl⟩, own⟩
    exact ⟨part, rest, rfl, own, isMatch_only_run⟩

theorem isMatch_between_runs : isMatch case (.run :: (parts ++ [.run])) text = true ↔
    ∃ part, part <:+: text ∧ isMatch case parts part = true := by
  simp only [isMatch_run, isMatch_before_run, List.infix_iff_prefix_suffix]
  constructor
  · rintro ⟨rest, inside, part, front, own⟩
    exact ⟨part, ⟨rest, front, inside⟩, own⟩
  · rintro ⟨part, ⟨rest, front, inside⟩, own⟩
    exact ⟨rest, inside, part, front, own⟩

/-- A percent sign behind a backslash stands for itself. -/
theorem isMatch_before_percent : isMatch case (parts ++ [.letter '%']) text = true ↔
    ∃ part, text = part ++ ['%'] ∧ isMatch case parts part = true := by
  rw [isMatch_append]
  constructor
  · rintro ⟨part, rest, rfl, own, last⟩
    obtain ⟨c, rest, rfl, same, others⟩ := isMatch_letter.mp last
    -- Nothing but the sign itself folds to it.
    obtain rfl : c = '%' := case.caseless '%' (by decide) c same.symm
    obtain rfl : rest = [] := by simpa [isMatch] using others
    exact ⟨part, rfl, own⟩
  · rintro ⟨part, rfl, own⟩
    exact ⟨part, ['%'], rfl, own, isMatch_letter.mpr ⟨'%', [], rfl, rfl, rfl⟩⟩

end Pattern

theorem iLike_of_read {case : CaseFold} {pattern : String} {parts : List PatternPart}
    (read : Pattern.read false pattern.toList = ⟨parts, false⟩) (text : String) :
    iLike case pattern text = some (Pattern.isMatch case parts text.toList) := by
  rw [iLike, read]
  rfl

namespace Occurrence

variable (case : CaseFold) (occurrence : Occurrence) (operand text : String)

theorem toList_wrap : (occurrence.wrap operand).toList =
    match occurrence with
    | anywhere => '%' :: (operand.toList ++ ['%'])
    | atFront => operand.toList ++ ['%']
    | atEnd => '%' :: operand.toList := by
  cases occurrence <;> simp [wrap]

/-- A text is looked for as the pattern that it spells, unless its end is open. -/
theorem answers_closed (closed : (Pattern.read false operand.toList).isOpen = false) :
    Answers (iLike case (occurrence.wrap operand) text)
      (∃ part, occurrence.Occurs part text.toList ∧
        Pattern.isMatch case (Pattern.read false operand.toList).parts part = true) := by
  have own : Pattern.read false operand.toList =
      ⟨(Pattern.read false operand.toList).parts, false⟩ := congrArg (Pattern.mk _) closed
  have behind : Pattern.read false (operand.toList ++ ['%']) =
      ⟨(Pattern.read false operand.toList).parts ++ [.run], false⟩ := by
    rw [Pattern.read_append, closed]
    rfl
  cases occurrence with
  | anywhere =>
    refine ⟨_, iLike_of_read ?_ text, Pattern.isMatch_between_runs⟩
    exact (congrArg _ (toList_wrap anywhere operand)).trans (congrArg (Pattern.cons .run) behind)
  | atFront =>
    refine ⟨_, iLike_of_read ?_ text, Pattern.isMatch_before_run⟩
    exact (congrArg _ (toList_wrap atFront operand)).trans behind
  | atEnd =>
    refine ⟨_, iLike_of_read ?_ text, Pattern.isMatch_run⟩
    exact (congrArg _ (toList_wrap atEnd operand)).trans (congrArg (Pattern.cons .run) own)

/-- What is found of a text whose end is open.  It takes the percent sign behind it for itself, so
that a match ends with such a sign and nothing may follow; if there is none, there is no answer. -/
def AnswersOpen : Prop :=
  let parts := (Pattern.read false operand.toList).parts
  let answer := iLike case (occurrence.wrap operand) text
  match occurrence with
  | anywhere => Answers answer
      (∃ part, part ++ ['%'] <:+ text.toList ∧ Pattern.isMatch case parts part = true)
  | atFront => Answers answer
      (∃ part, text.toList = part ++ ['%'] ∧ Pattern.isMatch case parts part = true)
  | atEnd => answer = none

theorem answers_open (isOpen : (Pattern.read false operand.toList).isOpen = true) :
    occurrence.AnswersOpen case operand text := by
  have behind : Pattern.read false (operand.toList ++ ['%']) =
      ⟨(Pattern.read false operand.toList).parts ++ [.letter '%'], false⟩ := by
    rw [Pattern.read_append, isOpen]
    rfl
  cases occurrence with
  | anywhere =>
    have whole : Pattern.read false (anywhere.wrap operand).toList =
        ⟨.run :: ((Pattern.read false operand.toList).parts ++ [.letter '%']), false⟩ :=
      (congrArg _ (toList_wrap anywhere operand)).trans (congrArg (Pattern.cons .run) behind)
    refine ⟨_, iLike_of_read whole text, ?_⟩
    simp only [Pattern.isMatch_run, Pattern.isMatch_before_percent]
    constructor
    · rintro ⟨_, inside, part, rfl, own⟩
      exact ⟨part, inside, own⟩
    · rintro ⟨part, inside, own⟩
      exact ⟨_, inside, part, rfl, own⟩
  | atFront =>
    refine ⟨_, iLike_of_read ?_ text, Pattern.isMatch_before_percent⟩
    exact (congrArg _ (toList_wrap atFront operand)).trans behind
  | atEnd =>
    have stillOpen : (Pattern.read false (atEnd.wrap operand).toList).isOpen = true :=
      (congrArg (fun letters => (Pattern.read false letters).isOpen)
        (toList_wrap atEnd operand)).trans isOpen
    change iLike case (atEnd.wrap operand) text = none
    rw [iLike, stillOpen]
    rfl

/-- Whether a text is found in other texts just where it occurs in them, apart from case. -/
def FoundLiterally : Prop :=
  ∀ text, Answers (iLike case (occurrence.wrap operand) text)
    (occurrence.Occurs (operand.toList.map case.fold) (text.toList.map case.fold))

/-- A text with an open end is not found in itself. -/
theorem not_foundLiterally_of_isOpen
    (isOpen : (Pattern.read false operand.toList).isOpen = true) :
    ¬ occurrence.FoundLiterally case operand := by
  intro found
  obtain ⟨front, ends⟩ := Pattern.exists_of_isOpen isOpen
  obtain ⟨b, answer, means⟩ := found operand
  obtain rfl : b = true := means.mpr (occurrence.occurs_refl _)
  -- A match would end with a percent sign, but the text ends with a backslash.
  have otherSign (skipped part : List Char) (same : skipped ++ (part ++ ['%']) = operand.toList) :
      False := by
    rw [ends, ← List.append_assoc] at same
    exact absurd (List.append_inj_right' same rfl) (by decide)
  have answers := occurrence.answers_open case operand operand isOpen
  cases occurrence with
  | anywhere =>
    obtain ⟨b, answer', means'⟩ := answers
    obtain rfl : true = b := Option.some.inj (answer.symm.trans answer')
    obtain ⟨part, ⟨skipped, same⟩, -⟩ := means'.mp rfl
    exact otherSign skipped part same
  | atFront =>
    obtain ⟨b, answer', means'⟩ := answers
    obtain rfl : true = b := Option.some.inj (answer.symm.trans answer')
    obtain ⟨part, same, -⟩ := means'.mp rfl
    exact otherSign [] part same.symm
  | atEnd => cases answers.symm.trans answer

/-- The texts that are found literally are those without signs of patterns. -/
theorem foundLiterally_iff : occurrence.FoundLiterally case operand ↔
    ∀ c ∈ operand.toList, c ∉ patternSigns := by
  constructor
  · intro found
    cases isOpen : (Pattern.read false operand.toList).isOpen with
    | true => exact absurd found (occurrence.not_foundLiterally_of_isOpen case operand isOpen)
    | false =>
      -- The shortest match is as long as the text itself only if they are the same.
      let shortest := Pattern.sample (Pattern.read false operand.toList).parts
      obtain ⟨b, answer, means⟩ := found (String.ofList shortest)
      obtain ⟨b', answer', means'⟩ := occurrence.answers_closed case operand
        (String.ofList shortest) isOpen
      obtain rfl : b = b' := Option.some.inj (answer.symm.trans answer')
      rw [String.toList_ofList] at means means'
      have occurs := means.mp (means'.mpr
        ⟨shortest, occurrence.occurs_refl _, Pattern.isMatch_sample⟩)
      have short : shortest.length ≤ operand.toList.length := Pattern.length_sample_le false _
      exact Pattern.plain_of_sample (occurs.eq_of_length_le (by simpa using short))
  · intro plain text
    have read := Pattern.read_letters plain
    obtain ⟨b, answer, means⟩ := occurrence.answers_closed case operand text (by rw [read])
    refine ⟨b, answer, means.trans ?_⟩
    rw [read, occurs_map_iff]
    simp only [Pattern.isMatch_letters]

end Occurrence

end TableSearch.Sql
