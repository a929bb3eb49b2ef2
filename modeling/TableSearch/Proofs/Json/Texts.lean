import TableSearch.Json.Token
import TableSearch.Json.Writer

/-!
# Quoted texts are read back

Between quotes a character stands for itself, for a letter behind a backslash, or for its
16-bit units.  The tokenizer reads each of these forms as the units of the character, and
the units of a whole text are joined to that text again.
-/

namespace TableSearch.Json

/-! ## Hexadecimal digits -/

theorem hexValue?_hexDigit {n : Nat} (small : n < 16) :
    Literal.hexValue? (Literal.hexDigit n) = some n := by
  have all : ∀ n < 16, Literal.hexValue? (Literal.hexDigit n) = some n := by decide
  exact all n small

section Reading

variable {points : List Nat} {rest : List Char}

theorem tokensFrom_coded {missing code digit : Nat} (small : digit < 16) (more : 1 < missing) :
    tokensFrom (.coded points missing code) (Literal.hexDigit digit :: rest) =
      tokensFrom (.coded points (missing - 1) (16 * code + digit)) rest := by
  rw [tokensFrom, hexValue?_hexDigit small]
  simp only [Nat.not_le.mpr more, if_false]

theorem tokensFrom_coded_last {code digit : Nat} (small : digit < 16) :
    tokensFrom (.coded points 1 code) (Literal.hexDigit digit :: rest) =
      tokensFrom (.quoted ((16 * code + digit) :: points)) rest := by
  rw [tokensFrom, hexValue?_hexDigit small]
  simp only [Nat.le_refl, if_true]

theorem hex_four (unit : Nat) :
    Literal.hex 4 unit = [Literal.hexDigit (unit / 4096 % 16), Literal.hexDigit (unit / 256 % 16),
      Literal.hexDigit (unit / 16 % 16), Literal.hexDigit (unit % 16)] := by
  simp only [Literal.hex, List.nil_append, List.cons_append, Nat.div_div_eq_div_mul, Nat.reduceMul]

theorem tokensFrom_escapeUnit {unit : Nat} (small : unit < 0x10000) :
    tokensFrom (.quoted points) (escapeUnit unit ++ rest) =
      tokensFrom (.quoted (unit :: points)) rest := by
  have digit (n : Nat) : n % 16 < 16 := Nat.mod_lt _ (by decide)
  have value : 16 * (16 * (16 * (16 * 0 + unit / 4096 % 16) + unit / 256 % 16) + unit / 16 % 16) +
      unit % 16 = unit := by omega
  have begins : tokensFrom (.quoted points) ('\\' :: 'u' :: (Literal.hex 4 unit ++ rest)) =
      tokensFrom (.coded points 4 0) (Literal.hex 4 unit ++ rest) := rfl
  rw [escapeUnit, List.cons_append, List.cons_append, begins, hex_four]
  simp only [List.cons_append, List.nil_append]
  rw [tokensFrom_coded (digit _) (by decide), tokensFrom_coded (digit _) (by decide),
    tokensFrom_coded (digit _) (by decide), tokensFrom_coded_last (digit _), value]

theorem tokensFrom_escapeUnits {units : List Nat} (small : ∀ unit ∈ units, unit < 0x10000) :
    tokensFrom (.quoted points) (units.flatMap escapeUnit ++ rest) =
      tokensFrom (.quoted (units.reverse ++ points)) rest := by
  induction units generalizing points with
  | nil => rfl
  | cons unit units ih =>
    rw [List.flatMap_cons, List.append_assoc, tokensFrom_escapeUnit (small unit List.mem_cons_self),
      ih fun unit mem => small unit (List.mem_cons_of_mem _ mem), List.reverse_cons,
      List.append_assoc]
    rfl

/-! ## Characters -/

theorem toNat_lt (c : Char) : c.toNat < 0x110000 := by
  have valid := c.valid
  simp only [UInt32.isValidChar, Nat.isValidChar] at valid
  change c.val.toNat < _
  omega

theorem units_small (c : Char) : ∀ unit ∈ units c, unit < 0x10000 := by
  have bound := toNat_lt c
  intro unit mem
  rw [units] at mem
  split at mem
  · rw [List.mem_singleton.mp mem]
    assumption
  · simp only [List.mem_cons, List.not_mem_nil, or_false] at mem
    omega

/-- The letter behind a backslash is read as the character that it stands for. -/
theorem unescape?_escapeLetter? {c letter : Char} (escaped : escapeLetter? c = some letter) :
    unescape? letter = some c ∧ letter ≠ 'u' := by
  unfold escapeLetter? at escaped
  split at escaped <;> cases escaped <;> exact ⟨rfl, by decide⟩

/-- The code points that the tokenizer keeps for a character. -/
def readPoints (asciiOnly : Bool) (c : Char) : List Nat :=
  match escapeLetter? c with
  | some _ => [c.toNat]
  | none => if c.toNat < 0x20 ∨ (asciiOnly ∧ 0x7F ≤ c.toNat) then units c else [c.toNat]

theorem tokensFrom_escape (asciiOnly : Bool) (c : Char) :
    tokensFrom (.quoted points) (escape asciiOnly c ++ rest) =
      tokensFrom (.quoted ((readPoints asciiOnly c).reverse ++ points)) rest := by
  rw [escape, readPoints]
  cases letter : escapeLetter? c with
  | some l =>
    obtain ⟨plain, other⟩ := unescape?_escapeLetter? letter
    have begins : tokensFrom (.quoted points) ('\\' :: l :: rest) =
        tokensFrom (.escaped points) (l :: rest) := rfl
    simp only [List.cons_append, List.nil_append, List.reverse_singleton]
    rw [begins, tokensFrom, if_neg other, plain]
  | none =>
    dsimp only
    -- A character without a letter of its own is written by its units or as it is.
    by_cases hidden : c.toNat < 0x20 ∨ (asciiOnly ∧ 0x7F ≤ c.toNat)
    · rw [if_pos hidden, if_pos hidden]
      exact tokensFrom_escapeUnits (units_small c)
    · have noQuote : c ≠ '"' := by
        rintro rfl
        cases letter
      have noBackslash : c ≠ '\\' := by
        rintro rfl
        cases letter
      have printed : ¬c.toNat < 0x20 := fun small => hidden (.inl small)
      rw [if_neg hidden, if_neg hidden]
      simp only [List.cons_append, List.nil_append, List.reverse_singleton]
      rw [tokensFrom, if_neg noQuote, if_neg noBackslash, if_neg printed]

/-! ## Joining the units -/

theorem not_surrogate (c : Char) : c.toNat < 0xD800 ∨ 0xE000 ≤ c.toNat := by
  have valid := c.valid
  simp only [UInt32.isValidChar, Nat.isValidChar] at valid
  change c.val.toNat < _ ∨ _ ≤ c.val.toNat
  omega

theorem joinUnits_toNat (c : Char) (units : List Nat) :
    Encoding.joinUnits none (c.toNat :: units) = c :: Encoding.joinUnits none units := by
  have high : ¬(0xD800 ≤ c.toNat ∧ c.toNat < 0xDC00) := by
    rcases not_surrogate c with below | above <;> omega
  have low : ¬(0xDC00 ≤ c.toNat ∧ c.toNat < 0xE000) := by
    rcases not_surrogate c with below | above <;> omega
  simp [Encoding.joinUnits, high, low, Char.ofNat_toNat]

/-- A pair of surrogates is joined to the character that it stands for. -/
theorem joinUnits_pair {c : Char} (large : ¬c.toNat < 0x10000) (units : List Nat) :
    Encoding.joinUnits none ((0xD800 + (c.toNat - 0x10000) / 0x400) ::
      (0xDC00 + (c.toNat - 0x10000) % 0x400) :: units) = c :: Encoding.joinUnits none units := by
  have bound := toNat_lt c
  have high : 0xD800 ≤ 0xD800 + (c.toNat - 0x10000) / 0x400 ∧
      0xD800 + (c.toNat - 0x10000) / 0x400 < 0xDC00 := by omega
  have low : 0xDC00 ≤ 0xDC00 + (c.toNat - 0x10000) % 0x400 ∧
      0xDC00 + (c.toNat - 0x10000) % 0x400 < 0xE000 := by omega
  have value : 0x10000 + (0xD800 + (c.toNat - 0x10000) / 0x400 - 0xD800) * 0x400 +
      (0xDC00 + (c.toNat - 0x10000) % 0x400 - 0xDC00) = c.toNat := by omega
  simp only [Encoding.joinUnits, high, low, decide_true, Bool.and_self, if_true, value,
    Char.ofNat_toNat]

theorem joinUnits_readPoints (asciiOnly : Bool) (c : Char) (units : List Nat) :
    Encoding.joinUnits none (readPoints asciiOnly c ++ units) =
      c :: Encoding.joinUnits none units := by
  rw [readPoints]
  cases escapeLetter? c with
  | some letter => exact joinUnits_toNat c units
  | none =>
    dsimp only
    split
    next =>
      rw [Json.units]
      split
      · exact joinUnits_toNat c units
      next large => exact joinUnits_pair large units
    next => exact joinUnits_toNat c units

theorem joinUnits_flatMap (asciiOnly : Bool) (cs : List Char) :
    Encoding.joinUnits none (cs.flatMap (readPoints asciiOnly)) = cs := by
  induction cs with
  | nil => rfl
  | cons c cs ih => rw [List.flatMap_cons, joinUnits_readPoints, ih]

/-! ## Texts -/

theorem tokensFrom_escapes (asciiOnly : Bool) (cs : List Char) :
    tokensFrom (.quoted points) (cs.flatMap (escape asciiOnly) ++ rest) =
      tokensFrom (.quoted ((cs.flatMap (readPoints asciiOnly)).reverse ++ points)) rest := by
  induction cs generalizing points with
  | nil => rfl
  | cons c cs ih =>
    rw [List.flatMap_cons, List.append_assoc, tokensFrom_escape, ih, List.flatMap_cons,
      List.reverse_append, List.append_assoc]

theorem tokensFrom_quote (asciiOnly : Bool) (s : String) :
    tokensFrom .between ((quote asciiOnly s).toList ++ rest) =
      .text s :: tokensFrom .between rest := by
  have opens (cs : List Char) :
      tokensFrom .between ('"' :: cs) = tokensFrom (.quoted []) cs := rfl
  have closes (points : List Nat) : tokensFrom (.quoted points) ('"' :: rest) =
      .text (String.ofList (Encoding.joinUnits none points.reverse)) :: tokensFrom .between rest :=
    rfl
  rw [quote, String.toList_ofList, List.cons_append, List.cons_append, List.append_assoc, opens,
    tokensFrom_escapes, List.append_nil, List.singleton_append, closes, List.reverse_reverse,
    joinUnits_flatMap, String.ofList_toList]

end Reading

end TableSearch.Json
