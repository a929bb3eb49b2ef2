import Mathlib.Algebra.Group.Nat.Defs
import TableSearch.Number.Numeral

/-!
# Runs of digits

The digits of a written number are read back one by one up to the first character that is
no digit, and they stand for the number that was written.
-/

namespace TableSearch

def AllDigits (cs : List Char) : Prop := ∀ c ∈ cs, c.isDigit = true

def digitsValue (cs : List Char) : Nat := Nat.ofDigitChars 10 cs 0

def digitValues (cs : List Char) : List Nat := cs.map fun c => c.toNat - '0'.toNat

section Characters

variable {c : Char}

theorem asciiDigitValue?_of_isDigit (digit : c.isDigit = true) :
    asciiDigitValue? c = some (c.toNat - '0'.toNat) := by
  have bounds : '0' ≤ c ∧ c ≤ '9' := by
    simpa [Char.isDigit, Char.le_def, Char.toNat] using digit
  rw [asciiDigitValue?, if_pos bounds]

theorem eq_zero_of_digit (digit : c.isDigit = true) (zero : c.toNat - '0'.toNat = 0) : c = '0' := by
  have lower : '0'.toNat ≤ c.toNat := by
    simp only [Char.isDigit, Bool.and_eq_true, decide_eq_true_eq] at digit
    exact digit.1
  exact Char.toNat_inj.mp (by omega)

end Characters

section Runs

variable {cs ds rest : List Char}

@[simp] theorem allDigits_nil : AllDigits [] := by simp [AllDigits]

@[simp] theorem allDigits_cons {c : Char} :
    AllDigits (c :: cs) ↔ c.isDigit = true ∧ AllDigits cs := by simp [AllDigits]

@[simp] theorem allDigits_append : AllDigits (cs ++ ds) ↔ AllDigits cs ∧ AllDigits ds := by
  simp [AllDigits, or_imp, forall_and]

theorem allDigits_zeros (n : Nat) : AllDigits (List.replicate n '0') := by
  intro c mem
  rw [List.eq_of_mem_replicate mem]
  rfl

theorem allDigits_toDigits (n : Nat) : AllDigits (Nat.toDigits 10 n) :=
  fun _ mem => Nat.isDigit_of_mem_toDigits (by decide) (by decide) mem

/-- Digits are taken up to the first character that is none. -/
theorem takeDigits_append (after : Bool) (digits : AllDigits cs)
    (ends : rest.head?.bind asciiDigitValue? = none) :
    takeDigits false after (cs ++ rest) = (digitValues cs, rest) := by
  induction cs generalizing after with
  | nil =>
    cases rest with
    | nil => rfl
    | cons c rest =>
      have other : asciiDigitValue? c = none := by simpa using ends
      simp [takeDigits, other, digitValues]
  | cons c cs ih =>
    obtain ⟨digit, digits⟩ := allDigits_cons.mp digits
    simp [takeDigits, asciiDigitValue?_of_isDigit digit, ih true digits, digitValues]

theorem ofDigits_digitValues (cs : List Char) : ofDigits (digitValues cs) = digitsValue cs := by
  simp [ofDigits, digitValues, digitsValue, Nat.ofDigitChars, List.foldl_map]

theorem digitsValue_toDigits (n : Nat) : digitsValue (Nat.toDigits 10 n) = n :=
  Nat.ofDigitChars_ten_toDigits

theorem digitsValue_append (cs ds : List Char) :
    digitsValue (cs ++ ds) = digitsValue cs * 10 ^ ds.length + digitsValue ds := by
  rw [digitsValue, Nat.ofDigitChars_append, Nat.ofDigitChars_eq_ofDigitChars_zero, Nat.mul_comm]
  rfl

theorem digitsValue_zeros (n : Nat) : digitsValue (List.replicate n '0') = 0 := by
  rw [digitsValue, Nat.ofDigitChars_replicate_zero, Nat.mul_zero]

theorem digitsValue_zeros_append (n : Nat) (cs : List Char) :
    digitsValue (List.replicate n '0' ++ cs) = digitsValue cs := by
  rw [digitsValue_append, digitsValue_zeros, Nat.zero_mul, Nat.zero_add]

/-- A positive number is written without a zero in front. -/
theorem head?_toDigits {n : Nat} (positive : 0 < n) : (Nat.toDigits 10 n).head? ≠ some '0' := by
  -- By the leading digits: those of `m` stand in front of those of the whole number.
  induction n using Nat.base_induction 10 (by decide) with
  | single d small =>
    have cases : ∀ d < 10, 0 < d → (Nat.toDigits 10 d).head? ≠ some '0' := by decide
    exact cases d small positive
  | digit m d small more ih =>
    rw [← Nat.toDigits_append_toDigits (by decide) more small, List.head?_append]
    cases first : (Nat.toDigits 10 m).head? with
    | none => exact absurd (List.head?_eq_none_iff.mp first) Nat.toDigits_ne_nil
    | some c =>
      rw [first] at ih
      exact ih more

end Runs

end TableSearch
