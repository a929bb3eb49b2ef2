import Mathlib.Data.Int.Log
import Mathlib.Data.Rat.Floor
import Mathlib.Tactic.FieldSimp
import Mathlib.Tactic.Linarith
import Mathlib.Tactic.Positivity
import TableSearch.Number.Binary64

/-!
# Rounding depends on the value alone

`Magnitude.ofQuotient?` is given a numerator and a denominator, and `Magnitude.ofDecimal?`
digits and a power of ten.  Neither sees more of them than the rational number that they
stand for, and a number that is a double already is returned as it is.
-/

namespace TableSearch.Magnitude

/-! ## Powers split by sign -/

/-- A power of a base whose exponent is an integer, as a quotient of natural numbers. -/
theorem pow_toNat_div (base : Nat) (positive : 0 < base) (k : Int) :
    (Nat.pow base k.toNat : ℚ) / Nat.pow base (-k).toNat = (base : ℚ) ^ k := by
  have nonzero : (base : ℚ) ≠ 0 := by exact_mod_cast positive.ne'
  rcases Int.le_total 0 k with nonneg | nonpos
  · obtain ⟨n, rfl⟩ := Int.eq_ofNat_of_zero_le nonneg
    simp
  · obtain ⟨n, rfl⟩ := Int.exists_eq_neg_ofNat nonpos
    simp

/-- The comparison by which `binade` corrects its guess. -/
theorem pow_le_div_iff {a b : Nat} (positive : 0 < b) (k : Int) :
    b * Nat.pow 2 k.toNat ≤ a * Nat.pow 2 (-k).toNat ↔ (2 : ℚ) ^ k ≤ a / b := by
  have lower : (0 : ℚ) < Nat.pow 2 (-k).toNat := by exact_mod_cast Nat.two_pow_pos _
  have below : (0 : ℚ) < b := by exact_mod_cast positive
  have split := pow_toNat_div 2 two_pos k
  rw [Nat.cast_ofNat] at split
  rw [← split, div_le_div_iff₀ lower below, ← Nat.cast_mul, ← Nat.cast_mul, Nat.cast_le,
    Nat.mul_comm]

/-! ## The binary logarithm -/

/-- The binary logarithms of both sides give that of the quotient up to one step. -/
theorem log_bounds {a b : Nat} (aPositive : 0 < a) (bPositive : 0 < b) :
    Int.log 2 (a / b : ℚ) = (a.log2 : Int) - b.log2 ∨
      Int.log 2 (a / b : ℚ) = (a.log2 : Int) - b.log2 - 1 := by
  have below : (0 : ℚ) < b := by exact_mod_cast bPositive
  have quotient : (0 : ℚ) < a / b := div_pos (by exact_mod_cast aPositive) below
  have aLower : (2 : ℚ) ^ (a.log2 : Int) ≤ a := by
    exact_mod_cast Nat.log2_self_le aPositive.ne'
  have aUpper : (a : ℚ) < 2 ^ ((a.log2 : Int) + 1) := by exact_mod_cast Nat.lt_log2_self
  have bLower : (2 : ℚ) ^ (b.log2 : Int) ≤ b := by
    exact_mod_cast Nat.log2_self_le bPositive.ne'
  have bUpper : (b : ℚ) < 2 ^ ((b.log2 : Int) + 1) := by exact_mod_cast Nat.lt_log2_self
  -- Each logarithm is off by less than one, so their difference is off by one step at most.
  have lower : (a.log2 : Int) - b.log2 - 1 ≤ Int.log 2 (a / b : ℚ) := by
    refine (Int.zpow_le_iff_le_log one_lt_two quotient).mp ?_
    rw [le_div_iff₀ below, Nat.cast_ofNat]
    calc (2 : ℚ) ^ ((a.log2 : Int) - b.log2 - 1) * b
        ≤ 2 ^ ((a.log2 : Int) - b.log2 - 1) * 2 ^ ((b.log2 : Int) + 1) :=
          mul_le_mul_of_nonneg_left bUpper.le (zpow_nonneg two_pos.le _)
      _ = 2 ^ (a.log2 : Int) := by rw [← zpow_add₀ two_ne_zero]; congr 1; omega
      _ ≤ a := aLower
  have upper : Int.log 2 (a / b : ℚ) < (a.log2 : Int) - b.log2 + 1 := by
    refine (Int.lt_zpow_iff_log_lt one_lt_two quotient).mp ?_
    rw [div_lt_iff₀ below, Nat.cast_ofNat]
    calc (a : ℚ) < 2 ^ ((a.log2 : Int) + 1) := aUpper
      _ = 2 ^ ((a.log2 : Int) - b.log2 + 1) * 2 ^ (b.log2 : Int) := by
        rw [← zpow_add₀ two_ne_zero]; congr 1; omega
      _ ≤ 2 ^ ((a.log2 : Int) - b.log2 + 1) * b :=
        mul_le_mul_of_nonneg_left bLower (zpow_nonneg two_pos.le _)
  omega

theorem binade_eq {a b : Nat} (aPositive : 0 < a) (bPositive : 0 < b) :
    binade a b = Int.log 2 (a / b : ℚ) := by
  have below : (0 : ℚ) < b := by exact_mod_cast bPositive
  have quotient : (0 : ℚ) < a / b := div_pos (by exact_mod_cast aPositive) below
  have reached := (Int.zpow_le_iff_le_log (b := 2) (x := (a.log2 : Int) - b.log2)
    one_lt_two quotient).symm
  rw [Nat.cast_ofNat, ← pow_le_div_iff bPositive] at reached
  have near := log_bounds aPositive bPositive
  simp only [binade]
  split <;> omega

/-! ## Rounded quotients -/

theorem roundedQuotient_mul_right {a b c : Nat} (positive : 0 < c) :
    roundedQuotient (a * c) (b * c) = roundedQuotient a b := by
  have excess : 2 * (a % b * c) = 2 * (a % b) * c := (Nat.mul_assoc ..).symm
  simp only [roundedQuotient, Nat.mul_div_mul_right _ _ positive, Nat.mul_mod_mul_right, excess,
    Nat.mul_lt_mul_right positive, Nat.mul_left_inj positive.ne']

theorem roundedQuotient_congr {a b a' b' : Nat} (positive : 0 < b) (positive' : 0 < b')
    (same : a * b' = a' * b) : roundedQuotient a b = roundedQuotient a' b' :=
  calc roundedQuotient a b = roundedQuotient (a * b') (b * b') :=
        (roundedQuotient_mul_right positive').symm
    _ = roundedQuotient (a' * b) (b' * b) := by rw [same, Nat.mul_comm b]
    _ = roundedQuotient a' b' := roundedQuotient_mul_right positive

theorem roundedQuotient_eq {a b n : Nat} (positive : 0 < b) (whole : (a / b : ℚ) = n) :
    roundedQuotient a b = n := by
  have product : a = n * b := by
    rw [div_eq_iff (by exact_mod_cast positive.ne')] at whole
    exact_mod_cast whole
  simp [roundedQuotient, product, Nat.mul_div_cancel _ positive, positive]

theorem roundedQuotient_eq_zero {a b : Nat} (positive : 0 < b) (small : (a / b : ℚ) < 2 ^ (-1 : Int)) :
    roundedQuotient a b = 0 := by
  have below : (0 : ℚ) < b := by exact_mod_cast positive
  have half : 2 * a < b := by
    rw [zpow_neg_one, div_lt_iff₀ below, ← div_eq_inv_mul, lt_div_iff₀ two_pos, mul_comm] at small
    exact_mod_cast small
  have less : a < b := by omega
  simp [roundedQuotient, Nat.div_eq_of_lt less, Nat.mod_eq_of_lt less, half]

/-! ## Rounding to a double -/

section Quotient

variable {a b a' b' : Nat}

private theorem pow_split (e : Int) {n d : Nat} (positive : 0 < d) :
    ((n * Nat.pow 2 (-e).toNat : Nat) : ℚ) / (d * Nat.pow 2 e.toNat : Nat) = n / d / 2 ^ e := by
  have below : (d : ℚ) ≠ 0 := by exact_mod_cast positive.ne'
  have split := pow_toNat_div 2 two_pos e
  rw [Nat.cast_ofNat] at split
  rw [← split]
  push_cast
  field_simp

/-- Quotients of the same value are rounded to the same double. -/
theorem ofQuotient?_congr (positive : 0 < b) (positive' : 0 < b') (same : (a / b : ℚ) = a' / b') :
    ofQuotient? a b = ofQuotient? a' b' := by
  have crossed : a * b' = a' * b := by
    rw [div_eq_div_iff (by exact_mod_cast positive.ne') (by exact_mod_cast positive'.ne')] at same
    exact_mod_cast same
  -- Zero has no binary logarithm, so it is rounded by a case of its own.
  rcases Nat.eq_zero_or_pos a with rfl | aPositive
  · have zero : a' = 0 := by
      rw [Nat.zero_mul] at crossed
      exact (Nat.mul_eq_zero.mp crossed.symm).resolve_right positive.ne'
    simp [ofQuotient?, zero]
  · have aPositive' : 0 < a' := by
      refine Nat.pos_of_mul_pos_right (b := b) ?_
      rw [← crossed]
      exact Nat.mul_pos aPositive positive'
    have exponents : binade a b = binade a' b' := by
      rw [binade_eq aPositive positive, binade_eq aPositive' positive', same]
    have significands (e : Int) :
        roundedQuotient (a * Nat.pow 2 (-e).toNat) (b * Nat.pow 2 e.toNat) =
          roundedQuotient (a' * Nat.pow 2 (-e).toNat) (b' * Nat.pow 2 e.toNat) := by
      refine roundedQuotient_congr (Nat.mul_pos positive (Nat.two_pow_pos _))
        (Nat.mul_pos positive' (Nat.two_pow_pos _)) ?_
      calc a * Nat.pow 2 (-e).toNat * (b' * Nat.pow 2 e.toNat)
          = a * b' * (Nat.pow 2 (-e).toNat * Nat.pow 2 e.toNat) := Nat.mul_mul_mul_comm ..
        _ = a' * b * (Nat.pow 2 (-e).toNat * Nat.pow 2 e.toNat) := by rw [crossed]
        _ = a' * Nat.pow 2 (-e).toNat * (b * Nat.pow 2 e.toNat) := Nat.mul_mul_mul_comm ..
    simp only [ofQuotient?, aPositive.ne', aPositive'.ne', if_false, exponents, significands]

theorem ofParts?_eq_none {significand : Nat} {exponent : Int} (large : 971 < exponent) :
    ofParts? significand exponent = none := by
  have improper : ¬Canonical significand exponent := fun canonical =>
    absurd canonical.2.2.1 (Int.not_le.mpr large)
  simp [ofParts?, improper]

/-- No double is near a quotient from `2 ^ 1024` on. -/
theorem ofQuotient?_eq_none (aPositive : 0 < a) (positive : 0 < b)
    (large : (2 : ℚ) ^ (1024 : Int) ≤ a / b) : ofQuotient? a b = none := by
  have quotient : (0 : ℚ) < a / b :=
    div_pos (by exact_mod_cast aPositive) (by exact_mod_cast positive)
  have reached : 1024 ≤ binade a b := by
    rw [binade_eq aPositive positive]
    exact (Int.zpow_le_iff_le_log one_lt_two quotient).mp large
  have exponent : 971 < max (binade a b - 52) (-1074) := by omega
  simp only [ofQuotient?, aPositive.ne', if_false]
  split
  · exact ofParts?_eq_none (by omega)
  · exact ofParts?_eq_none exponent

/-- What is less than half of the least positive double is rounded to zero. -/
theorem ofQuotient?_eq_zero (aPositive : 0 < a) (positive : 0 < b)
    (small : (a / b : ℚ) < 2 ^ (-1075 : Int)) : ofQuotient? a b = some zero := by
  have quotient : (0 : ℚ) < a / b :=
    div_pos (by exact_mod_cast aPositive) (by exact_mod_cast positive)
  have reached : binade a b < -1075 := by
    rw [binade_eq aPositive positive]
    exact (Int.lt_zpow_iff_log_lt one_lt_two quotient).mp small
  have exponent : max (binade a b - 52) (-1074) = -1074 := by omega
  have rounded : roundedQuotient (a * Nat.pow 2 (- -1074 : Int).toNat)
      (b * Nat.pow 2 (-1074 : Int).toNat) = 0 := by
    refine roundedQuotient_eq_zero (Nat.mul_pos positive (Nat.two_pow_pos _)) ?_
    have unit : (0 : ℚ) < 2 ^ (-1074 : Int) := zpow_pos two_pos _
    rw [pow_split _ positive, div_lt_iff₀ unit, ← zpow_add₀ two_ne_zero]
    exact small
  have distinct : (0 : Nat) ≠ Nat.pow 2 53 := by decide
  simp only [ofQuotient?, aPositive.ne', if_false, exponent, rounded, distinct]
  decide

end Quotient

/-! ## Doubles are left as they are -/

def toRat (m : Magnitude) : ℚ := m.significand * 2 ^ m.exponent

theorem scaled_div (significand n : Nat) {exponent : Int} (bounded : -n ≤ exponent) :
    ((significand * Nat.pow 2 (exponent + n).toNat : Nat) : ℚ) / (Nat.pow 2 n : Nat) =
      significand * 2 ^ exponent := by
  have shifted : ((exponent + n).toNat : Int) = exponent + n := Int.toNat_of_nonneg (by omega)
  have power (k : Nat) : ((Nat.pow 2 k : Nat) : ℚ) = 2 ^ (k : Int) := by
    rw [zpow_natCast, Nat.pow_eq, Nat.cast_pow, Nat.cast_ofNat]
  rw [Nat.cast_mul, power, power, shifted, mul_div_assoc, ← zpow_sub₀ two_ne_zero,
    add_sub_cancel_right]

theorem units_div_unitsOfOne (m : Magnitude) : (m.units / Binary64.unitsOfOne : ℚ) = m.toRat :=
  scaled_div m.significand 1074 m.canonical.2.1

@[ext] theorem ext {m n : Magnitude} (significand : m.significand = n.significand)
    (exponent : m.exponent = n.exponent) : m = n := by
  cases m
  cases n
  simp_all

theorem eq_zero_of_significand {m : Magnitude} (none : m.significand = 0) : m = zero := by
  refine Magnitude.ext none (m.canonical.2.2.2.resolve_left ?_)
  rw [none]
  decide

/-- The exponent of a magnitude is that at which its value is rounded. -/
theorem log_toRat (m : Magnitude) (positive : 0 < m.significand) :
    max (Int.log 2 m.toRat - 52) (-1074) = m.exponent := by
  have lead : (0 : ℚ) < 2 ^ m.exponent := zpow_pos two_pos _
  have value : 0 < m.toRat := mul_pos (by exact_mod_cast positive) lead
  obtain ⟨high, low, -, kind⟩ := m.canonical
  have upper : Int.log 2 m.toRat < 53 + m.exponent := by
    refine (Int.lt_zpow_iff_log_lt one_lt_two value).mp ?_
    rw [Nat.cast_ofNat, zpow_add₀ two_ne_zero]
    exact mul_lt_mul_of_pos_right (by exact_mod_cast high) lead
  -- A normal significand has the logarithm from below as well; any other stands at the least
  -- exponent, where the bound from above is enough.
  rcases kind with normal | least
  · have lower : 52 + m.exponent ≤ Int.log 2 m.toRat := by
      refine (Int.zpow_le_iff_le_log one_lt_two value).mp ?_
      rw [Nat.cast_ofNat, zpow_add₀ two_ne_zero]
      exact mul_le_mul_of_nonneg_right (by exact_mod_cast normal) lead.le
    omega
  · omega

/-- A quotient whose value is a double is rounded to that double. -/
theorem ofQuotient?_eq_some {m : Magnitude} {a b : Nat} (positive : 0 < b)
    (exact : (a / b : ℚ) = m.toRat) : ofQuotient? a b = some m := by
  have below : (b : ℚ) ≠ 0 := by exact_mod_cast positive.ne'
  rcases Nat.eq_zero_or_pos m.significand with none | some
  · have zero : a = 0 := by
      rw [toRat, none, Nat.cast_zero, zero_mul, div_eq_zero_iff] at exact
      exact_mod_cast exact.resolve_right below
    simp [ofQuotient?, zero, eq_zero_of_significand none]
  · have lead : (2 : ℚ) ^ m.exponent ≠ 0 := zpow_ne_zero _ two_ne_zero
    have aPositive : 0 < a := by
      refine Nat.pos_of_ne_zero fun zero => ?_
      rw [zero, Nat.cast_zero, zero_div, toRat, eq_comm, mul_eq_zero] at exact
      exact some.ne' (by exact_mod_cast exact.resolve_right lead)
    have significand : roundedQuotient (a * Nat.pow 2 (-m.exponent).toNat)
        (b * Nat.pow 2 m.exponent.toNat) = m.significand := by
      refine roundedQuotient_eq (Nat.mul_pos positive (Nat.two_pow_pos _)) ?_
      rw [pow_split _ positive, exact, toRat, mul_div_cancel_right₀ _ lead]
    -- An exact quotient is not rounded up to the next power of two, where the exponent would be
    -- corrected.
    have distinct : m.significand ≠ Nat.pow 2 53 := m.canonical.1.ne
    simp only [ofQuotient?, aPositive.ne', if_false, binade_eq aPositive positive, exact,
      log_toRat m some, significand, distinct, ofParts?, m.canonical, dif_pos]

/-! ## Decimals -/

theorem decimal_value (digits : Nat) (exponent : Int) :
    ((digits * Nat.pow 10 exponent.toNat : Nat) / Nat.pow 10 (-exponent).toNat : ℚ) =
      digits * 10 ^ exponent := by
  have split := pow_toNat_div 10 (by decide) exponent
  rw [Nat.cast_ofNat] at split
  rw [Nat.cast_mul, mul_div_assoc, split]

/-- The guards of `ofDecimal?` change nothing: the powers of ten that they keep from
being formed are out of range. -/
theorem ofDecimal?_eq (digits : Nat) (exponent : Int) :
    ofDecimal? digits exponent =
      ofQuotient? (digits * Nat.pow 10 exponent.toNat) (Nat.pow 10 (-exponent).toNat) := by
  have ten : 0 < 10 := by decide
  have power (k : Int) : 0 < Nat.pow 10 k.toNat := Nat.pow_pos ten
  rcases Nat.eq_zero_or_pos digits with rfl | positive
  · simp [ofDecimal?, ofQuotient?]
  -- Ten is more than eight: a decimal place counts for three binary ones at least, which is what
  -- the limits of the guards rest on.
  have eight (k : Nat) : (2 : ℚ) ^ (3 * k) ≤ 10 ^ k := by
    rw [pow_mul]
    exact pow_le_pow_left₀ (by norm_num) (by norm_num) k
  simp only [ofDecimal?, positive.ne', if_false]
  split
  next large =>
    obtain ⟨n, rfl⟩ := Int.eq_ofNat_of_zero_le (show 0 ≤ exponent by omega)
    refine (ofQuotient?_eq_none (Nat.mul_pos positive (power _)) (power _) ?_).symm
    rw [decimal_value, zpow_natCast]
    calc (2 : ℚ) ^ (1024 : Int) ≤ 2 ^ ((3 * n : Nat) : Int) :=
          zpow_le_zpow_right₀ one_le_two (by omega)
      _ ≤ 10 ^ n := by exact_mod_cast eight n
      _ ≤ digits * 10 ^ n := le_mul_of_one_le_left (by positivity) (by exact_mod_cast positive)
  next inRange =>
    split
    next small =>
      obtain ⟨n, rfl⟩ := Int.exists_eq_neg_ofNat (show exponent ≤ 0 by omega)
      refine (ofQuotient?_eq_zero (Nat.mul_pos positive (power _)) (power _) ?_).symm
      have size : (digits : ℚ) < 2 ^ ((digits.log2 : Int) + 1) := by
        exact_mod_cast Nat.lt_log2_self
      rw [decimal_value, zpow_neg, zpow_natCast, ← div_eq_mul_inv, div_lt_iff₀ (by positivity)]
      calc (digits : ℚ) < 2 ^ ((digits.log2 : Int) + 1) := size
        _ ≤ 2 ^ (-1075 + ((3 * n : Nat) : Int)) := zpow_le_zpow_right₀ one_le_two (by omega)
        _ = 2 ^ (-1075 : Int) * 2 ^ (3 * n) := by rw [zpow_add₀ two_ne_zero, zpow_natCast]
        _ ≤ 2 ^ (-1075 : Int) * 10 ^ n :=
          mul_le_mul_of_nonneg_left (eight n) (zpow_nonneg two_pos.le _)
    next => rfl

theorem ofDecimal?_congr {digits digits' : Nat} {exponent exponent' : Int}
    (same : (digits * 10 ^ exponent : ℚ) = digits' * 10 ^ exponent') :
    ofDecimal? digits exponent = ofDecimal? digits' exponent' := by
  rw [ofDecimal?_eq, ofDecimal?_eq]
  refine ofQuotient?_congr (Nat.pow_pos (by decide)) (Nat.pow_pos (by decide)) ?_
  rw [decimal_value, decimal_value, same]

/-- A decimal whose value is a double is read as that double. -/
theorem ofDecimal?_eq_some {m : Magnitude} {digits : Nat} {exponent : Int}
    (exact : (digits * 10 ^ exponent : ℚ) = m.toRat) : ofDecimal? digits exponent = some m := by
  rw [ofDecimal?_eq]
  refine ofQuotient?_eq_some (Nat.pow_pos (by decide)) ?_
  rw [decimal_value, exact]

end TableSearch.Magnitude
