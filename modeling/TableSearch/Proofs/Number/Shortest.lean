import TableSearch.Number.Shortest
import TableSearch.Proofs.Number.Rounding

/-!
# Shortest decimals read back

Every decimal that `Magnitude.shortest` can select has been read back to the magnitude, or
is its exact value, which reads back as well.
-/

namespace TableSearch.Magnitude

theorem readsBack_iff {m : Magnitude} {d : Decimal} :
    m.readsBack d = true ↔ ofDecimal? d.digits d.exponent = some m := by
  rw [readsBack, beq_iff_eq]

theorem nearer_eq_or (order : Ordering) (lower : Nat) (exponent : Int) :
    nearer order lower exponent = ⟨lower, exponent⟩ ∨
      nearer order lower exponent = ⟨lower + 1, exponent⟩ := by
  cases order with
  | lt => exact .inl rfl
  | gt => exact .inr rfl
  | eq =>
    by_cases even : lower % 2 = 0
    · exact .inl (by simp only [nearer, even, if_true])
    · exact .inr (by simp only [nearer, even, if_false])

theorem readsBack_of_neighbour? {m : Magnitude} {lower : Nat} {exponent : Int} {d : Decimal}
    (selected : m.neighbour? lower exponent = some d) : m.readsBack d = true := by
  simp only [neighbour?] at selected
  split at selected
  next => cases selected
  next below above =>
    cases selected
    exact below
  next below above =>
    cases selected
    exact above
  next below above =>
    rw [← Option.some.inj selected]
    rcases nearer_eq_or (m.compareWithMidpoint lower exponent) lower exponent with same | same
    · rw [same]
      exact below
    · rw [same]
      exact above

theorem mul_five_pow (units n : Nat) :
    ((units * Nat.pow 5 n : Nat) : ℚ) * 10 ^ (-n : Int) = units / (Nat.pow 2 n : Nat) := by
  have ten : (10 : ℚ) ^ n = 5 ^ n * 2 ^ n := by rw [← mul_pow]; norm_num
  have five : (5 : ℚ) ^ n ≠ 0 := by positivity
  -- The units of a magnitude are halves of halves, so that five of each are a tenth.
  rw [zpow_neg, zpow_natCast, ten, Nat.cast_mul, Nat.pow_eq, Nat.pow_eq, Nat.cast_pow,
    Nat.cast_pow, Nat.cast_ofNat, Nat.cast_ofNat]
  field_simp

theorem exactDecimal_readsBack (m : Magnitude) : m.readsBack m.exactDecimal = true := by
  refine readsBack_iff.mpr (ofDecimal?_eq_some ?_)
  rw [← units_div_unitsOfOne]
  exact mul_five_pow m.units 1074

/-- The shortest decimal of a magnitude is read as that magnitude. -/
theorem shortest_readsBack (m : Magnitude) : m.readsBack m.shortest = true := by
  rw [shortest]
  -- Seventeen grids are tried; the exact decimal is what remains when none of them has a neighbour.
  cases found : (List.range 17).findSome? fun n : Nat => m.onGrid? (m.decade - (n + 1)) with
  | none => exact exactDecimal_readsBack m
  | some d =>
    obtain ⟨n, -, selected⟩ := List.exists_of_findSome?_eq_some found
    exact readsBack_of_neighbour? selected

theorem ofDecimal?_shortest (m : Magnitude) :
    ofDecimal? m.shortest.digits m.shortest.exponent = some m :=
  readsBack_iff.mp m.shortest_readsBack

theorem shortest_pos {m : Magnitude} (positive : 0 < m.significand) : 0 < m.shortest.digits := by
  refine Nat.pos_of_ne_zero fun none => ?_
  have read := ofDecimal?_shortest m
  rw [none, ofDecimal?, if_pos rfl, Option.some.injEq] at read
  rw [← read] at positive
  exact absurd positive (by decide)

end TableSearch.Magnitude
