import TableSearch.Proofs.Number.Rounding
import TableSearch.Proofs.Results
import TableSearch.Vector

/-!
# Values that are the same

Two values are the same if they are identical or equal as values.  Numbers that are equal
to doubles have the same components of a vector as the doubles themselves.
-/

namespace TableSearch

open Magnitude

/-! ## Integers that are doubles -/

namespace Binary64

def toRat? (x : Binary64) : Option ℚ :=
  x.signedUnits?.map fun units : Int => (units : ℚ) / unitsOfOne

theorem toRat?_finite (negative : Bool) (m : Magnitude) :
    (finite negative m).toRat? = some (if negative then -m.toRat else m.toRat) := by
  rw [toRat?, signedUnits?, Option.map_some, ← units_div_unitsOfOne]
  cases negative with
  | false => rw [if_neg Bool.false_ne_true, if_neg Bool.false_ne_true, Int.cast_natCast]
  | true => rw [if_pos rfl, if_pos rfl, Int.cast_neg, Int.cast_natCast, neg_div]

theorem toRat_nonneg (m : Magnitude) : 0 ≤ m.toRat :=
  mul_nonneg (Nat.cast_nonneg _) (zpow_nonneg two_pos.le _)

/-- An integer that is equal to a double is converted to a double that is equal to it. -/
theorem ofInt?_of_toRat? {n : Int} {x : Binary64} (same : x.toRat? = some (n : ℚ)) :
    ∃ y, ofInt? n = some y ∧ y.toRat? = some (n : ℚ) := by
  cases x with
  | notANumber => cases same
  | infinite negative => cases same
  | finite negative m =>
    rw [toRat?_finite, Option.some.injEq] at same
    have size : ((n.natAbs : Nat) : ℚ) = m.toRat := by
      have nonneg := toRat_nonneg m
      rw [Nat.cast_natAbs, Int.cast_abs, ← same]
      cases negative
      · simpa using nonneg
      · simpa using nonneg
    -- The integer is exactly this magnitude, so that rounding leaves it as it is.
    have exact : ofQuotient? n.natAbs 1 = some m :=
      ofQuotient?_eq_some Nat.one_pos (by rw [Nat.cast_one, div_one, size])
    refine ⟨.finite (n < 0) m, by rw [ofInt?, exact]; rfl, ?_⟩
    rw [toRat?_finite, ← size, Nat.cast_natAbs, Int.cast_abs, Option.some.injEq]
    simp only [decide_eq_true_eq]
    split
    next negative => rw [abs_of_neg (by exact_mod_cast negative), neg_neg]
    next nonneg => rw [abs_of_nonneg (by exact_mod_cast Int.not_lt.mp nonneg)]

end Binary64

namespace Value

def Same (value other : Value) : Prop := value = other ∨ value.equals other = true

theorem rational?_real (x : Binary64) : (Value.real x).rational? = x.toRat? := by
  cases x <;> rfl

/-- An integer is equal to a double that is the same number. -/
theorem equals_int_real {n : Int} {x : Binary64} :
    (Value.int n).equals (.real x) = true ↔ x.toRat? = some (n : ℚ) := by
  unfold equals
  rw [rational?_real, rational?]
  cases x.toRat? with
  | none => simp
  | some q =>
    rw [beq_iff_eq, Option.some.injEq]
    exact eq_comm

theorem equals_real_real {x y : Binary64} {q : ℚ} (left : x.toRat? = some q)
    (right : y.toRat? = some q) : (Value.real x).equals (.real y) = true := by
  simp only [equals, rational?_real, left, right, beq_self_eq_true]

theorem equalItems_iff {items others : List Value} :
    equalItems items others = true ↔
      List.Forall₂ (fun item other => item.equals other = true) items others := by
  induction items generalizing others with
  | nil => cases others <;> simp [equalItems]
  | cons item items ih =>
    cases others with
    | nil => simp [equalItems]
    | cons other others => simp [equalItems, ih]

theorem equals_list {items others : List Value} :
    (Value.list items).equals (.list others) = true ↔
      List.Forall₂ (fun item other => item.equals other = true) items others := by
  rw [equals, equalItems_iff]

/-- A number that is equal to a double is converted to a double that is equal to it. -/
theorem toReal_equals {item : Value} {x : Binary64} (number : item.isPlainNumber = true)
    (same : item.equals (.real x) = true) :
    ∃ y, item.toReal = .ok y ∧ (Value.real y).equals (.real x) = true := by
  cases item with
  | real y => exact ⟨y, rfl, same⟩
  | int n =>
    obtain ⟨y, converted, value⟩ := Binary64.ofInt?_of_toRat? (equals_int_real.mp same)
    refine ⟨y, ?_, equals_real_real value (equals_int_real.mp same)⟩
    rw [toReal, converted]
    rfl
  | null | bool | text | bytes | timestamp | decimal | list | tuple | map => cases number

end Value

/-! ## Vectors -/

namespace Vector

theorem components_reals (reals : List Binary64) :
    components (reals.map .real) = .ok (reals.map .real) := by
  rw [components, mapM_eq_ok]
  induction reals with
  | nil => exact .nil
  | cons x reals ih => exact .cons rfl ih

/-- Numbers that are equal to some doubles have components that are equal to them. -/
theorem components_equals {items : List Value} {reals : List Binary64}
    (numbers : ∀ item ∈ items, item.isPlainNumber = true)
    (same : (Value.list items).equals (.list (reals.map .real)) = true) :
    ∃ others, components items = .ok others ∧
      (Value.list others).equals (.list (reals.map .real)) = true := by
  rw [Value.equals_list, List.forall₂_map_right_iff] at same
  simp only [Value.equals_list, List.forall₂_map_right_iff]
  induction same with
  | nil => exact ⟨[], rfl, .nil⟩
  | @cons item x items reals first rest ih =>
    obtain ⟨y, converted, head⟩ := Value.toReal_equals (numbers item List.mem_cons_self) first
    obtain ⟨others, found, tail⟩ :=
      ih fun other mem => numbers other (List.mem_cons_of_mem _ mem)
    refine ⟨.real y :: others, ?_, .cons head tail⟩
    rw [components] at found ⊢
    rw [List.mapM_cons, converted, found]
    rfl

/-- Numbers that are the same vector as some doubles have components that are so, too. -/
theorem components_same {items : List Value} {reals : List Binary64}
    (numbers : ∀ item ∈ items, item.isPlainNumber = true)
    (same : (Value.list items).Same (.list (reals.map .real))) :
    ∃ others, components items = .ok others ∧
      (Value.list others).Same (.list (reals.map .real)) := by
  rcases same with identical | equal
  · cases identical
    exact ⟨_, components_reals reals, .inl rfl⟩
  · obtain ⟨others, found, equal⟩ := components_equals numbers equal
    exact ⟨others, found, .inr equal⟩

end Vector

end TableSearch
