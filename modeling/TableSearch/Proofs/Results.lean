import Mathlib.Data.List.Forall2
import TableSearch.Failure

/-!
# Results that succeed

When a computation that may fail succeeds, so did each of its steps.  These facts take
such a computation apart.  Beside them stand facts on lists of results and on lists that are
joined.
-/

namespace TableSearch

variable {ε ε' α β : Type}

theorem bind_eq_ok {x : Except ε α} {f : α → Except ε β} {b : β} :
    (x >>= f) = .ok b ↔ ∃ a, x = .ok a ∧ f a = .ok b := by
  cases x with
  | error e => simp [bind, Except.bind]
  | ok a => simp [bind, Except.bind]

theorem bind_eq_error {x : Except ε α} {f : α → Except ε β} {e : ε} :
    (x >>= f) = .error e ↔ x = .error e ∨ ∃ a, x = .ok a ∧ f a = .error e := by
  cases x with
  | error e => simp [bind, Except.bind]
  | ok a => simp [bind, Except.bind]

theorem map_eq_ok {x : Except ε α} {f : α → β} {b : β} :
    (f <$> x) = .ok b ↔ ∃ a, x = .ok a ∧ f a = b := by
  cases x with
  | error e => simp [Functor.map, Except.map]
  | ok a => simp [Functor.map, Except.map]

theorem except_map_eq_ok {x : Except ε α} {f : α → β} {b : β} :
    x.map f = .ok b ↔ ∃ a, x = .ok a ∧ f a = b := map_eq_ok

theorem pure_eq_ok {a b : α} : (pure a : Except ε α) = .ok b ↔ a = b := by
  simp [pure, Except.pure]

theorem mapError_eq_ok {x : Except ε α} {f : ε → ε'} {a : α} :
    x.mapError f = .ok a ↔ x = .ok a := by
  cases x <;> simp [Except.mapError]

theorem mapError_eq_error {x : Except ε α} {f : ε → ε'} {e : ε'} :
    x.mapError f = .error e ↔ ∃ cause, x = .error cause ∧ f cause = e := by
  cases x <;> simp [Except.mapError]

theorem mapM_eq_ok {f : α → Except ε β} {xs : List α} {ys : List β} :
    xs.mapM f = .ok ys ↔ List.Forall₂ (fun x y => f x = .ok y) xs ys := by
  induction xs generalizing ys with
  | nil => cases ys <;> simp [pure, Except.pure]
  | cons x xs ih =>
    simp only [List.mapM_cons, bind_eq_ok, pure_eq_ok, ih]
    constructor
    · rintro ⟨y, first, ys, rest, rfl⟩
      exact .cons first rest
    · intro both
      cases both with
      | cons first rest => exact ⟨_, first, _, rest, rfl⟩

theorem mapM_map_eq_ok {ι : Type} {f : α → Except ε β} {g : ι → α} {h : ι → β}
    (each : ∀ item, f (g item) = .ok (h item)) (items : List ι) :
    (items.map g).mapM f = .ok (items.map h) := by
  rw [mapM_eq_ok, List.forall₂_map_left_iff, List.forall₂_map_right_iff, List.forall₂_same]
  exact fun item _ => each item

/-- A list of steps fails with the first one that does. -/
theorem mapM_eq_error {f : α → Except ε β} {xs : List α} {e : ε} (failed : xs.mapM f = .error e) :
    ∃ front x rest ys, xs = front ++ x :: rest ∧ front.mapM f = .ok ys ∧ f x = .error e := by
  induction xs with
  | nil => cases failed
  | cons x xs ih =>
    rw [List.mapM_cons, bind_eq_error] at failed
    obtain first | ⟨y, first, failed⟩ := failed
    · exact ⟨[], x, xs, [], rfl, rfl, first⟩
    · obtain others | ⟨ys, -, done⟩ := bind_eq_error.mp failed
      · obtain ⟨front, bad, rest, ys, rfl, made, last⟩ := ih others
        refine ⟨x :: front, bad, rest, y :: ys, rfl, ?_, last⟩
        rw [List.mapM_cons, first, made]
        rfl
      · cases done

/-- A list of steps, each of which has one result and a condition for it. -/
theorem mapM_eq_ok_of_iff {f : α → Except ε β} {P : α → Prop} {g : α → β}
    (each : ∀ x y, f x = .ok y ↔ P x ∧ y = g x) {xs : List α} {ys : List β} :
    xs.mapM f = .ok ys ↔ (∀ x ∈ xs, P x) ∧ ys = xs.map g := by
  induction xs generalizing ys with
  | nil =>
    rw [List.mapM_nil, pure_eq_ok]
    simp [eq_comm]
  | cons x xs ih =>
    simp only [List.mapM_cons, bind_eq_ok, pure_eq_ok, ih, each, List.forall_mem_cons, List.map_cons]
    constructor
    · rintro ⟨_, ⟨first, rfl⟩, _, ⟨rest, rfl⟩, rfl⟩
      exact ⟨⟨first, rest⟩, rfl⟩
    · rintro ⟨⟨first, rest⟩, rfl⟩
      exact ⟨_, ⟨first, rfl⟩, _, ⟨rest, rfl⟩, rfl⟩

/-- Lists of steps that are related one by one have related results. -/
theorem forall₂_of_mapM {α' β' : Type} {f : α → Except ε β} {f' : α' → Except ε' β'}
    {R : α → α' → Prop} {S : β → β' → Prop}
    (each : ∀ x x' y y', R x x' → f x = .ok y → f' x' = .ok y' → S y y') {xs : List α}
    {xs' : List α'} (related : List.Forall₂ R xs xs') {ys : List β} {ys' : List β'}
    (made : xs.mapM f = .ok ys) (made' : xs'.mapM f' = .ok ys') : List.Forall₂ S ys ys' := by
  rw [mapM_eq_ok] at made made'
  induction related generalizing ys ys' with
  | nil =>
    cases made
    cases made'
    exact .nil
  | cons first _ ih =>
    cases made with
    | cons own rest =>
      cases made' with
      | cons own' rest' => exact .cons (each _ _ _ _ first own own') (ih rest rest')

theorem exists_forall₂ {R : α → β → Prop} {xs : List α} (each : ∀ x ∈ xs, ∃ y, R x y) :
    ∃ ys, List.Forall₂ R xs ys := by
  induction xs with
  | nil => exact ⟨[], .nil⟩
  | cons x xs ih =>
    obtain ⟨y, first⟩ := each x List.mem_cons_self
    obtain ⟨ys, rest⟩ := ih fun other mem => each other (List.mem_cons_of_mem _ mem)
    exact ⟨y :: ys, .cons first rest⟩

/-- Lists that are related element by element agree in whatever related elements agree in. -/
theorem map_eq_map_of_forall₂ {γ : Type} {R : α → β → Prop} {f : α → γ} {g : β → γ} {xs : List α}
    {ys : List β} (related : List.Forall₂ R xs ys) (same : ∀ x y, R x y → f x = g y) :
    xs.map f = ys.map g := by
  rw [← List.forall₂_eq_eq_eq, List.forall₂_map_left_iff, List.forall₂_map_right_iff]
  exact related.imp same

/-- In lists that are related element by element, each element has a partner. -/
theorem exists_mem_of_forall₂ {R : α → β → Prop} {xs : List α} {ys : List β}
    (both : List.Forall₂ R xs ys) {x : α} (mem : x ∈ xs) : ∃ y ∈ ys, R x y := by
  induction both with
  | nil => cases mem
  | @cons first partner xs ys related _ ih =>
    rcases List.mem_cons.mp mem with rfl | inside
    · exact ⟨partner, List.mem_cons_self, related⟩
    · obtain ⟨y, mem, related⟩ := ih inside
      exact ⟨y, List.mem_cons_of_mem _ mem, related⟩

/-- Lists that are both related to a third one are related through its elements. -/
theorem forall₂_through {γ : Type} {R : α → γ → Prop} {S : β → γ → Prop} {xs : List α}
    {ys : List β} {zs : List γ} (left : List.Forall₂ R xs zs) (right : List.Forall₂ S ys zs) :
    List.Forall₂ (fun x y => ∃ z, R x z ∧ S y z) xs ys := by
  induction left generalizing ys with
  | nil =>
    cases right
    exact .nil
  | cons first _ ih =>
    cases right with
    | cons own rest => exact .cons ⟨_, first, own⟩ (ih rest)

/-- What related elements have in common is found in both lists or in neither. -/
theorem exists_mem_iff_of_forall₂ {R : α → β → Prop} {P : α → Prop} {Q : β → Prop} {xs : List α}
    {ys : List β} (both : List.Forall₂ R xs ys) (same : ∀ x y, R x y → (P x ↔ Q y)) :
    (∃ x ∈ xs, P x) ↔ ∃ y ∈ ys, Q y := by
  induction both with
  | nil => simp
  | cons first _ ih => simp only [List.mem_cons, exists_eq_or_imp, same _ _ first, ih]

/-! ## Joined lists -/

theorem mem_intercalate {a : α} {separator part : List α} {parts : List (List α)}
    (inside : a ∈ part) (mem : part ∈ parts) : a ∈ separator.intercalate parts := by
  induction mem with
  | head rest => cases rest <;> simp [List.intercalate_cons_cons, inside]
  | @tail other rest _ ih =>
    cases rest with
    | nil => exact absurd ih List.not_mem_nil
    | cons next rest =>
      rw [List.intercalate_cons_cons]
      exact List.mem_append_right _ ih

/-- What stands in joined parts is a joint or stands in one of the parts. -/
theorem mem_of_mem_intercalate {a joint : α} {parts : List (List α)}
    (member : a ∈ [joint].intercalate parts) : a = joint ∨ ∃ part ∈ parts, a ∈ part := by
  induction parts with
  | nil => simp at member
  | cons first rest ih =>
    cases rest with
    | nil => exact .inr ⟨first, by simp, by simpa using member⟩
    | cons second rest =>
      rw [List.intercalate_cons_cons] at member
      rcases List.mem_append.mp member with member | member
      · rcases List.mem_append.mp member with member | member
        · exact .inr ⟨first, by simp, member⟩
        · exact .inl (by simpa using member)
      · rcases ih member with same | ⟨part, among, member⟩
        · exact .inl same
        · exact .inr ⟨part, List.mem_cons_of_mem _ among, member⟩

end TableSearch
