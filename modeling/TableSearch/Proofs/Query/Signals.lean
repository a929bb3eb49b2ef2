import TableSearch.Proofs.Query.Numbering

/-!
# The two traversals of the signals

Whether the signals are accepted is decided by counting their inputs, and the field to rank by is
found by a search of its own.  Both are about the same entries, those in `Signal.vectors` and
`Signal.texts`: so accepted signals have at most one vector, and it is the one that is found.
-/

namespace TableSearch

theorem eq_singleton_of_mem {α : Type} {xs : List α} {x : α} (short : xs.length ≤ 1)
    (mem : x ∈ xs) : xs = [x] := by
  match xs, mem with
  | [_], mem => rw [List.mem_singleton.mp mem]
  | _ :: _ :: _, _ => simp at short

theorem Value.isText_eq_false_of_isVector {value : Value} (vector : value.isVector = true) :
    value.isText = false := by
  cases value with
  | text => cases vector
  | _ => rfl

namespace Signal

theorem countInputs_eq (signal : Signal) :
    signal.countInputs = (signal.vectors.length, signal.texts.length) := by
  unfold vectors texts fields
  induction signal with
  | nil => rfl
  | cons entry rest ih =>
    obtain ⟨field, value⟩ := entry
    rw [countInputs, ih]
    by_cases weight : field = weightKey
    · simp [weight]
    · -- a vector is no text, so the order of the two questions does not matter
      cases vector : value.isVector with
      | true => simp [weight, vector, Value.isText_eq_false_of_isVector vector]
      | false => cases text : value.isText <;> simp [weight, vector, text]

theorem findVector?_eq_head? (signals : List Signal) :
    findVector? signals = (signals.flatMap vectors).head? := by
  induction signals with
  | nil => rfl
  | cons signal rest ih =>
    have first : signal.vectors.head? =
        signal.find? fun entry => entry.1 != weightKey && entry.2.isVector := by
      simp only [vectors, fields, List.filter_filter, List.head?_filter, Bool.and_comm]
    rw [findVector?, List.flatMap_cons, List.head?_append, first, ih]
    split <;> simp [*]

/-- Signals are accepted if there is at most one, and if that one has at most one vector and no
text beside a vector. -/
theorem check_eq_ok {signals : List Signal} :
    check signals = .ok () ↔ signals.length ≤ 1 ∧ ∀ signal ∈ signals,
      signal.vectors.length ≤ 1 ∧ (signal.vectors = [] ∨ signal.texts = []) := by
  match signals with
  | [] => simp [check]
  | [signal] =>
    have mixed : (decide (signal.vectors.length > 0) && decide (signal.texts.length > 0)) = true ↔
        ¬(signal.vectors = [] ∨ signal.texts = []) := by
      simp [List.length_pos_iff]
    simp only [check, countInputs_eq]
    by_cases several : signal.vectors.length > 1
    · rw [if_pos several]
      refine ⟨nofun, fun ⟨_, each⟩ => ?_⟩
      have single := (each signal List.mem_cons_self).1
      omega
    · rw [if_neg several]
      by_cases beside : signal.vectors = [] ∨ signal.texts = []
      · rw [if_neg (mixed.not.mpr (not_not.mpr beside))]
        simpa [beside] using Nat.not_lt.mp several
      · rw [if_pos (mixed.mpr beside)]
        exact ⟨nofun, fun ⟨_, each⟩ => absurd (each signal List.mem_cons_self).2 beside⟩
  | first :: second :: rest => simp [check]

/-- Accepted signals have at most one vector, which is the one that is sought. -/
theorem findVector?_of_check {signals : List Signal} {signal : Signal} {field : String}
    {vector : Value} (checked : check signals = .ok ()) (mem : signal ∈ signals)
    (inside : (field, vector) ∈ signal.vectors) : findVector? signals = some (field, vector) := by
  obtain ⟨single, each⟩ := check_eq_ok.mp checked
  rw [findVector?_eq_head?, eq_singleton_of_mem single mem, List.flatMap_singleton,
    eq_singleton_of_mem (each signal mem).1 inside]
  rfl

end Signal

end TableSearch
