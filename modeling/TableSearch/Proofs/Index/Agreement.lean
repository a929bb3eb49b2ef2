import TableSearch.Proofs.Index.Durability

/-!
# Changes in two orders

The same changes may be written into the table of bindings in one order and made to the known
bindings in another one.  What both orders leave behind is compared index by index: for each index
the last change to it decides.
-/

namespace TableSearch

/-! ## The last change to an index -/

theorem rel_rearranged_refl (found : Option Binding) :
    Option.Rel Binding.Rearranged found found := by
  cases found with
  | none => exact .none
  | some binding => exact .some (.refl binding)

namespace Change

def indexId : Change → String
  | bind indexId _ | release indexId => indexId

def binding? : Change → Option Binding
  | bind _ binding => some binding
  | release _ => none

theorem lookup_apply_self (change : Change) (bindings : List (String × Binding)) :
    (change.apply bindings).lookup change.indexId = change.binding? := by
  cases change with
  | bind indexId binding => exact lookup_insertEntry _ _ _
  | release indexId =>
    rw [binding?, ← Option.not_isSome_iff_eq_none, isSome_lookup_iff]
    rintro mem
    obtain ⟨entry, inside, same⟩ := List.mem_map.mp mem
    exact bne_iff_ne.mp (List.mem_filter.mp inside).2 same

theorem lookup_apply_of_ne {change : Change} {indexId : String} (other : indexId ≠ change.indexId)
    (bindings : List (String × Binding)) :
    (change.apply bindings).lookup indexId = bindings.lookup indexId := by
  cases change with
  | bind name binding => exact lookup_insertEntry_of_ne _ other
  | release name => exact lookup_filter (· != name) (bne_iff_ne.mpr other)

def lastOn (indexId : String) (changes : List Change) : Option Change :=
  changes.reverse.find? (·.indexId == indexId)

/-- What is known of an index is what the last change to it has left behind. -/
theorem lookup_applies (changes : List Change) (bindings : List (String × Binding))
    (indexId : String) :
    (changes.foldl apply bindings).lookup indexId =
      (lastOn indexId changes).elim (bindings.lookup indexId) binding? := by
  -- The last change either is about the index, or leaves it to those before it.
  induction changes using List.reverseRecOn with
  | nil => rfl
  | append_singleton changes change ih =>
    rw [List.foldl_append, List.foldl_cons, List.foldl_nil]
    rw [lastOn, List.reverse_append, List.reverse_singleton, List.singleton_append, List.find?_cons]
    by_cases same : change.indexId = indexId
    · subst same
      rw [lookup_apply_self, beq_self_eq_true]
      rfl
    · rw [lookup_apply_of_ne (Ne.symm same), beq_false_of_ne same]
      exact ih

theorem lastOn_eq_none_iff {indexId : String} {changes : List Change} :
    lastOn indexId changes = none ↔ ∀ change ∈ changes, change.indexId ≠ indexId := by
  simp [lastOn]

theorem mem_of_lastOn {indexId : String} {changes : List Change} {change : Change}
    (last : lastOn indexId changes = some change) :
    change ∈ changes ∧ change.indexId = indexId :=
  ⟨List.mem_reverse.mp (List.mem_of_find?_eq_some last), by simpa using List.find?_some last⟩

def EndAlike (indexId : String) (changes others : List Change) : Prop :=
  Option.Rel Binding.Rearranged ((lastOn indexId changes).bind binding?)
    ((lastOn indexId others).bind binding?)

variable {changes others : List Change}

/-- The same changes in two orders leave the same behind where they end alike. -/
theorem rel_lookup_iff (perm : changes.Perm others) (bindings : List (String × Binding))
    (indexId : String) :
    Option.Rel Binding.Rearranged ((changes.foldl apply bindings).lookup indexId)
        ((others.foldl apply bindings).lookup indexId) ↔
      EndAlike indexId changes others := by
  rw [lookup_applies, lookup_applies, EndAlike]
  cases last : lastOn indexId changes with
  | none =>
    have last' : lastOn indexId others = none :=
      lastOn_eq_none_iff.mpr fun change mem => lastOn_eq_none_iff.mp last change (perm.mem_iff.mpr mem)
    rw [last']
    exact ⟨fun _ => .none, fun _ => rel_rearranged_refl _⟩
  | some change =>
    cases last' : lastOn indexId others with
    | none =>
      obtain ⟨mem, same⟩ := mem_of_lastOn last
      exact absurd same (lastOn_eq_none_iff.mp last' change (perm.mem_iff.mp mem))
    | some other => rfl

/-- Changes to different indexes end alike in any order. -/
theorem endAlike_of_distinct (perm : changes.Perm others)
    (distinct : (changes.map indexId).Nodup) (name : String) : EndAlike name changes others := by
  have same : lastOn name changes = lastOn name others := by
    cases last : lastOn name changes with
    | none =>
      exact (lastOn_eq_none_iff.mpr fun change mem =>
        lastOn_eq_none_iff.mp last change (perm.mem_iff.mpr mem)).symm
    | some change =>
      obtain ⟨mem, named⟩ := mem_of_lastOn last
      cases last' : lastOn name others with
      | none => exact absurd named (lastOn_eq_none_iff.mp last' change (perm.mem_iff.mp mem))
      | some other =>
        obtain ⟨mem', named'⟩ := mem_of_lastOn last'
        rw [List.inj_on_of_nodup_map distinct mem (perm.mem_iff.mpr mem') (named.trans named'.symm)]
  rw [EndAlike, same]
  exact rel_rearranged_refl _

end Change

/-! ## Rows and known bindings -/

namespace Mirrors

variable {shown : String → Value} {rows : List BindingRow} {known bindings : List (String × Binding)}

theorem of_rel (mirrors : Mirrors shown rows known)
    (same : ∀ indexId, Option.Rel Binding.Rearranged (bindings.lookup indexId)
      (known.lookup indexId)) : Mirrors shown rows bindings := by
  refine ⟨mirrors.distinct, fun indexId binding found => ?_, fun row mem own => ?_⟩
  · have related := same indexId
    rw [found] at related
    -- A binding is known on one side just if one is known on the other.
    cases there : known.lookup indexId with
    | none =>
      rw [there] at related
      cases related
    | some other =>
      rw [there] at related
      cases related with
      | some related =>
        obtain ⟨row, mem, named, own, holds⟩ := mirrors.stored indexId other there
        exact ⟨row, mem, named, own, fun read again => related.trans (holds read again)⟩
  · obtain ⟨binding, found⟩ := mirrors.known row mem own
    have related := same row.id
    rw [found] at related
    cases there : bindings.lookup row.id with
    | none =>
      rw [there] at related
      cases related
    | some other => exact ⟨other, rfl⟩

end Mirrors

/-- A change is safe no matter what has been written in front of it. -/
theorem Change.IsSafe.write {rows : List BindingRow} (distinct : (rows.map (·.id)).Nodup)
    {change : Change} (safe : change.IsSafe rows) (other : Change) :
    change.IsSafe (other.write rows) := by
  intro indexId binding binds
  obtain ⟨names, own⟩ := safe indexId binding binds
  refine ⟨names, fun row mem named => ?_⟩
  by_contra foreign
  obtain ⟨-, old, inside, same, foreign⟩ :=
    foreign_of_mem_write distinct mem (Bool.not_eq_true _ ▸ foreign)
  rw [own old inside (same.trans named)] at foreign
  cases foreign

/-- Rows and bindings that change in one order stay the same. -/
theorem Mirrors.writes {shown : String → Value} {rows : List BindingRow}
    {bindings : List (String × Binding)} (faithful : ShowsTexts shown)
    (mirrors : Mirrors shown rows bindings) {changes : List Change}
    (safe : ∀ change ∈ changes, change.IsSafe rows) :
    Mirrors shown (changes.foldl Change.write rows) (changes.foldl Change.apply bindings) := by
  induction changes generalizing rows bindings with
  | nil => exact mirrors
  | cons change changes ih =>
    obtain ⟨first, rest⟩ := List.forall_mem_cons.mp safe
    exact ih (mirrors.write faithful first) fun other mem =>
      (rest other mem).write mirrors.distinct change

end TableSearch
