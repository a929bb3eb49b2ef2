import TableSearch.Index.Handle
import TableSearch.Proofs.Results

/-!
# Documents that differ in values alone

Documents with the same keys are written by statements of the same text, as long as each value is
absent where the other one is, and a field that is not bound is given a vector where the other one
is given a vector.
-/

namespace TableSearch

open Sql

/-! ## Values and documents -/

/-- Values that a field is written with in the same way; the binding decides about it if the field
is bound. -/
structure Value.SameForm (isUnbound : Prop) (value other : Value) : Prop where
  null : value.isNull = other.isNull
  vector : isUnbound → value.isVector = other.isVector

/-- Entries with the same key, whose values have the same form under a binding. -/
def Binding.SameEntry (binding : Binding) (entry other : String × Value) : Prop :=
  entry.1 = other.1 ∧ Value.SameForm (binding.field? entry.1 = none) entry.2 other.2

/-- Mappings with the same keys in the same order, whose values have the same form. -/
inductive Document.Alike (binding : Binding) : Value → Value → Prop where
  | intro {entries others : Entries} (each : List.Forall₂ binding.SameEntry entries others) :
      Alike binding (.map entries) (.map others)

variable {binding : Binding}

theorem Binding.sameForm_lookup {entries others : Entries}
    (each : List.Forall₂ binding.SameEntry entries others) (field : String) :
    Value.SameForm (binding.field? field = none) ((entries.lookup field).getD .null)
      ((others.lookup field).getD .null) := by
  induction each with
  | nil => exact ⟨rfl, fun _ => rfl⟩
  | @cons entry other _ _ first _ ih =>
    obtain ⟨key, value⟩ := entry
    obtain ⟨key', value'⟩ := other
    obtain ⟨rfl, form⟩ := first
    rw [List.lookup_cons, List.lookup_cons]
    cases isKey : field == key with
    | true =>
      obtain rfl := beq_iff_eq.mp isKey
      exact form
    | false => exact ih

theorem Document.Alike.toList_eq {document other : Value} (alike : Alike binding document other) :
    document.toList = other.toList := by
  obtain ⟨each⟩ := alike
  rename_i entries others
  have keys : entries.map (·.1) = others.map (·.1) := by
    induction each with
    | nil => rfl
    | cons first _ ih => rw [List.map_cons, List.map_cons, first.1, ih]
  have members (entries : Entries) :
      (Value.map entries).toList = .ok ((entries.map (·.1)).map .text) := by
    simp [Value.toList, Value.elements?, Value.orElse]
  rw [members, members, keys]

theorem Document.fieldNames_eq {keyField : String} {documents others : List Value}
    (alike : List.Forall₂ (Alike binding) documents others) :
    fieldNames keyField documents = fieldNames keyField others := by
  have lists : documents.mapM Value.toList = others.mapM Value.toList := by
    induction alike with
    | nil => rfl
    | cons first _ ih => rw [List.mapM_cons, List.mapM_cons, first.toList_eq, ih]
  rw [fieldNames, fieldNames, lists]

/-! ## Cells -/

def Binding.castOf (binding : Binding) (field : String) (value : Value) : Option Cast :=
  if value.isNull then none
  else
    match binding.field? field with
    | none => if value.isVector then some .vector else none
    | some bound =>
      if bound.isVector then some .vector else if bound.isObject then some .json else none

theorem Sql.Cell.cast_ofField {field : String} {value : Value} {cell : Cell}
    (written : ofField binding field value = .ok cell) : cell.cast = binding.castOf field value := by
  have plain (written : (.ok { value } : Except ConversionError Cell) = .ok cell) :
      cell.cast = none := by
    cases written
    rfl
  have encoded {text : Except ConversionError String} {cast : Cast}
      (written : (do return { value := .text (← text), cast := some cast } :
        Except ConversionError Cell) = .ok cell) : cell.cast = some cast := by
    simp only [bind_eq_ok, pure_eq_ok] at written
    obtain ⟨_, -, rfl⟩ := written
    rfl
  -- The cases are those of writing a cell; in each of them the cast stands beside the value.
  unfold ofField at written
  unfold Binding.castOf
  split at written
  next => exact plain written
  next given =>
    have notNull : value.isNull = false := by
      cases value with
      | null => exact absurd rfl given
      | _ => rfl
    rw [notNull, if_neg Bool.false_ne_true]
    cases bound : binding.field? field with
    | none =>
      simp only [bound] at written ⊢
      split at written
      next isVector => rw [if_pos isVector, encoded written]
      next noVector => rw [if_neg noVector, plain written]
    | some fieldBinding =>
      simp only [bound] at written ⊢
      split at written
      next isVector => rw [if_pos isVector, encoded written]
      next noVector =>
        rw [if_neg noVector]
        split at written
        next isObject => rw [if_pos isObject, encoded written]
        next noObject => rw [if_neg noObject, plain written]

def Sql.Cell.SameCast (cell other : Cell) : Prop := cell.cast = other.cast

theorem Sql.Cell.sameCast_of_sameForm {field : String} {value other : Value}
    (form : Value.SameForm (binding.field? field = none) value other) {cell cell' : Cell}
    (written : ofField binding field value = .ok cell)
    (written' : ofField binding field other = .ok cell') : cell.SameCast cell' := by
  rw [SameCast, cast_ofField written, cast_ofField written', Binding.castOf, Binding.castOf,
    form.null]
  cases bound : binding.field? field with
  | none => rw [form.vector bound]
  | some _ => rfl

namespace Sql.Statement

theorem fragment_eq_of_sameCast {cell other : Cell} (same : cell.SameCast other) (number : Int) :
    cell.fragment number = other.fragment number := by
  rw [Cell.fragment, same, Cell.fragment]

theorem cellFragments_eq {cells others : List Cell}
    (same : List.Forall₂ Cell.SameCast cells others) (next : Int) :
    cellFragments next cells = cellFragments next others := by
  induction same generalizing next with
  | nil => rfl
  | cons first _ ih => rw [cellFragments, cellFragments, fragment_eq_of_sameCast first, ih]

theorem rowFragments_eq {rows others : List (List Cell)}
    (same : List.Forall₂ (List.Forall₂ Cell.SameCast) rows others) (next : Int) :
    rowFragments next rows = rowFragments next others := by
  induction same generalizing next with
  | nil => rfl
  | cons first _ ih => rw [rowFragments, rowFragments, cellFragments_eq first, first.length_eq, ih]

theorem changeFragments_eq {changes others : List (String × Cell)}
    (same : List.Forall₂ (fun change other => change.1 = other.1 ∧ change.2.SameCast other.2)
      changes others) (next : Int) :
    changeFragments next changes = changeFragments next others := by
  induction same generalizing next with
  | nil => rfl
  | @cons change other _ _ first _ ih =>
    obtain ⟨column, cell⟩ := change
    obtain ⟨column', cell'⟩ := other
    obtain ⟨rfl, same⟩ := first
    rw [changeFragments, changeFragments, fragment_eq_of_sameCast same, ih]

end Sql.Statement

/-! ## Statements -/

namespace Document

theorem sameCast_row {fields : List String} {document other : Value}
    (alike : Alike binding document other) {cells cells' : List Cell}
    (written : row binding fields document = .ok cells)
    (written' : row binding fields other = .ok cells') :
    List.Forall₂ Cell.SameCast cells cells' := by
  obtain ⟨each⟩ := alike
  simp only [row, bind_eq_ok, pure_eq_ok, Failure.ofConversion, mapError_eq_ok, Value.toEntries]
    at written written'
  obtain ⟨key, -, _, ⟨⟩, cells, encoded, rfl⟩ := written
  obtain ⟨key', -, _, ⟨⟩, cells', encoded', rfl⟩ := written'
  have same : List.Forall₂ Eq fields fields := List.forall₂_refl fields
  refine .cons rfl (forall₂_of_mapM (fun field _ cell cell' same own own' => ?_) same encoded
    encoded')
  subst same
  exact Cell.sameCast_of_sameForm (Binding.sameForm_lookup each field) own own'

theorem upsert_text_eq {documents others : List Value}
    (alike : List.Forall₂ (Alike binding) documents others)
    {statement statement' : Statement} (written : upsert binding documents = .ok statement)
    (written' : upsert binding others = .ok statement') : statement.text = statement'.text := by
  simp only [upsert, bind_eq_ok, pure_eq_ok, fieldNames_eq alike] at written written'
  obtain ⟨fields, named, rows, stored, rfl⟩ := written
  obtain ⟨fields', named', rows', stored', rfl⟩ := written'
  cases named.symm.trans named'
  have same : List.Forall₂ (List.Forall₂ Cell.SameCast) rows rows' := by
    refine forall₂_of_mapM (fun _ _ _ _ alike own own' => ?_) alike stored stored'
    exact sameCast_row alike own own'
  simp only [Statement.text, Statement.clause, Clause.text, Statement.rowFragments_eq same]

/-- Patches that are alike make changes with the same columns and casts. -/
theorem sameCast_changes {entries others : Entries}
    (each : List.Forall₂ binding.SameEntry entries others) {changed changed' : List (String × Cell)}
    (written : changes binding entries = .ok changed)
    (written' : changes binding others = .ok changed') :
    List.Forall₂ (fun change other => change.1 = other.1 ∧ change.2.SameCast other.2) changed
      changed' := by
  refine forall₂_of_mapM (fun entry other change change' same own own' => ?_)
    (List.rel_filter (fun entry other same => by simp only [same.1]) each) written written'
  obtain ⟨field, value⟩ := entry
  obtain ⟨field', value'⟩ := other
  obtain ⟨rfl, form⟩ := same
  simp only [bind_eq_ok, pure_eq_ok] at own own'
  obtain ⟨cell, encoded, rfl⟩ := own
  obtain ⟨cell', encoded', rfl⟩ := own'
  exact ⟨rfl, Cell.sameCast_of_sameForm form encoded encoded'⟩

/-- Patches that are alike are written by statements of the same text, or both change nothing. -/
theorem patch_text_eq {document other : Value}
    (alike : Alike binding document other)
    {statement? statement?' : Option Statement} (written : patch binding document = .ok statement?)
    (written' : patch binding other = .ok statement?') :
    Option.Rel (fun statement statement' => statement.text = statement'.text) statement?
      statement?' := by
  obtain ⟨each⟩ := alike
  simp only [patch, bind_eq_ok, Failure.ofConversion, mapError_eq_ok, Value.toEntries]
    at written written'
  obtain ⟨key, -, _, ⟨⟩, changed, made, written⟩ := written
  obtain ⟨key', -, _, ⟨⟩, changed', made', written'⟩ := written'
  have same := sameCast_changes each made made'
  -- A patch that changes nothing is not written, and both of them change the same columns.
  cases same with
  | nil =>
    cases written
    cases written'
    exact .none
  | cons first rest =>
    cases written
    cases written'
    refine .some ?_
    simp only [Statement.text, Statement.clause, Clause.text,
      Statement.changeFragments_eq (.cons first rest), List.length_cons, rest.length_eq]

end Document

end TableSearch
