import TableSearch.Index.Handle
import TableSearch.Proofs.Json.Documents

/-!
# Stored values are read back

A value is bound as a cell, the database stores the cell, and a search decodes what the
column gives back.  `Returns` is what is expected of the database: a column without a cast
gives back the value itself, and a vector or a JSON column some text that denotes what the
bound text denotes.  The text need not be the bound one, since the database has its own
forms of numbers and its own order of keys.
-/

namespace TableSearch

open Sql

/-- The value that a column gives back for a cell. -/
inductive Returns : Cell → Value → Prop where
  | plain (value : Value) : Returns { value } value
  | vector {bound stored : String} {written : Value} {items : List Value}
      (denoted : Json.read bound.toList = .ok written) (opens : stored.toList.head? = some '[')
      (read : Json.read stored.toList = .ok (.list items))
      (numbers : ∀ item ∈ items, item.isPlainNumber = true)
      (same : (Value.list items).Same written) :
      Returns { value := .text bound, cast := some .vector } (.text stored)
  | json {bound stored : String} {written value : Value}
      (denoted : Json.read bound.toList = .ok written) (read : Json.read stored.toList = .ok value)
      (same : value.Same written) :
      Returns { value := .text bound, cast := some .json } (.text stored)

/-! ## What fields hold -/

namespace FieldSchema

def objectType : ScalarType := ⟨.object, false⟩

/-- Whether a value may stand in a field.  A vector is a list, and an object has a JSON
form; either may be absent. -/
def Fits : FieldSchema → Value → Prop
  | .vector _ _ _, value => value = .null ∨ ∃ items, value = .list items
  | .scalar type _, value => type = objectType → value.IsJson

/-- What a search gives for the value of a field: the components of a vector as doubles,
and every other value itself.  Vectors and objects, which have a text in the database,
come back as values that are the same. -/
inductive Gives : FieldSchema → Value → Value → Prop where
  | null (field : FieldSchema) : Gives field .null .null
  | vector {dimensions : Nat} {metric : Metric} {isKey : Bool} {items reals : List Value}
      {given : Value} (doubles : Vector.components items = .ok reals)
      (same : given.Same (.list reals)) : Gives (.vector dimensions metric isKey) (.list items) given
  | object {isKey : Bool} {value given : Value} (same : given.Same value) :
      Gives (.scalar objectType isKey) value given
  | scalar {type : ScalarType} {isKey : Bool} (value : Value) :
      Gives (.scalar type isKey) value value

end FieldSchema

namespace FieldBinding

variable (name : String)

@[simp] theorem isVector_vector (dimensions : Nat) (metric : Metric) (isKey : Bool) :
    (ofSchema name (.vector dimensions metric isKey)).isVector = true := rfl

@[simp] theorem isVector_scalar (type : ScalarType) (isKey : Bool) :
    (ofSchema name (.scalar type isKey)).isVector = false := by
  obtain ⟨kind, isArray⟩ := type
  cases kind <;> cases isArray <;> rfl

@[simp] theorem isObject_scalar (type : ScalarType) (isKey : Bool) :
    (ofSchema name (.scalar type isKey)).isObject = decide (type = FieldSchema.objectType) := by
  obtain ⟨kind, isArray⟩ := type
  cases kind <;> cases isArray <;> rfl

end FieldBinding

/-! ## Vectors -/

namespace Vector

/-- A stored vector is decoded to doubles that are the same as the components that were
bound. -/
theorem decode_returns {stored : String} {items : List Value} {reals : List Binary64}
    (opens : stored.toList.head? = some '[') (read : Json.read stored.toList = .ok (.list items))
    (numbers : ∀ item ∈ items, item.isPlainNumber = true)
    (same : (Value.list items).Same (.list (reals.map .real))) :
    ∃ given, decode (.text stored) = .ok given ∧ given.Same (.list (reals.map .real)) := by
  obtain ⟨others, converted, given⟩ := components_same numbers same
  exact ⟨.list others, decode_of_read opens read converted, given⟩

end Vector

/-! ## Fields -/

/-- The cell of a value that is there, in a field that the binding knows. -/
theorem ofField_of_bound {binding : Binding} {name : String} {bound : FieldBinding}
    (found : binding.field? name = some bound) {value : Value} (present : value ≠ .null) :
    Cell.ofField binding name value =
      if bound.isVector then do
        return { value := .text (← Vector.encode value), cast := some .vector }
      else if bound.isObject then do
        return { value := .text (← Json.write Json.documentStyle value), cast := some .json }
      else .ok { value } := by
  cases value with
  | null => exact absurd rfl present
  | _ => simp only [Cell.ofField, found]

/-- The value of a field that was bound and stored is decoded to what a search gives for it. -/
theorem decodeField_returns {binding : Binding} {name : String} {field : FieldSchema}
    (bound : binding.field? name = some (.ofSchema name field)) {value stored : Value} {cell : Cell}
    (encoded : Cell.ofField binding name value = .ok cell) (returns : Returns cell stored)
    (fits : field.Fits value) :
    ∃ given, Hit.decodeField (.ofSchema name field) stored = .ok given ∧
      field.Gives value given := by
  -- Null is stored as null under every kind of field, and shown as null again.
  by_cases absent : value = .null
  · subst absent
    cases encoded
    cases returns
    refine ⟨.null, ?_, .null field⟩
    simp only [Hit.decodeField, Vector.decode, Json.decode, ite_self]
  cases field with
  | vector dimensions metric isKey =>
    obtain ⟨items, rfl⟩ := fits.resolve_left absent
    rw [ofField_of_bound bound absent, FieldBinding.isVector_vector, if_pos rfl] at encoded
    simp only [bind_eq_ok, pure_eq_ok] at encoded
    obtain ⟨text, encoded, rfl⟩ := encoded
    obtain ⟨reals, components, denotes⟩ := Vector.read_encode encoded
    cases returns with
    | vector denoted opens read numbers same =>
      cases denotes.symm.trans denoted
      obtain ⟨given, decoded, same⟩ := Vector.decode_returns opens read numbers same
      refine ⟨given, ?_, .vector components same⟩
      rw [Hit.decodeField, FieldBinding.isVector_vector, if_pos rfl, decoded]
  | scalar type isKey =>
    rw [ofField_of_bound bound absent, FieldBinding.isVector_scalar, if_neg Bool.false_ne_true,
      FieldBinding.isObject_scalar] at encoded
    -- Of the scalar fields only objects are written as texts; other values are stored as they are.
    by_cases object : type = FieldSchema.objectType
    · subst object
      simp only [decide_true, if_true, bind_eq_ok, pure_eq_ok] at encoded
      obtain ⟨text, written, rfl⟩ := encoded
      have denotes := Json.read_write Json.documentStyle_separates rfl (fits rfl) written
      cases returns with
      | @json _ _ _ given denoted read same =>
        cases denotes.symm.trans denoted
        refine ⟨given, ?_, .object same⟩
        simp only [Hit.decodeField, FieldBinding.isVector_scalar, FieldBinding.isObject_scalar,
          decide_true, if_true, Bool.false_eq_true, if_false, Json.decode, read]
    · simp only [object, decide_false, Bool.false_eq_true, if_false] at encoded
      cases encoded
      cases returns
      refine ⟨value, ?_, .scalar value⟩
      simp only [Hit.decodeField, FieldBinding.isVector_scalar, FieldBinding.isObject_scalar,
        object, decide_false, Bool.false_eq_true, if_false]

end TableSearch
