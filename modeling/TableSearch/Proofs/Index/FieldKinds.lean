import TableSearch.IndexSchema
import TableSearch.Proofs.Query.Shapes

/-!
# The kinds of fields

Whether a field holds a vector, a scalar or an array of scalars is asked for more than once: when its
schema is read, when the type of its column is written, and when it is bound.  All of them go back to
one word, the name of its type.  `typeWord?` takes this word from the value of a schema, and
`ScalarType.columnTypeOf?` looks the type of the column up by the word alone.  The main statement is
that a schema is read in one way only and that all places agree on what it says.
-/

namespace TableSearch

/-! ## Alternatives -/

namespace Checked

variable {α : Type} {first second : Checked α} {a : α}

def Excludes (first second : Checked α) : Prop := ∀ a b, first = .valid a → second ≠ .valid b

theorem orElse_eq_valid (apart : first.Excludes second) :
    first.orElse second = .valid a ↔ first = .valid a ∨ second = .valid a := by
  cases first with
  | valid b => simp [orElse, apart b a rfl]
  | invalid faults => cases second <;> simp [orElse]

theorem Excludes.symm (apart : first.Excludes second) : second.Excludes first :=
  fun a b valid other => apart b a other valid

theorem Excludes.within {step step' : Step} (apart : first.Excludes second) :
    (first.within step).Excludes (second.within step') := fun a b valid other =>
  apart a b (within_eq_valid.mp valid) (within_eq_valid.mp other)

/-- Two alternatives have the same faults in both orders. -/
theorem faults_orElse_perm (first second : Checked α) :
    (first.orElse second).faults.Perm (second.orElse first).faults := by
  cases first with
  | valid => cases second <;> exact .rfl
  | invalid faults =>
    cases second with
    | valid => exact .rfl
    | invalid others => exact List.perm_append_comm

theorem andThen_eq_valid {β : Type} {checked : Checked α} {next : α → Checked β} {b : β} :
    checked.andThen next = .valid b ↔ ∃ a, checked = .valid a ∧ next a = .valid b := by
  cases checked <;> simp [andThen]

end Checked

/-! ## Fields of records -/

namespace Decoder

variable {α : Type} {name : String} {decode : Decoder α} {entries : Entries} {a assumed : α}

theorem orFault_eq_valid {cause : Cause} {found : Option α} :
    orFault cause found = .valid a ↔ found = some a := by
  cases found <;> simp [orFault, Checked.fault]

theorem text_eq_valid {value : Value} {s : String} :
    text value = .valid s ↔ textForm? value = some (some s) := by
  unfold text
  cases textForm? value <;> simp [orFault_eq_valid, Checked.fault]

theorem required_eq_valid :
    required [name] decode entries = .valid a ↔
      ∃ value, entries.lookup name = some value ∧ decode value = .valid a := by
  unfold required findField?
  cases found : entries.lookup name <;>
    simp [found, Checked.within_eq_valid, Checked.fault]

theorem withDefault_eq_valid_iff :
    withDefault [name] assumed decode entries = .valid a ↔
      entries.lookup name = none ∧ assumed = a ∨
        ∃ value, entries.lookup name = some value ∧ decode value = .valid a := by
  unfold withDefault findField?
  cases found : entries.lookup name <;> simp [found, Checked.within_eq_valid]

end Decoder

/-! ## Names of scalar types -/

namespace ScalarType

def IsMarked (name : String) : Prop := arrayMark.toList <:+ name.toList

instance (name : String) : Decidable (IsMarked name) :=
  inferInstanceAs (Decidable (arrayMark.toList <:+ name.toList))

/-- A name without the mark of arrays, of which only one is taken off. -/
def unmarked (name : String) : String :=
  if IsMarked name then String.ofList name.toList.dropLast.dropLast else name

def columnTypes : List (String × String) :=
  [("string", "TEXT"), ("int", "INTEGER"), ("bigint", "BIGINT"), ("float", "DOUBLE PRECISION"),
    ("boolean", "BOOLEAN"), ("date", "TIMESTAMPTZ"), ("object", "JSONB"), ("geopoint", "POINT")]

def columnTypeOf? (name : String) : Option String :=
  (columnTypes.lookup (unmarked name)).map fun column =>
    if IsMarked name then column ++ arrayMark else column

theorem isMarked_append (base : String) : IsMarked (base ++ arrayMark) := by
  simp [IsMarked]

theorem exists_of_isMarked {name : String} (marked : IsMarked name) :
    ∃ base, name = base ++ arrayMark := by
  obtain ⟨letters, same⟩ := marked
  exact ⟨String.ofList letters, by rw [← String.toList_inj]; simp [same]⟩

@[simp] theorem unmarked_append (base : String) : unmarked (base ++ arrayMark) = base := by
  rw [unmarked, if_pos (isMarked_append base)]
  simp [arrayMark]

theorem ofName?_append (base : String) :
    ofName? (base ++ arrayMark) = (ScalarKind.ofName? base).map (⟨·, true⟩) := by
  simp [ofName?, arrayMark]

theorem ofName?_of_not_isMarked {name : String} (plain : ¬IsMarked name) :
    ofName? name = (ScalarKind.ofName? name).map (⟨·, false⟩) := by
  have ends : name.toList.reverse.take 2 ≠ [']', '['] := fun same => plain <| by
    have mark : arrayMark.toList.reverse = [']', '['] := by decide
    rw [IsMarked, ← List.reverse_prefix, mark, ← same]
    exact List.take_prefix 2 _
  rw [ofName?]
  exact if_neg ends

theorem not_isMarked_kind (kind : ScalarKind) : ¬IsMarked kind.name := by
  cases kind <;> decide

theorem not_isMarked_kindColumn (kind : ScalarKind) : ¬IsMarked kind.columnType := by
  cases kind <;> decide

theorem name_of_kind {name : String} {kind : ScalarKind}
    (found : ScalarKind.ofName? name = some kind) : kind.name = name := by
  simpa using List.find?_some found

theorem lookup_columnTypes (name : String) :
    columnTypes.lookup name = (ScalarKind.ofName? name).map ScalarKind.columnType := by
  have table : columnTypes = ScalarKind.all.map fun kind => (kind.name, kind.columnType) := rfl
  rw [table, ScalarKind.ofName?]
  induction ScalarKind.all with
  | nil => rfl
  | cons kind kinds ih =>
    rw [List.map_cons, List.lookup_cons, List.find?_cons, BEq.comm (a := name), ih]
    cases kind.name == name <;> rfl

/-- A name is in the table of column types exactly if it is the name of a type, and it has the
column of this type there. -/
theorem columnTypeOf?_eq (name : String) : columnTypeOf? name = (ofName? name).map columnType := by
  rw [columnTypeOf?, lookup_columnTypes]
  by_cases marked : IsMarked name
  · obtain ⟨base, rfl⟩ := exists_of_isMarked marked
    rw [unmarked_append, ofName?_append]
    simp [marked, columnType, Function.comp_def]
  · rw [unmarked, if_neg marked, ofName?_of_not_isMarked marked]
    simp [marked, columnType, Function.comp_def]

theorem ofName?_eq_some_iff {name : String} {type : ScalarType} :
    ofName? name = some type ↔ type.name = name := by
  constructor
  · intro found
    by_cases marked : IsMarked name
    · obtain ⟨base, rfl⟩ := exists_of_isMarked marked
      rw [ofName?_append, Option.map_eq_some_iff] at found
      obtain ⟨kind, found, rfl⟩ := found
      simp [ScalarType.name, name_of_kind found]
    · rw [ofName?_of_not_isMarked marked, Option.map_eq_some_iff] at found
      obtain ⟨kind, found, rfl⟩ := found
      simp [ScalarType.name, name_of_kind found]
  · rintro rfl
    obtain ⟨kind, isArray⟩ := type
    cases isArray with
    | true => simp [ScalarType.name, ofName?_append]
    | false => simp [ScalarType.name, ofName?_of_not_isMarked (not_isMarked_kind kind)]

/-- A text to which the mark is added for arrays ends in it for arrays only. -/
theorem isMarked_ite {base : String} (plain : ¬IsMarked base) (isArray : Bool) :
    IsMarked (if isArray then base ++ arrayMark else base) ↔ isArray = true := by
  cases isArray with
  | true => simp [isMarked_append]
  | false => simpa using plain

theorem isMarked_name (type : ScalarType) : IsMarked type.name ↔ type.isArray = true :=
  isMarked_ite (not_isMarked_kind type.kind) type.isArray

theorem isMarked_columnType (type : ScalarType) :
    IsMarked type.columnType ↔ type.isArray = true :=
  isMarked_ite (not_isMarked_kindColumn type.kind) type.isArray

end ScalarType

/-! ## Reading schemas -/

namespace FieldSchema

def isVector : FieldSchema → Bool
  | vector _ _ _ => true
  | scalar _ _ => false

def isArray : FieldSchema → Bool
  | vector _ _ _ => false
  | scalar type _ => type.isArray

def typeName : FieldSchema → String
  | vector _ _ _ => vectorWord
  | scalar type _ => type.name

/-- The word by which a value names the type of a field.  A value without one means a vector. -/
def typeWord? : Value → Option String
  | .map entries =>
    match entries.lookup "type" with
    | some given => (Decoder.textForm? given).join
    | none => some vectorWord
  | _ => none

def readSwapped : Decoder FieldSchema := fun value =>
  ((readScalar value).within (.key scalarAlternative)).orElse
    ((readVector value).within (.key vectorAlternative))

variable {value : Value} {schema : FieldSchema}

theorem typeName_eq_vectorWord_iff : schema.typeName = vectorWord ↔ schema.isVector = true := by
  cases schema with
  | vector => exact iff_of_true rfl rfl
  | scalar type isKey =>
    exact iff_of_false (beq_eq_false_iff_ne.mp (FieldBinding.isVector_scalar "" type isKey))
      Bool.false_ne_true

/-- A value that is read as a vector names the type of vectors, or none. -/
theorem word_of_readVector (read : readVector value = .valid schema) :
    schema.isVector = true ∧ typeWord? value = some schema.typeName := by
  cases value with
  | map entries =>
    simp only [readVector, Decoder.record, Checked.seq_eq_valid, Checked.map_eq_valid,
      Decoder.withDefault_eq_valid_iff] at read
    obtain ⟨_, ⟨_, ⟨_, ⟨_, word, rfl⟩, _, -, rfl⟩, _, -, rfl⟩, _, -, rfl⟩ := read
    refine ⟨rfl, ?_⟩
    rcases word with ⟨absent, -⟩ | ⟨given, found, word⟩
    · rw [typeWord?, absent, typeName]
    · rw [typeWord?, found]
      cases given with
      | text s =>
        simp only [Decoder.textAmong, Decoder.orFault_eq_valid, Option.ite_none_right_eq_some] at word
        rw [word.1]
        rfl
      | null | bool | int | real | bytes | timestamp | decimal | list | tuple | map => cases word
  | null | bool | int | real | text | bytes | timestamp | decimal | list | tuple => cases read

theorem word_of_readScalar (read : readScalar value = .valid schema) :
    schema.isVector = false ∧ typeWord? value = some schema.typeName := by
  cases value with
  | map entries =>
    simp only [readScalar, Decoder.record, Checked.seq_eq_valid, Checked.map_eq_valid,
      Decoder.required_eq_valid, readScalarType, Checked.andThen_eq_valid, Decoder.text_eq_valid,
      Decoder.orFault_eq_valid, ScalarType.ofName?_eq_some_iff] at read
    obtain ⟨_, ⟨type, ⟨given, found, _, text, rfl⟩, rfl⟩, isKey, -, rfl⟩ := read
    refine ⟨rfl, ?_⟩
    rw [typeWord?, found, typeName]
    simp [text]
  | null | bool | int | real | text | bytes | timestamp | decimal | list | tuple => cases read

/-- No value is read both as a vector and as a scalar, since it has one word for the type. -/
theorem readVector_excludes_readScalar (value : Value) :
    (readVector value).Excludes (readScalar value) := by
  intro schema other asVector asScalar
  obtain ⟨isVector, word⟩ := word_of_readVector asVector
  obtain ⟨isScalar, word'⟩ := word_of_readScalar asScalar
  have same : schema.typeName = other.typeName := Option.some.inj (word.symm.trans word')
  rw [typeName_eq_vectorWord_iff.mpr isVector, eq_comm, typeName_eq_vectorWord_iff, isScalar] at same
  cases same

theorem read_eq_valid : read value = .valid schema ↔
    readVector value = .valid schema ∨ readScalar value = .valid schema := by
  rw [read, Checked.orElse_eq_valid (readVector_excludes_readScalar value).within,
    Checked.within_eq_valid, Checked.within_eq_valid]

theorem readSwapped_eq_valid : readSwapped value = .valid schema ↔ read value = .valid schema := by
  rw [readSwapped, Checked.orElse_eq_valid (readVector_excludes_readScalar value).symm.within,
    Checked.within_eq_valid, Checked.within_eq_valid, read_eq_valid, or_comm]

/-- Any positive number of dimensions is accepted. -/
theorem read_dimensions {n : Nat} (pos : 0 < n) :
    read (.map [("type", .text vectorWord), ("dimensions", .int n)]) =
      .valid (.vector n .standard false) := by
  have sized : Decoder.positive (.int n) = .valid n := by
    rw [Decoder.positive, Checked.map_eq_valid]
    exact ⟨n, if_pos (decide_eq_true (Int.natCast_pos.mpr pos)), Int.toNat_natCast n⟩
  rw [read_eq_valid]
  left
  simp only [readVector, Decoder.record, Checked.seq_eq_valid, Checked.map_eq_valid,
    Decoder.withDefault_eq_valid_iff, Decoder.required_eq_valid]
  -- The fields are read from the last one inwards.
  exact ⟨_, ⟨_, ⟨_, ⟨(), .inr ⟨_, rfl, rfl⟩, rfl⟩, n, ⟨_, rfl, sized⟩, rfl⟩,
    .standard, .inl ⟨rfl, rfl⟩, rfl⟩, false, .inl ⟨rfl, rfl⟩, rfl⟩

/-! ## What follows from a schema -/

theorem isMarked_columnType (schema : FieldSchema) :
    ScalarType.IsMarked schema.columnType ↔ schema.isArray = true := by
  cases schema with
  | vector dimensions metric isKey =>
    refine iff_of_false (fun marked => ?_) Bool.false_ne_true
    obtain ⟨base, same⟩ := ScalarType.exists_of_isMarked marked
    have closing : (base ++ ScalarType.arrayMark).toList.getLast? = some ')' := by
      rw [← same, columnType, String.toList_append]
      exact List.getLast?_concat
    have bracket : (base ++ ScalarType.arrayMark).toList.getLast? = some ']' := by
      simp [ScalarType.arrayMark]
    rw [closing] at bracket
    exact absurd bracket (by decide)
  | scalar type isKey => exact type.isMarked_columnType

theorem isMarked_typeName (schema : FieldSchema) :
    ScalarType.IsMarked schema.typeName ↔ schema.isArray = true := by
  cases schema with
  | vector => exact iff_of_false (by decide : ¬ScalarType.IsMarked vectorWord) Bool.false_ne_true
  | scalar type isKey => exact type.isMarked_name

theorem columnTypeOf?_typeName (scalar : schema.isVector = false) :
    ScalarType.columnTypeOf? schema.typeName = some schema.columnType := by
  cases schema with
  | vector => cases scalar
  | scalar type isKey =>
    rw [ScalarType.columnTypeOf?_eq, typeName, ScalarType.ofName?_eq_some_iff.mpr rfl]
    rfl

/-- Only the dimensions of a vector can be too long for the type of a column. -/
theorem hasColumnType_iff : schema.hasColumnType = true ↔
    ∀ dimensions metric isKey, schema = .vector dimensions metric isKey →
      dimensions < Nat.pow 10 digitLimit := by
  cases schema with
  | vector dimensions metric isKey =>
    rw [hasColumnType, decide_eq_true_eq, Json.length_toString_le_iff (by decide)]
    constructor
    · rintro short _ _ _ same
      cases same
      exact short
    · exact fun short => short dimensions metric isKey rfl
  | scalar => exact iff_of_true rfl nofun

/-- The places where the kind of a field is asked for agree on what a value says of the field: the
alternative that reads it, the word for its type, the type of its column, and its binding. -/
structure IsSettled (value : Value) (schema : FieldSchema) : Prop where
  vector : readVector value = .valid schema ↔ schema.isVector = true
  scalar : readScalar value = .valid schema ↔ schema.isVector = false
  word : typeWord? value = some schema.typeName
  /-- The type of the column of a scalar is found by the word. -/
  found : schema.isVector = false →
    ScalarType.columnTypeOf? schema.typeName = some schema.columnType
  /-- The type of the column can be written, unless a vector has too many dimensions. -/
  written : schema.hasColumnType = true ↔
    ∀ dimensions metric isKey, schema = .vector dimensions metric isKey →
      dimensions < Nat.pow 10 digitLimit
  array : ScalarType.IsMarked schema.columnType ↔ schema.isArray = true
  arrayWord : ScalarType.IsMarked schema.typeName ↔ schema.isArray = true
  bound : ∀ name, (FieldBinding.ofSchema name schema).type = schema.typeName ∧
    (FieldBinding.ofSchema name schema).isVector = schema.isVector
  kept : ∀ name dimensions metric isKey, schema = .vector dimensions metric isKey →
    (FieldBinding.ofSchema name schema).dimensions = some (dimensions : Int) ∧
      (FieldBinding.ofSchema name schema).metric = some metric

theorem isSettled_of_read (accepted : read value = .valid schema) : IsSettled value schema where
  -- The word of the value tells the kind: being read as one kind excludes the word of the other.
  vector := by
    refine ⟨fun read => (word_of_readVector read).1, fun isVector => ?_⟩
    refine (read_eq_valid.mp accepted).resolve_right fun read => ?_
    exact Bool.eq_false_iff.mp (word_of_readScalar read).1 isVector
  scalar := by
    refine ⟨fun read => (word_of_readScalar read).1, fun isScalar => ?_⟩
    refine (read_eq_valid.mp accepted).resolve_left fun read => ?_
    exact Bool.eq_false_iff.mp isScalar (word_of_readVector read).1
  word := (read_eq_valid.mp accepted).elim (fun read => (word_of_readVector read).2)
    fun read => (word_of_readScalar read).2
  found := columnTypeOf?_typeName
  written := hasColumnType_iff
  array := isMarked_columnType schema
  arrayWord := isMarked_typeName schema
  bound := fun name => by
    cases schema with
    | vector => exact ⟨rfl, rfl⟩
    | scalar type isKey => exact ⟨rfl, FieldBinding.isVector_scalar name type isKey⟩
  kept := by
    rintro name dimensions metric isKey rfl
    exact ⟨rfl, rfl⟩

/-- A field schema is read in one way only.  At most one of the two alternatives accepts a value, and
so their order does not matter, but for the order of the faults of a value that both refuse.  What is
accepted is a vector or a scalar for every place that asks, and has a column with a type, unless it
is a vector with a number of dimensions that is too long to be written. -/
theorem read_settled (value : Value) :
    (readVector value).Excludes (readScalar value) ∧
      (∀ schema, readSwapped value = .valid schema ↔ read value = .valid schema) ∧
      (readSwapped value).faults.Perm (read value).faults ∧
      ∀ schema, read value = .valid schema → IsSettled value schema :=
  ⟨readVector_excludes_readScalar value, fun _ => readSwapped_eq_valid,
    Checked.faults_orElse_perm _ _, fun _ => isSettled_of_read⟩

/-- For example, a schema without a type is that of a vector, and arrays of large integers are named
by their mark. -/
theorem read_settled_unnamed_and_array :
    let unnamed : Value := .map [("dimensions", .int 8)]
    let array : Value := .map [("type", .text "bigint[]"), ("pk", .text "yes")]
    read unnamed = .valid (.vector 8 .cosine false) ∧
      IsSettled unnamed (.vector 8 .cosine false) ∧
      read array = .valid (.scalar ⟨.bigint, true⟩ true) ∧
      IsSettled array (.scalar ⟨.bigint, true⟩ true) := by
  intro unnamed array
  have unnamedRead : read unnamed = .valid (.vector 8 .cosine false) := rfl
  have arrayRead : read array = .valid (.scalar ⟨.bigint, true⟩ true) := rfl
  exact ⟨unnamedRead, (read_settled unnamed).2.2.2 _ unnamedRead,
    arrayRead, (read_settled array).2.2.2 _ arrayRead⟩

/-- But the least number of dimensions with one digit too many is accepted, and its column has no
type that could be written. -/
theorem no_columnType_long_dimensions :
    let schema : FieldSchema := .vector (Nat.pow 10 digitLimit) .cosine false
    read (.map [("type", .text vectorWord), ("dimensions", .int (Nat.pow 10 digitLimit : Nat))]) =
        .valid schema ∧
      schema.hasColumnType = false ∧
      IndexSchema.requireColumnTypes [("v", schema)] = .error .wrongForm := by
  intro schema
  have long : schema.hasColumnType = false := by
    rw [← Bool.not_eq_true, hasColumnType_iff]
    exact fun short => Nat.lt_irrefl _ (short _ _ _ rfl)
  have pos (digits : Nat) : 0 < Nat.pow 10 digits := Nat.pow_pos (by decide)
  refine ⟨read_dimensions (pos digitLimit), long, ?_⟩
  rw [IndexSchema.requireColumnTypes, List.all_cons, long]
  rfl

end FieldSchema

end TableSearch
