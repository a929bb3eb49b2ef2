import TableSearch.Proofs.Index.StoredForm

/-!
# The stored text of a binding

A binding is stored as a text, from which it is loaded again.  The text keeps everything: the
names with all their characters, the order of the fields, and which parts are there.  Only a
number of dimensions with more digits than are read is written and yet not read back.
-/

namespace TableSearch

/-! ## The integers in a stored form -/

theorem FieldBinding.holdsInteger_toValue {field : FieldBinding} {n : Int} :
    field.toValue.HoldsInteger n ↔ field.dimensions = some n := by
  obtain ⟨column, type, dimensions, metric⟩ := field
  have fromText {s : String} : ¬(Value.text s).HoldsInteger n := nofun
  constructor
  · intro inside
    cases inside with
    | map mem inside =>
      simp only [List.mem_append, List.mem_cons, List.not_mem_nil, or_false, Option.mem_toList,
        Option.map_eq_some_iff] at mem
      obtain ((rfl | rfl) | ⟨m, same, rfl⟩) | ⟨m, -, rfl⟩ := mem
      · exact absurd inside fromText
      · exact absurd inside fromText
      · cases inside
        exact same
      · exact absurd inside fromText
  · rintro rfl
    refine @Value.HoldsInteger.map n _ ("dimensions", .int n) ?_ .int
    simp

/-- The only integers in the stored form of a binding are the numbers of dimensions. -/
theorem Binding.holdsInteger_toValue {binding : Binding} {n : Int} :
    binding.toValue.HoldsInteger n ↔ ∃ field ∈ binding.fields, field.2.dimensions = some n := by
  have fromText {s : String} : ¬(Value.text s).HoldsInteger n := nofun
  rw [toValue_eq]
  constructor
  · intro inside
    cases inside with
    | map mem inside =>
      -- The names of the binding are texts, so an integer can only come from one of its fields.
      simp only [List.mem_cons, List.not_mem_nil, or_false] at mem
      rcases mem with rfl | rfl | rfl | rfl
      · exact absurd inside fromText
      · exact absurd inside fromText
      · exact absurd inside fromText
      · cases inside with
        | map mem inside =>
          obtain ⟨field, bound, rfl⟩ := List.mem_map.mp mem
          exact ⟨field, bound, FieldBinding.holdsInteger_toValue.mp inside⟩
  · rintro ⟨field, bound, sized⟩
    refine @Value.HoldsInteger.map n _ ("fields", .map binding.storedFields) (by simp) ?_
    exact .map (List.mem_map.mpr ⟨field, bound, rfl⟩) (FieldBinding.holdsInteger_toValue.mpr sized)

namespace Binding

variable {binding : Binding}

theorem isReadable_iff :
    binding.IsReadable ↔ ∀ n, binding.toValue.HoldsInteger n → Json.IsShort n := by
  simp only [holdsInteger_toValue, IsReadable]
  exact ⟨fun short n ⟨field, bound, sized⟩ => short field bound n sized,
    fun short field bound n sized => short n ⟨field, bound, sized⟩⟩

/-- The stored text of a binding denotes its stored form and nothing else. -/
theorem decode_toJson_iff (names : (binding.fields.map (·.1)).Nodup) {config : Value} :
    Json.decode (.text binding.toJson) = .ok config ↔
      binding.IsReadable ∧ config = binding.toValue := by
  have json : binding.toValue.IsJson :=
    (isExact_toValue (P := fun _ => True) names fun _ _ _ _ => trivial).isJson
  have written := write_toValue names
  have readable := Json.exists_read_write_iff Json.bindingStyle_separates json written
  rw [isReadable_iff, ← readable]
  constructor
  -- Whatever the text is decoded to, it is what was written.
  · exact fun found => ⟨⟨config, found⟩,
      Json.eq_of_read_write Json.bindingStyle_separates json written found⟩
  · rintro ⟨⟨found, same⟩, rfl⟩
    obtain rfl := Json.eq_of_read_write Json.bindingStyle_separates json written same
    exact same

/-- A binding is loaded from its stored text as it was, with its fields in their order, so that it
would be stored as the same text again.  The exception is a number of dimensions that is too long:
then the text, although it is written, cannot be decoded. -/
theorem reloads_from_text (names : (binding.fields.map (·.1)).Nodup) :
    Json.write Json.bindingStyle binding.toValue = .ok binding.toJson ∧
      (binding.IsReadable →
        ∃ config reloaded, Json.decode (.text binding.toJson) = .ok config ∧
          read config = .valid reloaded ∧ reloaded = binding ∧
          reloaded.toJson = binding.toJson) ∧
      (¬binding.IsReadable → ∀ config, Json.decode (.text binding.toJson) ≠ .ok config) := by
  refine ⟨write_toValue names, fun short => ?_, fun long config found => ?_⟩
  · have found := (decode_toJson_iff names).mpr ⟨short, rfl⟩
    exact ⟨_, binding, found, read_toValue binding, rfl, rfl⟩
  · exact long ((decode_toJson_iff names).mp found).1

/-- For example, names may hold quotes, backslashes, control characters and characters beyond the
first plane, and a number of dimensions may be negative. -/
theorem reloads_from_text_odd_names :
    let binding : Binding :=
      { schema := "a\"b\\c", table := "t\x01\n", keyColumn := ""
        fields := [("😀", { column := "[\"x\": 1]", type := "vector", dimensions := some (-3) }),
          ("", { column := "\x7f é", metric := some .euclidean })] }
    (binding.fields.map (·.1)).Nodup ∧ binding.IsReadable ∧
      ∃ config, Json.decode (.text binding.toJson) = .ok config ∧ read config = .valid binding := by
  intro binding
  have names : (binding.fields.map (·.1)).Nodup := by decide
  have short : binding.IsReadable :=
    List.forall_mem_cons.mpr ⟨fun n sized => by cases sized; decide,
      List.forall_mem_singleton.mpr nofun⟩
  obtain ⟨-, reloads, -⟩ := reloads_from_text names
  obtain ⟨config, reloaded, decoded, found, rfl, -⟩ := reloads short
  exact ⟨names, short, config, decoded, found⟩

/-- But the text of a binding with a number of dimensions of one digit too many is not decoded. -/
theorem not_reloaded_long_dimensions :
    let binding : Binding :=
      { table := "t"
        fields := [("v", { column := "v", type := "vector",
                           dimensions := some (Nat.pow 10 digitLimit : Nat) })] }
    (binding.fields.map (·.1)).Nodup ∧
      Json.write Json.bindingStyle binding.toValue = .ok binding.toJson ∧
      ∀ config, Json.decode (.text binding.toJson) ≠ .ok config := by
  intro binding
  have names : (binding.fields.map (·.1)).Nodup := List.nodup_singleton _
  refine ⟨names, write_toValue names, fun config found => ?_⟩
  exact Json.not_isShort_pow (((decode_toJson_iff names).mp found).1 _ List.mem_cons_self _ rfl)

end Binding

end TableSearch
