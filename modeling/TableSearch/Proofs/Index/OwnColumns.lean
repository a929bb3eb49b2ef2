import TableSearch.Proofs.Index.RoundTrip

/-!
# Fields and their own columns

A search names two columns of its result itself, that of the key and that of the score, and
its document leaves out whatever else bears one of these names.  So a field shows the value of
its own column unless that column has one of the two names, or the field is taken for the one
of the primary key.  There are no other exceptions.
-/

namespace TableSearch

open Sql

/-! ## Bindings -/

/-- A binding whose projected fields are told apart from the key and the score of a row: no
field but that of the key column is stored under one of their names, or counts as the field of
the primary key. -/
def Binding.KeepsColumns (binding : Binding) : Prop :=
  ∀ entry ∈ binding.fields, entry.1 ≠ scoreName → entry.2.column ≠ binding.keyColumn →
    entry.2.column ≠ idName ∧ entry.2.column ≠ scoreName ∧ entry.1 ≠ binding.keyField

instance (binding : Binding) : Decidable binding.KeepsColumns :=
  inferInstanceAs (Decidable (∀ entry ∈ binding.fields, _ → _ → _))

namespace Binding

variable {binding : Binding} {name : String} {field : FieldBinding}

theorem columnFor_of_field? (found : binding.field? name = some field) :
    binding.columnFor name = field.column := by
  rw [columnFor, found]

/-- If no two fields share a column, the field of the key column is the key field. -/
theorem eq_keyField (columns : (binding.fields.map (·.2.column)).Nodup)
    (mem : (name, field) ∈ binding.fields) (key : field.column = binding.keyColumn) :
    name = binding.keyField := by
  rw [keyField]
  split
  next other bound first =>
    have inside := List.mem_of_find?_eq_some first
    have column : bound.column = binding.keyColumn := by simpa using List.find?_some first
    have same := List.inj_on_of_nodup_map columns mem inside (key.trans column.symm)
    exact congrArg Prod.fst same
  next absent =>
    have other := List.find?_eq_none.mp absent (name, field) mem
    simp [key] at other

theorem projectedFields_named (found : binding.field? name = some field)
    (notScore : name ≠ scoreName) : binding.projectedFields (some (.named [name])) = [name] := by
  simp [projectedFields, found, notScore]

theorem exists_field?_of_projected {included : Option Include}
    (projected : name ∈ binding.projectedFields included) :
    name ≠ scoreName ∧ ∃ field, binding.field? name = some field := by
  have ofAll (every : name ∈ (binding.fields.map (·.1)).filter (· != scoreName)) :
      name ≠ scoreName ∧ ∃ field, binding.field? name = some field := by
    obtain ⟨inside, other⟩ := List.mem_filter.mp every
    exact ⟨bne_iff_ne.mp other, Option.isSome_iff_exists.mp (isSome_lookup_iff.mpr inside)⟩
  match included with
  | none => exact ofAll projected
  | some (.every true) => exact ofAll projected
  | some (.every false) => cases projected
  | some (.named names) =>
    obtain ⟨other, bound⟩ := Bool.and_eq_true_iff.mp (List.mem_filter.mp projected).2
    exact ⟨bne_iff_ne.mp other, Option.isSome_iff_exists.mp bound⟩

end Binding

/-! ## Documents -/

namespace Hit

/-- The value of a field, for a row whose columns hold some values: the text of the key for the
field of the key column, and for any other one what its own column holds. -/
def ownValue (binding : Binding) (stored : String → Value) (field : FieldBinding) :
    Except ConversionError Value :=
  if field.column = binding.keyColumn then .ok (.text (stored binding.keyColumn).display)
  else decodeField field (stored field.column)

/-- A document that has the projected fields and no others, each with its own value. -/
structure Shows (binding : Binding) (included : Option Include) (stored : String → Value)
    (document : Option Entries) : Prop where
  keys : ∀ name, name ∈ (document.getD []).map (·.1) ↔ name ∈ binding.projectedFields included
  values : ∀ name ∈ binding.projectedFields included, ∀ field, binding.field? name = some field →
    ∃ value, ownValue binding stored field = .ok value ∧
      (document.getD []).lookup name = some value

theorem ofRow_eq_ok {row : Row} {index : String} {binding : Option Binding}
    {included : Option Include} {hit : Hit} (decoded : ofRow row index binding included = .ok hit) :
    documentEntries row binding included = .ok (hit.document.getD []) := by
  simp only [ofRow, bind_eq_ok, pure_eq_ok] at decoded
  obtain ⟨document, entries, key, -, score, -, rfl⟩ := decoded
  rw [entries]
  cases document <;> rfl

theorem exists_ofRow {row : Row} (index : String) {key : String} {binding : Option Binding}
    {included : Option Include} {document : Entries} {score : Binary64}
    (entries : documentEntries row binding included = .ok document) (keyed : keyText row = .ok key)
    (scored : scoreOf row = .ok score) :
    ∃ hit, ofRow row index binding included = .ok hit ∧ hit.document.getD [] = document := by
  rw [ofRow, entries, keyed, scored]
  refine ⟨_, rfl, ?_⟩
  cases document <;> rfl

variable {binding : Binding} {search : Search} {stored : String → Value} {score : Value} {row : Row}

theorem keyText_of_selected (selected : Selected search stored score row)
    (keyColumn : search.keyColumn = binding.keyColumn) :
    keyText row = .ok (stored binding.keyColumn).display :=
  keyText_of_lookup (selected.key.trans (by rw [keyColumn]))

/-- Under a binding that keeps its columns apart, every projected field is its own value. -/
theorem projectField_own (columns : (binding.fields.map (·.2.column)).Nodup)
    (keeps : binding.KeepsColumns) (selected : Selected search stored score row)
    (keyColumn : search.keyColumn = binding.keyColumn) (bound : search.binding = some binding)
    {name : String} {field : FieldBinding} {value : Value}
    (projected : name ∈ binding.projectedFields search.included)
    (found : binding.field? name = some field) (own : ownValue binding stored field = .ok value) :
    projectField binding row name = .ok (some (name, value)) := by
  have mem := mem_of_lookup found
  rw [ownValue] at own
  split at own
  next key =>
    cases own
    rw [projectField, if_pos (Binding.eq_keyField columns mem key),
      keyText_of_selected selected keyColumn]
    rfl
  next other =>
    obtain ⟨notScore, -⟩ := Binding.exists_field?_of_projected projected
    -- No other field of a binding that keeps its columns can be taken for the key or the score.
    obtain ⟨idApart, scoreApart, keyApart⟩ := keeps (name, field) mem notScore other
    refine projectField_stored keyApart found idApart scoreApart ?_ own
    refine selected.projected field.column ?_ idApart scoreApart
    rw [bound, Selection.projected]
    exact List.mem_map.mpr ⟨name, projected, Binding.columnFor_of_field? found⟩

/-- A field that is not kept apart is not its own value, even if every column is null. -/
theorem projectField_null_ne {name : String} {field : FieldBinding}
    (selected : Selected search (fun _ => .null) score row)
    (keyColumn : search.keyColumn = binding.keyColumn) (found : binding.field? name = some field)
    (mixed : name = binding.keyField ∨ field.column = Binding.idName ∨
      field.column = Binding.scoreName) :
    projectField binding row name ≠ .ok (some (name, .null)) := by
  by_cases key : name = binding.keyField
  · rw [projectField, if_pos key, keyText_of_selected selected keyColumn]
    rintro ⟨⟩
  · -- A column with one of the two names is never among the columns of the document.
    have hidden : (documentColumns row).lookup field.column = none := by
      rw [List.lookup_eq_none_iff]
      intro entry mem
      have apart := (List.mem_filter.mp mem).2
      rw [Bool.and_eq_true, bne_iff_ne, bne_iff_ne] at apart
      rw [bne_iff_ne]
      rcases mixed.resolve_left key with same | same
      · exact same ▸ apart.1.symm
      · exact same ▸ apart.2.symm
    simp only [projectField, if_neg key, found, hidden]
    rintro ⟨⟩

theorem projectField_of_named {name : String} {value : Value}
    (named : binding.projectedFields (some (.named [name])) = [name]) {document : Entries}
    (entries : documentEntries row (some binding) (some (.named [name])) = .ok document)
    (found : document.lookup name = some value) :
    projectField binding row name = .ok (some (name, value)) := by
  simp only [documentEntries, named, List.mapM_cons, List.mapM_nil, bind_eq_ok, pure_eq_ok]
    at entries
  obtain ⟨_, ⟨entry, projected, _, rfl, rfl⟩, rfl⟩ := entries
  -- One field was projected, so the entry that is found is that of this field.
  cases entry with
  | none => cases found
  | some entry =>
    have here : [entry].lookup name = some value := found
    obtain ⟨key, given⟩ := entry
    rw [List.lookup_cons] at here
    split at here
    next same =>
      obtain rfl := beq_iff_eq.mp same
      obtain rfl := Option.some.inj here
      exact projected
    next => cases here

/-- Provided that its columns are distinct, a binding keeps them apart from the key and the
score exactly if every search shows each projected field with the value of its own column, in the
row that its statement yields. -/
theorem shows_iff_keepsColumns {binding : Binding} (names : (binding.fields.map (·.1)).Nodup)
    (columns : (binding.fields.map (·.2.column)).Nodup) (indexId : String) :
    binding.KeepsColumns ↔
      ∀ (q : SearchQuery) (search : Search) (stored : String → Value) (score : Value),
        Search.ofBinding q binding = .ok search → Scored search.ranking score →
        (∀ name ∈ binding.projectedFields q.included, ∀ field, binding.field? name = some field →
          ∃ value, ownValue binding stored field = .ok value) →
        ∃ row hit, search.row stored score = .ok row ∧
          (∀ clause, search.clause = .ok clause →
            resultRow (Sql.tokens clause.text) stored score = .ok row) ∧
          ofRow row indexId (some binding) q.included = .ok hit ∧
          Shows binding q.included stored hit.document := by
  constructor
  · intro keeps q search stored score accepted scored decoded
    obtain ⟨keyColumn, bound, included⟩ := Search.ofBinding_eq_ok accepted
    obtain ⟨row, yields, selected⟩ := exists_selected search stored score
    obtain ⟨x, scoreOf⟩ := scored.scoreOf selected.score
    -- Field by field first: the document then holds just these values.
    have each : ∀ name ∈ binding.projectedFields q.included, ∃ value,
        projectField binding row name = .ok (some (name, value)) ∧
          ∀ field, binding.field? name = some field →
            ownValue binding stored field = .ok value := by
      intro name projected
      obtain ⟨-, field, found⟩ := Binding.exists_field?_of_projected projected
      obtain ⟨value, own⟩ := decoded name projected field found
      refine ⟨value, ?_, fun other same => ?_⟩
      · have asked : name ∈ binding.projectedFields search.included := included ▸ projected
        exact projectField_own columns keeps selected keyColumn bound asked found own
      · cases found.symm.trans same
        exact own
    obtain ⟨document, entries, distinct, keys, values⟩ := documentEntries_of_projectField each
    obtain ⟨hit, hits, same⟩ :=
      exists_ofRow indexId entries (keyText_of_selected selected keyColumn) scoreOf
    refine ⟨row, hit, yields, fun _ written => (Search.resultRow_text written ..).trans yields, hits,
      ⟨fun name => same ▸ keys name, ?_⟩⟩
    intro name projected field found
    obtain ⟨entry, inside, rfl⟩ := List.mem_map.mp ((keys name).mpr projected)
    exact ⟨entry.2, values entry inside field found, same ▸ lookup_of_mem distinct inside⟩
  · intro shows' ⟨name, field⟩ mem notScore other
    -- A search that wants this one field shows it wrongly unless it is kept apart.
    have found : binding.field? name = some field := lookup_of_mem names mem
    let q : SearchQuery := { included := some (.named [name]) }
    have named : binding.projectedFields q.included = [name] :=
      Binding.projectedFields_named found notScore
    obtain ⟨search, accepted, ranked⟩ : ∃ search, Search.ofBinding q binding = .ok search ∧
        search.ranking = none := ⟨_, rfl, rfl⟩
    have null : ownValue binding (fun _ => .null) field = .ok .null := by
      simp only [ownValue, if_neg other, decodeField, Vector.decode, Json.decode, ite_self]
    have decoded : ∀ name ∈ binding.projectedFields q.included, ∀ field,
        binding.field? name = some field →
          ∃ value, ownValue binding (fun _ => .null) field = .ok value := by
      intro wanted projected bound same
      rw [named, List.mem_singleton] at projected
      subst projected
      cases found.symm.trans same
      exact ⟨.null, null⟩
    obtain ⟨row, hit, yields, -, hits, shown⟩ :=
      shows' q search (fun _ => .null) (.int 1) accepted (ranked ▸ .constant) decoded
    obtain ⟨keyColumn, -, -⟩ := Search.ofBinding_eq_ok accepted
    obtain ⟨other, yields', selected⟩ := exists_selected search (fun _ => .null) (.int 1)
    cases yields.symm.trans yields'
    obtain ⟨value, own, inside⟩ :=
      shown.values name (named ▸ List.mem_cons_self) field found
    cases null.symm.trans own
    have projected := projectField_of_named named (ofRow_eq_ok hits) inside
    -- The document has null under the name, so none of the three ways to mix it up is there.
    have unmixed := fun mixed => projectField_null_ne selected keyColumn found mixed projected
    exact ⟨fun same => unmixed (.inr (.inl same)), fun same => unmixed (.inr (.inr same)),
      fun same => unmixed (.inl same)⟩

/-- A table whose columns have other names than the fields, the key among them. -/
theorem shows_renamed_columns :
    let binding : Binding :=
      { table := "articles", keyColumn := "article_id"
        fields := [("id", { column := "article_id" }), ("body", { column := "content" }),
          ("article_id", { column := "vec", type := "vector" }), ("score", { column := "id" })] }
    let stored (column : String) : Value := .text ("[" ++ column ++ "]")
    (binding.fields.map (·.1)).Nodup ∧ (binding.fields.map (·.2.column)).Nodup ∧
      binding.KeepsColumns ∧
      ∃ search clause row hit,
        Search.ofBinding { included := some (.named ["body", "id"]) } binding = .ok search ∧
        search.clause = .ok clause ∧
        resultRow (Sql.tokens clause.text) stored (.int 1) = .ok row ∧
        ofRow row "articles" (some binding) (some (.named ["body", "id"])) = .ok hit ∧
        Shows binding (some (.named ["body", "id"])) stored hit.document := by
  intro binding stored
  have names : (binding.fields.map (·.1)).Nodup := by decide
  have columns : (binding.fields.map (·.2.column)).Nodup := by decide
  have keeps : binding.KeepsColumns := by decide
  obtain ⟨search, accepted, ranked⟩ : ∃ search,
      Search.ofBinding { included := some (.named ["body", "id"]) } binding = .ok search ∧
        search.ranking = none := ⟨_, rfl, rfl⟩
  have shows' := (shows_iff_keepsColumns names columns "articles").mp keeps
  obtain ⟨clause, written⟩ := (Search.clause_succeeds accepted).mpr fun _ => nofun
  obtain ⟨row, hit, -, yields, hits, shown⟩ := shows'
    { included := some (.named ["body", "id"]) } search stored (.int 1) accepted
    (ranked ▸ .constant) (by
      intro name projected field found
      have wanted : name = "body" ∨ name = "id" := by
        simpa [binding, Binding.projectedFields] using (List.mem_filter.mp projected).1
      rcases wanted with rfl | rfl <;> cases found <;> exact ⟨_, rfl⟩)
  exact ⟨names, columns, keeps, search, clause, row, hit, accepted, written, yields clause written,
    hits, shown⟩

/-- Distinct columns are not enough: two fields are lost whose columns bear the names of the key
and of the score, and one that bears the name of the key column shows the key. -/
theorem crossed_columns_not_shown :
    let binding : Binding :=
      { table := "docs", keyColumn := "uuid"
        fields := [("ext", { column := "id" }), ("rating", { column := "score" }),
          ("uuid", { column := "doc_uuid" }), ("title", { column := "title" })] }
    let stored (column : String) : Value := .text ("of " ++ column)
    (binding.fields.map (·.1)).Nodup ∧ (binding.fields.map (·.2.column)).Nodup ∧
      ∃ search clause row hit, Search.ofBinding {} binding = .ok search ∧
        search.clause = .ok clause ∧
        resultRow (Sql.tokens clause.text) stored (.int 1) = .ok row ∧
        ofRow row "docs" (some binding) none = .ok hit ∧
        binding.projectedFields none = ["ext", "rating", "uuid", "title"] ∧
        hit.document = some [("uuid", .text "of uuid"), ("title", .text "of title")] ∧
        ¬Shows binding none stored hit.document := by
  intro binding stored
  obtain ⟨search, row, hit, accepted, ⟨clause, written⟩, made, read, document⟩ :
      ∃ search row hit, Search.ofBinding {} binding = .ok search ∧
        (∃ clause, search.clause = .ok clause) ∧ search.row stored (.int 1) = .ok row ∧
        ofRow row "docs" (some binding) none = .ok hit ∧
        hit.document = some [("uuid", .text "of uuid"), ("title", .text "of title")] :=
    ⟨_, _, _, rfl, ⟨_, rfl⟩, rfl, rfl, rfl⟩
  have yields : resultRow (Sql.tokens clause.text) stored (.int 1) = .ok row := by
    rw [Search.resultRow_text written, made]
  refine ⟨by decide, by decide, search, clause, row, hit, accepted, written, yields, read, rfl,
    document, fun shown => ?_⟩
  rw [document] at shown
  obtain ⟨value, -, found⟩ := shown.values "ext" List.mem_cons_self { column := "id" } rfl
  cases found

end Hit

end TableSearch
