import TableSearch.Proofs.Sql.Token

/-!
# Quoted names are read back

A reader of the one name at the beginning of a text: a quote opens the name, two quotes stand for
one quote in it, and the first quote that is not doubled closes it.  By `readName?_eq_some_iff` it
reads exactly what `quoteName` writes, wherever no further quote follows.  So a quoted name is the
name of one thing only, and so is the full name of a table.
-/

namespace TableSearch.Sql

/-! ## Letters between quotes -/

/-- Reads on behind an opening quote: the letters of the name, and what is behind its closing
quote. -/
def readLetters? : List Char → Option (List Char × List Char)
  | [] => none
  | '"' :: '"' :: rest => (readLetters? rest).map fun (letters, behind) => ('"' :: letters, behind)
  | '"' :: rest => some ([], rest)
  | c :: rest => (readLetters? rest).map fun (letters, behind) => (c :: letters, behind)

@[simp] theorem doubled_nil : doubled [] = [] := rfl

@[simp] theorem doubled_quote (letters : List Char) :
    doubled ('"' :: letters) = '"' :: '"' :: doubled letters := rfl

theorem doubled_cons {c : Char} (plain : c ≠ '"') (letters : List Char) :
    doubled (c :: letters) = c :: doubled letters := by
  simp [doubled, plain]

variable {text letters behind : List Char}

/-- The quote behind a name closes it, unless it is the first of two. -/
theorem readLetters?_closing (ends : behind.head? ≠ some '"') :
    readLetters? ('"' :: behind) = some ([], behind) := by
  cases behind with
  | nil => rfl
  | cons c rest =>
    have plain : c ≠ '"' := fun quote => ends (congrArg some quote)
    simp [readLetters?, plain]

theorem readLetters?_doubled (ends : behind.head? ≠ some '"') (letters : List Char) :
    readLetters? (doubled letters ++ '"' :: behind) = some (letters, behind) := by
  induction letters with
  | nil => exact readLetters?_closing ends
  | cons c letters ih =>
    by_cases quote : c = '"'
    · subst quote
      simp [readLetters?, ih]
    · simp [doubled_cons quote, readLetters?, quote, ih]

/-- Nothing but doubled letters is read, and no quote is left behind the closing one. -/
theorem eq_of_readLetters? (read : readLetters? text = some (letters, behind)) :
    text = doubled letters ++ '"' :: behind ∧ behind.head? ≠ some '"' := by
  -- By the branches of the reader: no letters, a doubled quote, a single one, any other letter.
  fun_induction readLetters? text generalizing letters with
  | case1 => cases read
  | case2 rest ih =>
    obtain ⟨_, inner, same⟩ := Option.map_eq_some_iff.mp read
    cases same
    obtain ⟨rfl, ends⟩ := ih inner
    exact ⟨rfl, ends⟩
  | case3 rest single =>
    cases read
    refine ⟨rfl, fun opens => ?_⟩
    obtain ⟨others, same⟩ := List.head?_eq_some_iff.mp opens
    exact single others same
  | case4 c rest _ plain ih =>
    obtain ⟨_, inner, same⟩ := Option.map_eq_some_iff.mp read
    cases same
    obtain ⟨rfl, ends⟩ := ih inner
    exact ⟨by rw [doubled_cons plain, List.cons_append], ends⟩

/-! ## Names -/

/-- Reads the quoted name at the beginning of a text: the name, and the text behind it. -/
def readName? (text : String) : Option (String × String) :=
  match text.toList with
  | '"' :: inside =>
    (readLetters? inside).map fun (letters, behind) => (String.ofList letters, String.ofList behind)
  | _ => none

theorem toList_quoteName_append (name rest : String) :
    (quoteName name ++ rest).toList = '"' :: (doubled name.toList ++ '"' :: rest.toList) := by
  simp [toList_quoteName]

theorem readName?_quoteName_append {rest : String} (ends : rest.toList.head? ≠ some '"')
    (name : String) : readName? (quoteName name ++ rest) = some (name, rest) := by
  rw [readName?, toList_quoteName_append]
  simp [readLetters?_doubled ends]

/-- A name is read exactly where it is written between quotes and no further quote follows. -/
theorem readName?_eq_some_iff {text name rest : String} :
    readName? text = some (name, rest) ↔
      text = quoteName name ++ rest ∧ rest.toList.head? ≠ some '"' := by
  constructor
  · intro read
    unfold readName? at read
    split at read
    next inside opens =>
      obtain ⟨⟨letters, behind⟩, inner, same⟩ := Option.map_eq_some_iff.mp read
      cases same
      obtain ⟨rfl, ends⟩ := eq_of_readLetters? inner
      refine ⟨?_, by simpa using ends⟩
      rw [← String.toList_inj, toList_quoteName_append, opens, String.toList_ofList,
        String.toList_ofList]
    next => cases read
  · rintro ⟨rfl, ends⟩
    exact readName?_quoteName_append ends name

/-- Where one name ends and how it reads is told by the text alone. -/
theorem quoteName_append_inj {name other rest behind : String}
    (same : quoteName name ++ rest = quoteName other ++ behind)
    (ends : rest.toList.head? ≠ some '"') (ends' : behind.toList.head? ≠ some '"') :
    name = other ∧ rest = behind := by
  have read := readName?_quoteName_append ends name
  rw [same, readName?_quoteName_append ends' other] at read
  cases read
  exact ⟨rfl, rfl⟩

theorem quoteName_injective : Function.Injective quoteName := fun name other same =>
  (quoteName_append_inj (congrArg (· ++ "") same) (by simp) (by simp)).1

/-- The reader of whole statements finds the same name in front. -/
theorem tokens_quoteName_append {rest : String} (ends : rest.toList.head? ≠ some '"')
    (name : String) : tokens (quoteName name ++ rest) = .name name :: tokens rest := by
  have inside : tokens (quoteName name ++ rest) =
      tokensFrom (.closing name.toList.reverse) rest.toList := by
    rw [← tokensFrom_of_reach? (reach?_quoteName name), tokens, toList_quoteName_append,
      List.append_assoc]
    rfl
  rw [inside, tokens]
  cases letters : rest.toList with
  | nil => simp [tokensFrom, Mode.finish]
  | cons c others =>
    have plain : c ≠ '"' := fun quote => ends (by rw [letters, quote]; rfl)
    rw [tokensFrom_of_extend?_eq_none (by simp [Mode.extend?, plain])]
    simp [Mode.finish]

/-! ## Full names of tables -/

namespace TableName

def dropPoint? (text : String) : Option String :=
  match text.toList with
  | '.' :: rest => some (String.ofList rest)
  | _ => none

theorem dropPoint?_eq_some_iff {text rest : String} :
    dropPoint? text = some rest ↔ text = "." ++ rest := by
  unfold dropPoint?
  constructor
  · intro read
    split at read
    next behind opens =>
      cases read
      rw [← String.toList_inj, opens]
      simp
    next => cases read
  · rintro rfl
    simp

/-- Reads the full name of a table at the beginning of a text: the two names, and the text behind
them. -/
def read? (text : String) : Option (TableName × String) := do
  let (schema, rest) ← readName? text
  let rest ← dropPoint? rest
  let (table, rest) ← readName? rest
  return (⟨schema, table⟩, rest)

theorem text_fragment (name : TableName) :
    name.fragment.text = quoteName name.schema ++ ("." ++ quoteName name.table) := by
  simp [fragment, Fragment.text, Piece.text]

/-- A full name is read exactly where it is written and no further quote follows.  The quotes around
its point are those of its two names, whatever stands in them. -/
theorem read?_eq_some_iff {text rest : String} {name : TableName} :
    read? text = some (name, rest) ↔
      text = name.fragment.text ++ rest ∧ rest.toList.head? ≠ some '"' := by
  -- The point behind the first name is no quote, so that only the second name needs what follows to
  -- be none.
  simp only [read?, Option.bind_eq_bind, Option.bind_eq_some_iff, Option.pure_def,
    Option.some.injEq, Prod.exists, Prod.mk.injEq, readName?_eq_some_iff, dropPoint?_eq_some_iff,
    text_fragment]
  constructor
  · rintro ⟨schema, _, ⟨rfl, -⟩, _, rfl, table, _, ⟨rfl, ends⟩, rfl, rfl⟩
    exact ⟨by simp only [String.append_assoc], ends⟩
  · rintro ⟨rfl, ends⟩
    exact ⟨_, _, ⟨by simp only [String.append_assoc], by simp⟩, _, rfl, _, _, ⟨rfl, ends⟩, rfl, rfl⟩

theorem text_fragment_injective : Function.Injective fun name : TableName => name.fragment.text := by
  intro name other same
  have read (name : TableName) : read? name.fragment.text = some (name, "") :=
    read?_eq_some_iff.mpr ⟨by simp, by simp⟩
  have both : some (name, "") = some (other, "") := by
    rw [← read name, ← read other]
    exact congrArg read? same
  cases both
  rfl

end TableName

/-! ## Reading back -/

/-- A quoted name is read back as itself, with the text behind it, by the reader of one name and
by that of statements, and nothing else is read as a name.  Two names never have one quoted form,
and neither have two full names of tables, of which both parts are read back. -/
theorem quoted_names_read_back :
    (∀ name rest : String, rest.toList.head? ≠ some '"' →
      readName? (quoteName name ++ rest) = some (name, rest) ∧
        tokens (quoteName name ++ rest) = .name name :: tokens rest) ∧
    (∀ text name rest, readName? text = some (name, rest) → text = quoteName name ++ rest) ∧
    Function.Injective quoteName ∧
    (∀ (schema table rest : String), rest.toList.head? ≠ some '"' →
      TableName.read? ((TableName.mk schema table).fragment.text ++ rest) =
        some (⟨schema, table⟩, rest)) ∧
    Function.Injective fun name : TableName => name.fragment.text :=
  ⟨fun name _ ends => ⟨readName?_quoteName_append ends name, tokens_quoteName_append ends name⟩,
    fun _ _ _ read => (readName?_eq_some_iff.mp read).1, quoteName_injective,
    fun _ _ _ ends => TableName.read?_eq_some_iff.mpr ⟨rfl, ends⟩,
    TableName.text_fragment_injective⟩

/-- For example, a name may end in quotes in front of a point, and a schema may be named by the very
letters that stand between the names of schema and table. -/
theorem quoted_names_read_back_points :
    ".\"t\"".toList.head? ≠ some '"' ∧
      readName? (quoteName "a\"\"" ++ ".\"t\"") = some ("a\"\"", ".\"t\"") ∧
      (TableName.mk "\".\"" "\"").fragment.text = "\"\"\".\"\"\".\"\"\"\"" ∧
      TableName.read? "\"\"\".\"\"\".\"\"\"\"" = some (⟨"\".\"", "\""⟩, "") := by
  obtain ⟨names, -, -, tables, -⟩ := quoted_names_read_back
  have point : ".\"t\"".toList.head? ≠ some '"' := by decide
  have text : (TableName.mk "\".\"" "\"").fragment.text = "\"\"\".\"\"\".\"\"\"\"" := by decide
  refine ⟨point, (names "a\"\"" ".\"t\"" point).1, text, ?_⟩
  rw [← text, ← tables "\".\"" "\"" "" (by decide), String.append_empty]

end TableSearch.Sql
