import TableSearch.Proofs.Query.Reading
import TableSearch.Sql.Statement

/-!
# The skeletons of statements

For every kind of statement, its keywords, punctuation and placeholders, with the
names of the caller as quoted names between them.  `Statement.skeleton_spells` is the
main fact: the text of a statement is read as its skeleton, whatever the names are.
-/

namespace TableSearch.Sql

open Fragment

/-! ## Parts of skeletons -/

def words (ws : List String) : List Token := ws.map .word

def listed (parts : List (List Token)) : List Token := [Token.mark ','].intercalate parts

def Cast.tokens : Cast → List Token
  | vector => [.mark ':', .mark ':', .word "vector"]
  | json => [.mark ':', .mark ':', .word "jsonb"]

def Cell.tokens (number : Int) (cell : Cell) : List Token :=
  .slot number :: cell.cast.elim [] Cast.tokens

def kindTokens : ScalarKind → List Token
  | .string => [.word "TEXT"]
  | .int => [.word "INTEGER"]
  | .bigint => [.word "BIGINT"]
  | .float => [.word "DOUBLE", .word "PRECISION"]
  | .boolean => [.word "BOOLEAN"]
  | .date => [.word "TIMESTAMPTZ"]
  | .object => [.word "JSONB"]
  | .geopoint => [.word "POINT"]

def typeTokens : FieldSchema → List Token
  | .vector dimensions _ _ => .word "vector" :: inParens [.word (toString dimensions)]
  | .scalar type _ => kindTokens type.kind ++ if type.isArray then [.mark '[', .mark ']'] else []

namespace Statement

def columnTokens (name : String) (field : FieldSchema) : List Token :=
  .name name :: typeTokens field ++ if field.isKey then words ["PRIMARY", "KEY"] else []

/-- The tokens of the cells of a row, numbered from `next` on. -/
def cellTokens (next : Int) : List Cell → List (List Token)
  | [] => []
  | cell :: rest => cell.tokens next :: cellTokens (next + 1) rest

def rowTokens (next : Int) : List (List Cell) → List (List Token)
  | [] => []
  | row :: rest => inParens (listed (cellTokens next row)) :: rowTokens (next + row.length) rest

def changeTokens (next : Int) : List (String × Cell) → List (List Token)
  | [] => []
  | (column, cell) :: rest =>
    (.name column :: .sign "=" :: cell.tokens next) :: changeTokens (next + 1) rest

def slotTokens (count : Nat) : List (List Token) :=
  (List.range count).map fun i => [.slot (i + 1 : Nat)]

/-- The tokens of what happens to a row whose key is present. -/
def conflictTokens (columns : List String) : List Token :=
  if columns.isEmpty then words ["DO", "NOTHING"]
  else
    words ["DO", "UPDATE", "SET"] ++ listed (columns.map fun column =>
      [.name column, .sign "=", .word "EXCLUDED", .mark '.', .name column])

def listingTokens (registry : TableName) (start : Option String) (cursor : Value) : List Token :=
  let starts := start.any (!·.isEmpty)
  let follows := cursor.truthy
  let first : Int := 1 + (if starts then 1 else 0)
  let last : Int := first + (if follows then 1 else 0)
  words ["SELECT", "id", "FROM"] ++ registry.tokens ++ words ["WHERE", "backend"] ++
    [.sign "=", .slot 1] ++
    (if starts then
      words ["AND", "starts_with"] ++ inParens [.word "id", .mark ',', .slot first] else []) ++
    (if follows then words ["AND", "id"] ++ [.sign ">", .slot last] else []) ++
    words ["ORDER", "BY", "id", "ASC", "LIMIT"] ++ [.slot (last + 1)]

/-- The skeleton of a statement that is not written from a query. -/
def skeleton? : Statement → Option (List Token)
  | given _ _ => none
  | search _ => none
  | createExtension => some (words ["CREATE", "EXTENSION", "IF", "NOT", "EXISTS", "vector"])
  | createSchema schema =>
    some (words ["CREATE", "SCHEMA", "IF", "NOT", "EXISTS"] ++ [.name schema])
  | createRegistry registry =>
    some (words ["CREATE", "TABLE", "IF", "NOT", "EXISTS"] ++ registry.tokens ++
      inParens (listed [words ["id", "TEXT", "PRIMARY", "KEY"], words ["backend", "TEXT", "NOT", "NULL"],
        words ["config", "JSONB", "NOT", "NULL"], words ["created_at", "BIGINT", "NOT", "NULL"]]))
  | loadBindings registry =>
    some (.word "SELECT" :: listed [words ["id"], words ["config"]] ++ [.word "FROM"] ++
      registry.tokens ++ words ["WHERE", "backend"] ++ [.sign "=", .slot 1])
  | storeBinding registry _ _ _ =>
    some (words ["INSERT", "INTO"] ++ registry.tokens ++
      inParens (listed [words ["id"], words ["backend"], words ["config"], words ["created_at"]]) ++
      [.word "VALUES"] ++ inParens (listed (slotTokens 4)) ++ words ["ON", "CONFLICT"] ++
      inParens [.word "id"] ++ words ["DO", "UPDATE", "SET", "config"] ++
      [.sign "=", .word "EXCLUDED", .mark '.', .word "config"])
  | listIndexes registry start cursor _ => some (listingTokens registry start cursor)
  | forgetBinding registry _ =>
    some (words ["DELETE", "FROM"] ++ registry.tokens ++ words ["WHERE", "id"] ++
      [.sign "=", .slot 1])
  | createTable table fields =>
    some (words ["CREATE", "TABLE"] ++ table.tokens ++
      inParens (listed (fields.map fun (name, field) => columnTokens name field)))
  | createIndex table column metric =>
    some (words ["CREATE", "INDEX"] ++ [.name (table.table ++ "_" ++ column ++ "_idx")] ++
      .word "ON" :: table.tokens ++ words ["USING", "hnsw"] ++
      inParens [.name column, .word metric.operatorClass])
  | dropTable table => some (words ["DROP", "TABLE", "IF", "EXISTS"] ++ table.tokens)
  | countRows table =>
    some (words ["SELECT", "COUNT"] ++ inParens [.sign "*"] ++ words ["AS", "count", "FROM"] ++
      table.tokens)
  | tableSize _ =>
    some (words ["SELECT", "pg_total_relation_size"] ++
      inParens [.slot 1, .mark ':', .mark ':', .word "text", .mark ':', .mark ':', .word "regclass"] ++
      words ["AS", "size"])
  | upsert table keyColumn columns rows =>
    some (words ["INSERT", "INTO"] ++ table.tokens ++
      inParens (listed ((keyColumn :: columns).map fun column => [.name column])) ++
      [.word "VALUES"] ++ listed (rowTokens 1 rows) ++ words ["ON", "CONFLICT"] ++
      inParens [.name keyColumn] ++ conflictTokens columns ++ [.word "RETURNING"] ++
      inParens [.word "xmax", .sign "=", .word "0"] ++ words ["as", "inserted"])
  | update table keyColumn changes _ =>
    some (.word "UPDATE" :: table.tokens ++ [.word "SET"] ++ listed (changeTokens 1 changes) ++
      [.word "WHERE", .name keyColumn, .sign "=", .slot (changes.length + 1)])
  | delete table keyColumn keys =>
    some (words ["DELETE", "FROM"] ++ table.tokens ++ [.word "WHERE", .name keyColumn, .word "IN"] ++
      inParens (listed (slotTokens keys.length)))

/-! ## Types of columns -/

theorem reach?_digits (digits read : List Char) (inside : ∀ c ∈ digits, c.isDigit = true) :
    (Mode.word read).reach? digits = some (.word (digits.reverse ++ read)) := by
  induction digits generalizing read with
  | nil => rfl
  | cons c digits ih =>
    have onward := ih (c :: read) fun d member => inside d (by simp [member])
    have letter : isWordLetter c = true := by
      simp [isWordLetter, Char.isAlphanum, inside c (by simp)]
    simpa [Mode.reach?, Mode.extend?, letter] using onward

theorem begin_digit {c : Char} (digit : c.isDigit = true) : Mode.begin c = ([], .word [c]) := by
  have noQuote : c ≠ '"' := fun same => by rw [same] at digit; exact absurd digit (by decide)
  have noDollar : c ≠ '$' := fun same => by rw [same] at digit; exact absurd digit (by decide)
  have letter : isWordLetter c = true := by simp [isWordLetter, Char.isAlphanum, digit]
  simp [Mode.begin, noQuote, noDollar, letter]

theorem tokens_digits (n : Nat) : Sql.tokens (toString n) = [.word (toString n)] := by
  have letters : (toString n).toList = Nat.toDigits 10 n := by simp
  have digits := toDigits_isDigit n
  rw [← letters] at digits
  cases split : (toString n).toList with
  | nil => exact absurd (letters.symm.trans split) Nat.toDigits_ne_nil
  | cons c rest =>
    rw [split] at digits
    -- The first digit begins a word and the others belong to it.
    have reached := tokensFrom_of_reach?
      (reach?_digits rest [c] fun d member => digits d (by simp [member])) []
    have whole : String.ofList (c :: rest) = toString n := by rw [← split, String.ofList_toList]
    have begun : tokensFrom .between (c :: rest) = tokensFrom (.word [c]) rest := by
      simp [tokensFrom, Mode.extend?, begin_digit (digits c (by simp)), Mode.finish]
    rw [Sql.tokens, split, begun, ← List.append_nil rest, reached]
    simp [tokensFrom, Mode.finish, whole]

/-- The text of a type, with what stands behind it in the definition of a column. -/
theorem type_spells (field : FieldSchema) :
    Spells [.fixed (" " ++ field.columnType ++ if field.isKey then " PRIMARY KEY" else "")]
        (typeTokens field ++ if field.isKey then words ["PRIMARY", "KEY"] else []) ∧
      Fragment.opens
        [.fixed (" " ++ field.columnType ++ if field.isKey then " PRIMARY KEY" else "")] = true := by
  cases field with
  | scalar type isKey =>
    obtain ⟨kind, isArray⟩ := type
    cases kind <;> cases isArray <;> cases isKey <;> exact ⟨⟨rfl, rfl⟩, rfl⟩
  | vector dimensions metric isKey =>
    have digits : Spells [.fixed (toString dimensions)] [.word (toString dimensions)] :=
      .of_text (tokens_digits dimensions) (by simp)
    have behind : Spells [.fixed ")", .fixed (if isKey then " PRIMARY KEY" else "")]
        (.mark ')' :: if isKey then words ["PRIMARY", "KEY"] else []) := by
      cases isKey <;> exact ⟨rfl, rfl⟩
    -- The dimensions are any number, so their digits are read as a piece of their own.
    have parts : Spells [.fixed " vector(", .fixed (toString dimensions), .fixed ")",
        .fixed (if isKey then " PRIMARY KEY" else "")] _ :=
      (digits.append behind (.inr rfl)).cons (by decide) (.inl (by decide))
    have text : Fragment.text [.fixed " vector(", .fixed (toString dimensions), .fixed ")",
        .fixed (if isKey then " PRIMARY KEY" else "")] =
        " " ++ ("vector(" ++ toString dimensions ++ ")") ++
          if isKey then " PRIMARY KEY" else "" := by
      apply String.toList_inj.mp
      simp [Fragment.text, Piece.text]
    refine ⟨?_, ?_⟩
    · have whole := parts.fixed
      rw [text] at whole
      exact whole
    · simp [Fragment.opens, Piece.opens, FieldSchema.columnType]
      decide

theorem columnDefinition_spells (name : String) (field : FieldSchema) :
    Spells (columnDefinition name field) (columnTokens name field) := by
  obtain ⟨spells, opens⟩ := type_spells field
  have named : Spells [.name name] [.name name] := ⟨rfl, rfl⟩
  exact named.append spells (.inr opens)

theorem separates_commaLine : Separates ",\n  " := ⟨by decide, by decide, by decide⟩

theorem columns_spell (fields : IndexSchema) :
    Spells (Fragment.join ",\n  " (fields.map fun (name, field) => columnDefinition name field))
      (listed (fields.map fun (name, field) => columnTokens name field)) :=
  Spells.join_map separates_commaLine
    (fun field : String × FieldSchema => columnDefinition_spells field.1 field.2) fields

/-! ## Numbered parts -/

theorem cell_spells (number : Int) (cell : Cell) :
    Spells (cell.fragment number) (cell.tokens number) := by
  obtain ⟨value, cast⟩ := cell
  cases cast with
  | none => exact ⟨rfl, rfl⟩
  | some cast => cases cast <;> exact ⟨rfl, rfl⟩

theorem cells_spell (next : Int) (cells : List Cell) :
    List.Forall₂ Spells (cellFragments next cells) (cellTokens next cells) := by
  induction cells generalizing next with
  | nil => exact .nil
  | cons cell rest ih => exact .cons (cell_spells next cell) (ih (next + 1))

theorem rows_spell (next : Int) (rows : List (List Cell)) :
    List.Forall₂ Spells (rowFragments next rows) (rowTokens next rows) := by
  induction rows generalizing next with
  | nil => exact .nil
  | cons row rest ih =>
    exact .cons (Spells.join separates_comma (cells_spell next row)).inParens (ih _)

theorem changes_spell (next : Int) (changes : List (String × Cell)) :
    List.Forall₂ Spells (changeFragments next changes) (changeTokens next changes) := by
  induction changes generalizing next with
  | nil => exact .nil
  | cons change rest ih =>
    have assigned : Spells (.name change.1 :: .fixed " = " :: change.2.fragment next)
        (.name change.1 :: .sign "=" :: change.2.tokens next) :=
      ((cell_spells next change.2).cons (by decide) (.inl (by decide))).cons rfl (.inr rfl)
    exact .cons assigned (ih (next + 1))

theorem slots_spell (count : Nat) :
    Spells (Fragment.join ", " (slots count)) (listed (slotTokens count)) :=
  Spells.join_map separates_comma (fun _ : Nat => ⟨rfl, rfl⟩) (List.range count)

theorem names_spell (columns : List String) :
    Spells (Fragment.names columns) (listed (columns.map fun column => [.name column])) :=
  Spells.join_map separates_comma (fun _ => ⟨rfl, rfl⟩) columns

theorem conflict_spells (columns : List String) :
    Spells (conflict columns) (conflictTokens columns) := by
  cases columns with
  | nil => exact ⟨rfl, rfl⟩
  | cons column rest =>
    have assigned (column : String) :
        Spells [.name column, .fixed " = EXCLUDED.", .name column]
          [.name column, .sign "=", .word "EXCLUDED", .mark '.', .name column] := ⟨rfl, rfl⟩
    exact (Spells.join_map separates_comma assigned (column :: rest)).cons (by decide)
      (.inl (by decide))

/-! ## Statements -/

theorem listing_spells (registry : TableName) (start : Option String) (cursor : Value) (limit : Nat) :
    Spells (listing registry start cursor limit).fragment (listingTokens registry start cursor) := by
  unfold listing listingTokens restrict
  -- Either condition on the ids may be left out, which moves the placeholders behind it.
  cases start.any (!·.isEmpty) <;> cases cursor.truthy <;> exact ⟨rfl, rfl⟩

/-- A statement that is not written from a query is read as its skeleton. -/
theorem skeleton_spells {statement : Statement} {tokens : List Token}
    (known : statement.skeleton? = some tokens) : Spells statement.clause.fragment tokens := by
  -- A part that is written from names or values has a lemma of its own; what is fixed around it is
  -- read by computation.
  cases statement with
  | given sql params => cases known
  | search clause => cases known
  | createRegistry registry =>
    obtain rfl := Option.some.inj known
    have columns : Spells
        [.fixed (" (\n  id TEXT PRIMARY KEY,\n  backend TEXT NOT NULL,\n" ++
          "  config JSONB NOT NULL,\n  created_at BIGINT NOT NULL\n)")]
        (inParens (listed [words ["id", "TEXT", "PRIMARY", "KEY"],
          words ["backend", "TEXT", "NOT", "NULL"], words ["config", "JSONB", "NOT", "NULL"],
          words ["created_at", "BIGINT", "NOT", "NULL"]])) :=
      ⟨by decide +kernel, by decide +kernel⟩
    have front : Spells (.fixed "CREATE TABLE IF NOT EXISTS " :: registry.fragment)
        (words ["CREATE", "TABLE", "IF", "NOT", "EXISTS"] ++ registry.tokens) := ⟨rfl, rfl⟩
    exact front.append columns (.inr rfl)
  | createTable table fields =>
    obtain rfl := Option.some.inj known
    have front : Spells (.fixed "CREATE TABLE " :: table.fragment ++ [.fixed " (\n  "])
        (words ["CREATE", "TABLE"] ++ table.tokens ++ [.mark '(']) := ⟨rfl, rfl⟩
    have closing : Spells [.fixed "\n)"] [.mark ')'] := ⟨rfl, rfl⟩
    have whole := front.append ((columns_spell fields).append closing (.inr rfl)) (.inl rfl)
    exact whole.of_eq (by simp [clause]) (by simp [inParens])
  | createIndex table column metric =>
    obtain rfl := Option.some.inj known
    cases metric <;> exact ⟨rfl, rfl⟩
  | listIndexes registry start cursor limit =>
    obtain rfl := Option.some.inj known
    exact listing_spells registry start cursor limit
  | upsert table keyColumn columns rows =>
    obtain rfl := Option.some.inj known
    have target : Spells (.fixed "INSERT INTO " :: table.fragment ++ [.fixed " "])
        (words ["INSERT", "INTO"] ++ table.tokens) := ⟨rfl, rfl⟩
    have front := target.append (names_spell (keyColumn :: columns)).inParens (.inl rfl)
    have values : Spells (.fixed "\nVALUES " :: Fragment.join ", " (rowFragments 1 rows))
        ([.word "VALUES"] ++ listed (rowTokens 1 rows)) :=
      (Spells.join separates_comma (rows_spell 1 rows)).cons (by decide) (.inl (by decide))
    have key : Spells (.fixed "\nON CONFLICT " :: Fragment.inParens [.name keyColumn] ++ [.fixed " "])
        (words ["ON", "CONFLICT"] ++ inParens [.name keyColumn]) := ⟨rfl, rfl⟩
    have conflict := key.append (conflict_spells columns) (.inl rfl)
    have returned : Spells [.fixed "\nRETURNING (xmax = 0) as inserted"]
        ([.word "RETURNING"] ++ inParens [.word "xmax", .sign "=", .word "0"] ++
          words ["as", "inserted"]) := ⟨rfl, rfl⟩
    have whole := front.append (values.append (conflict.append returned (.inr rfl)) (.inr rfl))
      (.inr rfl)
    exact whole.of_eq (by simp [clause]) (by simp [inParens])
  | update table keyColumn changes key =>
    obtain rfl := Option.some.inj known
    have front : Spells (.fixed "UPDATE " :: table.fragment ++ [.fixed "\nSET "])
        (.word "UPDATE" :: table.tokens ++ [.word "SET"]) := ⟨rfl, rfl⟩
    have assigned : Spells (Fragment.join ", " (changeFragments 1 changes))
        (listed (changeTokens 1 changes)) := Spells.join separates_comma (changes_spell 1 changes)
    have condition : Spells
        [.fixed "\nWHERE ", .name keyColumn, .fixed " = ", .slot (changes.length + 1)]
        [.word "WHERE", .name keyColumn, .sign "=", .slot (changes.length + 1)] := ⟨rfl, rfl⟩
    have whole := front.append (assigned.append condition (.inr rfl)) (.inl rfl)
    exact whole.of_eq (by simp [clause]) (by simp)
  | delete table keyColumn keys =>
    obtain rfl := Option.some.inj known
    have front : Spells
        (.fixed "DELETE FROM " :: table.fragment ++ [.fixed "\nWHERE ", .name keyColumn, .fixed " IN "])
        (words ["DELETE", "FROM"] ++ table.tokens ++ [.word "WHERE", .name keyColumn, .word "IN"]) :=
      ⟨rfl, rfl⟩
    exact front.append (slots_spell keys.length).inParens (.inl rfl)
  | createExtension | createSchema | loadBindings | storeBinding
  | forgetBinding | dropTable | countRows | tableSize =>
    obtain rfl := Option.some.inj known
    exact ⟨rfl, rfl⟩

end Statement

end TableSearch.Sql
