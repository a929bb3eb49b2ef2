import TableSearch.Proofs.Filter.Meaning
import TableSearch.Proofs.Sql.Placeholders
import TableSearch.Proofs.Sql.Skeleton

/-!
# Insertions and updates

What an INSERT with a conflict clause and an UPDATE of one row say to a database, as data: which
placeholder stands at which column, and what it is cast to.  The statements that write documents
are read in this way (`upsert_tokens`, `update_tokens`).  Their placeholders are numbered one after
the other, and each of them gives its cell.
-/

namespace TableSearch.Sql

open TableSearch.Filter (paramAt Supplies)

/-! ## Placeholders -/

/-- The numbers of placeholders are listed part by part, whatever the parts are. -/
theorem slots_append (front rest : List Token) :
    slots (front ++ rest) = slots front ++ slots rest := by
  induction front with
  | nil => rfl
  | cons token front ih =>
    -- Unlike its cast, the number of a placeholder does not depend on what stands behind it.
    cases token with
    | slot number => simpa [slots, placeholders] using ih
    | name | word | sign | mark | broken => simpa [slots, placeholders] using ih

theorem slots_listed (parts : List (List Token)) : slots (listed parts) = parts.flatMap slots := by
  rw [slots, listed, placeholders_intercalate (by decide), List.map_flatMap]
  rfl

theorem slots_listed_map {α : Type} {part : α → List Token} {number : α → Int}
    (one : ∀ a, slots (part a) = [number a]) (items : List α) :
    slots (listed (items.map part)) = items.map number := by
  rw [slots_listed, List.flatMap_map, List.map_eq_flatMap]
  simp only [one]

@[simp] theorem slots_inParens (inner : List Token) : slots (inParens inner) = slots inner := by
  rw [inParens, List.cons_append, ← List.singleton_append, slots_append, slots_append]
  exact List.append_nil _

theorem slots_words (ws : List String) : slots (words ws) = [] := by
  induction ws with
  | nil => rfl
  | cons w ws ih => exact ih

/-- A placeholder, as it stands in a statement. -/
structure Placeholder where
  number : Int
  cast : Option Cast
deriving DecidableEq, Repr

namespace Placeholder

def tokens (placeholder : Placeholder) : List Token :=
  .slot placeholder.number :: placeholder.cast.elim [] Cast.tokens

/-- Whether a placeholder gives a cell: it is cast like the cell, and the parameter with its number
is the value of the cell. -/
structure Gives (params : List Value) (placeholder : Placeholder) (cell : Cell) : Prop where
  cast : placeholder.cast = cell.cast
  value : paramAt 1 params placeholder.number = some cell.value

@[simp] theorem slots_tokens (placeholder : Placeholder) :
    slots placeholder.tokens = [placeholder.number] := by
  obtain ⟨number, cast⟩ := placeholder
  cases cast with
  | none => rfl
  | some cast => cases cast <;> rfl

end Placeholder

def numbered (next : Int) : List Cell → List Placeholder
  | [] => []
  | cell :: rest => ⟨next, cell.cast⟩ :: numbered (next + 1) rest

def numberedRows (next : Int) : List (List Cell) → List (List Placeholder)
  | [] => []
  | row :: rest => numbered next row :: numberedRows (next + row.length) rest

theorem cellTokens_eq (next : Int) (cells : List Cell) :
    Statement.cellTokens next cells = (numbered next cells).map Placeholder.tokens := by
  induction cells generalizing next with
  | nil => rfl
  | cons cell rest ih =>
    rw [Statement.cellTokens, numbered, List.map_cons, ← ih]
    rfl

theorem rowTokens_eq (next : Int) (rows : List (List Cell)) :
    Statement.rowTokens next rows =
      (numberedRows next rows).map fun row => inParens (listed (row.map Placeholder.tokens)) := by
  induction rows generalizing next with
  | nil => rfl
  | cons row rest ih =>
    rw [Statement.rowTokens, numberedRows, List.map_cons, ← ih, cellTokens_eq]

theorem changeTokens_eq (next : Int) (changes : List (String × Cell)) :
    Statement.changeTokens next changes =
      ((changes.map (·.1)).zip (numbered next (changes.map (·.2)))).map fun (column, placeholder) =>
        .name column :: .sign "=" :: placeholder.tokens := by
  induction changes generalizing next with
  | nil => rfl
  | cons change rest ih =>
    simp only [Statement.changeTokens, ih, List.map_cons, numbered, List.zip_cons_cons]
    rfl

theorem consecutive_succ (next : Int) (count : Nat) :
    consecutive next (count + 1) = next :: consecutive (next + 1) count := by
  rw [Nat.add_comm, consecutive_add]
  simp [consecutive]

theorem length_consecutive (next : Int) (count : Nat) :
    (consecutive next count).length = count := by
  rw [consecutive, List.length_map, List.length_range]

theorem numbers_numbered (next : Int) (cells : List Cell) :
    (numbered next cells).map (·.number) = consecutive next cells.length := by
  induction cells generalizing next with
  | nil => rfl
  | cons cell rest ih =>
    rw [numbered, List.map_cons, ih, List.length_cons, consecutive_succ]

theorem numbers_numberedRows (next : Int) (rows : List (List Cell)) :
    (numberedRows next rows).flatten.map (·.number) = consecutive next rows.flatten.length := by
  induction rows generalizing next with
  | nil => rfl
  | cons row rest ih =>
    rw [numberedRows, List.flatten_cons, List.map_append, numbers_numbered, ih, List.flatten_cons,
      List.length_append, consecutive_add]

theorem length_numbered (next : Int) (cells : List Cell) :
    (numbered next cells).length = cells.length := by
  have same := congrArg List.length (numbers_numbered next cells)
  rwa [List.length_map, length_consecutive] at same

section

variable {params : List Value}

/-- Each cell of a list is given by its placeholder, if the values follow one another among the
parameters. -/
theorem numbered_give {next : Int} {cells : List Cell}
    (supplies : Supplies (paramAt 1 params) next (cells.map Cell.value)) :
    List.Forall₂ (Placeholder.Gives params) (numbered next cells) cells := by
  induction cells generalizing next with
  | nil => exact .nil
  | cons cell rest ih =>
    -- The first value belongs to the first placeholder, and the others move on by one.
    have split : (cell :: rest).map Cell.value = [cell.value] ++ rest.map Cell.value := rfl
    rw [split] at supplies
    exact .cons ⟨rfl, supplies.front.head⟩ (ih supplies.rest)

theorem numberedRows_give {next : Int} {rows : List (List Cell)}
    (supplies : Supplies (paramAt 1 params) next (rows.flatten.map Cell.value)) :
    List.Forall₂ (List.Forall₂ (Placeholder.Gives params)) (numberedRows next rows) rows := by
  induction rows generalizing next with
  | nil => exact .nil
  | cons row rest ih =>
    rw [List.flatten_cons, List.map_append] at supplies
    refine .cons (numbered_give supplies.front) (ih ?_)
    simpa using supplies.rest

end

/-! ## Insertions -/

/-- What an INSERT with a conflict clause says. -/
structure Insertion where
  table : TableName
  columns : List String
  /-- The placeholders of the inserted rows. -/
  rows : List (List Placeholder)
  /-- The column by which a row is found to be there already. -/
  conflictColumn : String
  /-- The columns that such a row takes over from the row that was to be inserted. -/
  overwritten : List String

def Insertion.tokens (insertion : Insertion) : List Token :=
  words ["INSERT", "INTO"] ++ insertion.table.tokens ++
    inParens (listed (insertion.columns.map fun column => [.name column])) ++ [.word "VALUES"] ++
    listed (insertion.rows.map fun row => inParens (listed (row.map Placeholder.tokens))) ++
    words ["ON", "CONFLICT"] ++ inParens [.name insertion.conflictColumn] ++
    Statement.conflictTokens insertion.overwritten ++ [.word "RETURNING"] ++
    inParens [.word "xmax", .sign "=", .word "0"] ++ words ["as", "inserted"]

theorem upsert_tokens (table : TableName) (keyColumn : String) (columns : List String)
    (rows : List (List Cell)) :
    Sql.tokens (Statement.upsert table keyColumn columns rows).text =
      Insertion.tokens ⟨table, keyColumn :: columns, numberedRows 1 rows, keyColumn, columns⟩ := by
  refine (Statement.skeleton_spells rfl).read.trans ?_
  rw [rowTokens_eq]
  rfl

theorem slots_names (columns : List String) :
    slots (listed (columns.map fun column => [.name column])) = [] := by
  rw [slots_listed, List.flatMap_map]
  exact List.flatMap_eq_nil_iff.mpr fun _ _ => rfl

theorem slots_conflictTokens (columns : List String) :
    slots (Statement.conflictTokens columns) = [] := by
  unfold Statement.conflictTokens
  split
  · rfl
  · rw [slots_append, slots_words, slots_listed, List.flatMap_map, List.nil_append]
    exact List.flatMap_eq_nil_iff.mpr fun _ _ => rfl

theorem Insertion.slots_tokens (insertion : Insertion) :
    slots insertion.tokens = insertion.rows.flatten.map (·.number) := by
  have table : slots insertion.table.tokens = [] := rfl
  have rows : slots (listed (insertion.rows.map fun row =>
      inParens (listed (row.map Placeholder.tokens)))) =
        insertion.rows.flatten.map (·.number) := by
    rw [slots_listed, List.flatMap_map, List.map_flatten, ← List.flatMap_def]
    simp only [slots_inParens, slots_listed_map Placeholder.slots_tokens]
  simp only [Insertion.tokens, slots_append, slots_words, slots_inParens, slots_names,
    slots_conflictTokens, table, rows, List.nil_append, List.append_nil]
  simp [slots, placeholders]

/-! ## Updates -/

/-- What an UPDATE of the row with a key says. -/
structure Update where
  table : TableName
  /-- The columns that are set, with the placeholders of their values. -/
  assigned : List (String × Placeholder)
  keyColumn : String
  /-- The number of the placeholder that the key column is compared with. -/
  key : Int

def Update.tokens (update : Update) : List Token :=
  .word "UPDATE" :: update.table.tokens ++ [.word "SET"] ++
    listed (update.assigned.map fun (column, placeholder) =>
      .name column :: .sign "=" :: placeholder.tokens) ++
    [.word "WHERE", .name update.keyColumn, .sign "=", .slot update.key]

theorem update_tokens (table : TableName) (keyColumn : String) (changes : List (String × Cell))
    (key : String) :
    Sql.tokens (Statement.update table keyColumn changes key).text =
      Update.tokens ⟨table, (changes.map (·.1)).zip (numbered 1 (changes.map (·.2))), keyColumn,
        changes.length + 1⟩ := by
  refine (Statement.skeleton_spells rfl).read.trans ?_
  rw [changeTokens_eq]
  rfl

theorem Update.slots_tokens (update : Update) :
    slots update.tokens = update.assigned.map (·.2.number) ++ [update.key] := by
  have table : slots (.word "UPDATE" :: update.table.tokens) = [] := rfl
  have assigned (change : String × Placeholder) :
      slots (.name change.1 :: .sign "=" :: change.2.tokens) = [change.2.number] :=
    change.2.slots_tokens
  simp only [Update.tokens, slots_append, slots_listed_map assigned, table]
  simp [slots, placeholders]

end TableSearch.Sql
