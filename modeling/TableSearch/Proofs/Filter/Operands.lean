import TableSearch.Proofs.Filter.Meaning
import TableSearch.Proofs.Filter.Numbering

/-!
# The operands of a filter and their placeholders

The leaves of a filter, from left to right, settle its parameters: each comparison but a test for
presence has one, and its placeholder stands where the comparison stands.  Nothing that vanishes
from a predicate has leaves, so nothing that vanishes has parameters.  To start from another number
is to move every placeholder by the same distance, and to change nothing else.
-/

namespace TableSearch

open Sql

/-! ## Moved placeholders -/

namespace Sql

def Piece.moved (distance : Int) : Piece → Piece
  | slot number => slot (number + distance)
  | fixed s => fixed s
  | name s => name s

def Token.moved (distance : Int) : Token → Token
  | slot number => slot (number + distance)
  | name s => name s
  | word s => word s
  | sign s => sign s
  | mark c => mark c
  | broken => broken

def Fragment.moved (distance : Int) (fragment : Fragment) : Fragment :=
  fragment.map (Piece.moved distance)

def Clause.moved (distance : Int) (clause : Clause) : Clause :=
  { clause with fragment := clause.fragment.moved distance }

variable (distance : Int)

@[simp] theorem Fragment.isEmpty_moved (fragment : Fragment) :
    (Fragment.moved distance fragment).isEmpty = fragment.isEmpty := List.isEmpty_map

theorem Fragment.moved_join (separator : String) (fragments : List Fragment) :
    Fragment.moved distance (Fragment.join separator fragments) =
      Fragment.join separator (fragments.map (Fragment.moved distance)) := by
  fun_induction Fragment.join separator fragments with
  | case1 => rfl
  | case2 only => rfl
  | case3 first rest notSingle ih =>
    cases rest with
    | nil => exact absurd rfl notSingle
    | cons second rest =>
      simp only [Fragment.moved, List.map_append, List.map_cons, Fragment.join] at ih ⊢
      rw [ih]
      rfl

theorem Fragment.moved_inParens (fragment : Fragment) :
    Fragment.moved distance fragment.inParens = (Fragment.moved distance fragment).inParens := by
  simp [Fragment.moved, Fragment.inParens, Piece.moved]

end Sql

/-! ## Leaves -/

namespace Filter

inductive Leaf where
  | isNull (field : String)
  | compare (field : String) (op : FieldOp) (operand : Value)

mutual

def leaves : Filter → List Leaf
  | conjunction parts => leavesOf parts
  | allOf parts => leavesOf parts
  | anyOf parts => leavesOf parts
  | negation part => leaves part
  | isNull field => [.isNull field]
  | compare field op operand => [.compare field op operand]

def leavesOf : List Filter → List Leaf
  | [] => []
  | part :: rest => leaves part ++ leavesOf rest

end

/-- A filter inside of another one, or the whole of it. -/
inductive IsPartOf : Filter → Filter → Prop where
  | whole (filter : Filter) : IsPartOf filter filter
  | conjunction {part inner : Filter} {parts : List Filter} (mem : inner ∈ parts)
      (inside : IsPartOf part inner) : IsPartOf part (.conjunction parts)
  | allOf {part inner : Filter} {parts : List Filter} (mem : inner ∈ parts)
      (inside : IsPartOf part inner) : IsPartOf part (.allOf parts)
  | anyOf {part inner : Filter} {parts : List Filter} (mem : inner ∈ parts)
      (inside : IsPartOf part inner) : IsPartOf part (.anyOf parts)
  | negation {part inner : Filter} (inside : IsPartOf part inner) : IsPartOf part (.negation inner)

namespace Leaf

/-- Whether a leaf compares its field with an operand.  A test for presence does not: it only says
how its field is tested. -/
def comparesOperand : Leaf → Bool
  | isNull _ => false
  | compare _ .present _ => false
  | compare _ _ _ => true

/-- The operand of a leaf is valid: members are listed, and what is looked for in a text is a text.
The other operators take any operand, as a shorthand for equality does. -/
def IsValid : Leaf → Prop
  | compare _ .among operand | compare _ .notAmong operand => ∃ items, operand.items? = some items
  | compare _ .contains operand | compare _ .startsWith operand | compare _ .endsWith operand =>
    ∃ s, operand = .text s
  | _ => True

/-- The operand of a leaf as it is bound to a parameter. -/
inductive Binds : Leaf → Value → Prop where
  | among {field : String} {operand : Value} {items : List Value}
      (listed : operand.items? = some items) : Binds (.compare field .among operand) (.list items)
  | notAmong {field : String} {operand : Value} {items : List Value}
      (listed : operand.items? = some items) :
      Binds (.compare field .notAmong operand) (.list items)
  | contains (field s : String) :
      Binds (.compare field .contains (.text s)) (.text ("%" ++ s ++ "%"))
  | startsWith (field s : String) : Binds (.compare field .startsWith (.text s)) (.text (s ++ "%"))
  | endsWith (field s : String) : Binds (.compare field .endsWith (.text s)) (.text ("%" ++ s))
  | plain {op : FieldOp} (field : String) (operand : Value)
      (bySign : op ∈ [.equal, .notEqual, .greater, .atLeast, .less, .atMost]) :
      Binds (.compare field op operand) operand

def params : Leaf → List Value
  | isNull _ => []
  | compare _ op operand => (op.parameter? operand).toList

theorem binds_params {leaf : Leaf} (valid : leaf.IsValid) :
    List.Forall₂ Binds ([leaf].filter comparesOperand) leaf.params := by
  -- Going through a list or a tuple yields its members.
  have members {operand : Value} {items : List Value} (listed : operand.items? = some items) :
      operand.elements?.getD [] = items := by
    cases operand <;> simp_all [Value.items?, Value.elements?]
  cases leaf with
  | isNull field => exact .nil
  | compare field op operand =>
    cases op with
    | present => exact .nil
    | among =>
      obtain ⟨items, listed⟩ := valid
      rw [params, FieldOp.parameter?, members listed]
      exact .cons (.among listed) .nil
    | notAmong =>
      obtain ⟨items, listed⟩ := valid
      rw [params, FieldOp.parameter?, members listed]
      exact .cons (.notAmong listed) .nil
    | contains =>
      obtain ⟨s, rfl⟩ := valid
      exact .cons (.contains field s) .nil
    | startsWith =>
      obtain ⟨s, rfl⟩ := valid
      exact .cons (.startsWith field s) .nil
    | endsWith =>
      obtain ⟨s, rfl⟩ := valid
      exact .cons (.endsWith field s) .nil
    | equal | notEqual | greater | atLeast | less | atMost =>
      exact .cons (.plain field operand (by decide)) .nil

theorem binds_flatMap_params {leaves : List Leaf} (valid : ∀ leaf ∈ leaves, leaf.IsValid) :
    List.Forall₂ Binds (leaves.filter comparesOperand) (leaves.flatMap params) := by
  induction leaves with
  | nil => exact .nil
  | cons leaf rest ih =>
    obtain ⟨first, others⟩ := List.forall_mem_cons.mp valid
    rw [← List.singleton_append, List.filter_append, List.flatMap_append, List.flatMap_singleton]
    exact List.rel_append (binds_params first) (ih others)

/-- A valid operand that stands for several values can be gone through. -/
theorem isListed_of_isValid {field : String} {op : FieldOp} {operand : Value}
    (valid : (compare field op operand).IsValid) : isListed (.compare field op operand) = true := by
  cases op with
  | among | notAmong =>
    obtain ⟨items, listed⟩ := valid
    cases operand with
    | list | tuple => rfl
    | _ => cases listed
  | _ => rfl

end Leaf

mutual

theorem operands_eq_flatMap (filter : Filter) :
    operands filter = (leaves filter).flatMap Leaf.params := by
  cases filter with
  | conjunction parts | allOf parts | anyOf parts => exact operandsOf_eq_flatMap parts
  | negation part => exact operands_eq_flatMap part
  | isNull field => rfl
  | compare field op operand => exact (List.append_nil _).symm

theorem operandsOf_eq_flatMap (parts : List Filter) :
    operandsOf parts = (leavesOf parts).flatMap Leaf.params := by
  cases parts with
  | nil => rfl
  | cons part rest =>
    rw [operandsOf, leavesOf, List.flatMap_append, operands_eq_flatMap part,
      operandsOf_eq_flatMap rest]

end

mutual

theorem hasCondition_eq (filter : Filter) : hasCondition filter = !(leaves filter).isEmpty := by
  cases filter with
  | conjunction parts | allOf parts | anyOf parts => exact haveCondition_eq parts
  | negation part => exact hasCondition_eq part
  | isNull field => rfl
  | compare field op operand => rfl

theorem haveCondition_eq (parts : List Filter) :
    haveCondition parts = !(leavesOf parts).isEmpty := by
  cases parts with
  | nil => rfl
  | cons part rest =>
    rw [haveCondition, leavesOf, hasCondition_eq part, haveCondition_eq rest]
    cases leaves part <;> simp

end

mutual

theorem isListed_of_leaves (filter : Filter) (valid : ∀ leaf ∈ leaves filter, leaf.IsValid) :
    isListed filter = true := by
  cases filter with
  | conjunction parts | allOf parts | anyOf parts => exact areListed_of_leaves parts valid
  | negation part => exact isListed_of_leaves part valid
  | isNull field => rfl
  | compare field op operand => exact Leaf.isListed_of_isValid (valid _ (List.mem_singleton_self _))

theorem areListed_of_leaves (parts : List Filter) (valid : ∀ leaf ∈ leavesOf parts, leaf.IsValid) :
    areListed parts = true := by
  cases parts with
  | nil => rfl
  | cons part rest =>
    obtain ⟨first, others⟩ := List.forall_mem_append.mp valid
    rw [areListed, isListed_of_leaves part first, areListed_of_leaves rest others]
    rfl

end

/-! ## Other starts -/

section

variable (column : String → String) (distance : Int)

theorem nonempty_moved (clauses : List Clause) :
    nonempty (clauses.map (Clause.moved distance)) =
      (nonempty clauses).map (Fragment.moved distance) := by
  simp [nonempty, List.filter_map, Function.comp_def, Clause.moved]

theorem allParams_moved (clauses : List Clause) :
    allParams (clauses.map (Clause.moved distance)) = allParams clauses := by
  simp [allParams, List.flatMap_map, Clause.moved]

theorem group_moved (connective : String) (clauses : List Clause) :
    group connective (clauses.map (Clause.moved distance)) =
      (group connective clauses).moved distance := by
  have sameFragments : (nonempty (clauses.map (Clause.moved distance))).map Fragment.inParens =
      ((nonempty clauses).map Fragment.inParens).map (Fragment.moved distance) := by
    rw [nonempty_moved, List.map_map, List.map_map]
    exact List.map_congr_left fun fragment _ => (Fragment.moved_inParens distance fragment).symm
  simp only [group, sameFragments, allParams_moved, List.isEmpty_map, Clause.moved]
  split
  · rfl
  · rw [Fragment.moved_inParens, Fragment.moved_join]

theorem comparison_moved (name : String) (next : Int) (op : FieldOp) (operand : Value) :
    comparison name (next + distance) op operand =
      (comparison name next op operand).map (Clause.moved distance) := by
  cases op with
  | among | notAmong =>
    simp only [comparison]
    cases operand.toList <;> rfl
  | _ => rfl

mutual

/-- A predicate that starts with another number differs in the numbers of its placeholders alone,
and all of them are moved by the same distance. -/
theorem predicate_moved (next : Int) (filter : Filter) :
    predicate column (next + distance) filter =
      (predicate column next filter).map (Clause.moved distance) := by
  cases filter with
  | conjunction parts =>
    rw [predicate, predicate, predicates_moved next parts]
    cases predicates column next parts with
    | error error => rfl
    | ok clauses =>
      change Except.ok (Clause.mk _ _) = Except.ok (Clause.mk _ _)
      rw [nonempty_moved, allParams_moved, Fragment.moved_join]
  | allOf parts | anyOf parts =>
    rw [predicate, predicate, predicates_moved next parts]
    cases predicates column next parts with
    | error error => rfl
    | ok clauses => exact congrArg Except.ok (group_moved distance _ clauses)
  | negation part =>
    rw [predicate, predicate, predicate_moved next part]
    cases predicate column next part with
    | error error => rfl
    | ok clause =>
      change (if ((clause.fragment.moved distance).isEmpty) = true then _ else _) =
        Except.map _ (if clause.fragment.isEmpty = true then _ else _)
      -- A negation is written only around a condition, and moving leaves an empty clause empty.
      rw [Fragment.isEmpty_moved]
      split
      · rfl
      · change Except.ok (Clause.mk (_ :: Fragment.inParens _) _) = _
        rw [Clause.moved, ← Fragment.moved_inParens]
        rfl
  | isNull field => rfl
  | compare field op operand => exact comparison_moved distance (column field) next op operand

theorem predicates_moved (next : Int) (parts : List Filter) :
    predicates column (next + distance) parts =
      (predicates column next parts).map (List.map (Clause.moved distance)) := by
  cases parts with
  | nil => rfl
  | cons part rest =>
    rw [predicates, predicates, predicate_moved next part]
    cases predicate column next part with
    | error error => rfl
    | ok clause =>
      -- A moved clause has as many parameters, so the next part is moved by the same distance.
      have others := predicates_moved (next + clause.params.length) rest
      rw [Int.add_right_comm] at others
      change (predicates column (next + distance + clause.params.length) rest >>= _) =
        Except.map _ (predicates column (next + clause.params.length) rest >>= _)
      rw [others]
      cases predicates column (next + clause.params.length) rest <;> rfl

end

end

/-! ## The tokens of other starts -/

section

variable (distance : Int)

def movedAll (tokens : List Token) : List Token := tokens.map (Token.moved distance)

theorem movedAll_inParens (inner : List Token) :
    movedAll distance (inParens inner) = inParens (movedAll distance inner) := by
  simp [movedAll, inParens, Token.moved]

theorem movedAll_connected (connective : String) (parts : List (List Token)) :
    movedAll distance (connected connective parts) =
      connected connective (parts.map (movedAll distance)) := by
  induction parts with
  | nil => rfl
  | cons first rest ih =>
    cases rest with
    | nil => simp [movedAll, connected]
    | cons second rest =>
      simp only [connected, List.map_cons, List.intercalate_cons_cons] at ih ⊢
      rw [← ih]
      simp [movedAll, Token.moved]

theorem movedAll_grouped (connective : String) (parts : List (List Token)) :
    movedAll distance (grouped connective parts) =
      grouped connective (parts.map (movedAll distance)) := by
  have inside : (parts.map inParens).map (movedAll distance) =
      (parts.map (movedAll distance)).map inParens := by
    simp only [List.map_map, Function.comp_def, movedAll_inParens]
  rw [grouped, grouped, List.isEmpty_map]
  split
  · rfl
  · rw [movedAll_inParens, movedAll_connected, inside]

theorem map_movedAll_kept (part : List Token) :
    (kept part).map (movedAll distance) = kept (movedAll distance part) := by
  cases part <;> rfl

theorem tokens_moved_comparison (next : Int) (op : FieldOp) (operand : Value) :
    op.tokens (next + distance) operand = movedAll distance (op.tokens next operand) := by
  cases op with
  | present =>
    simp only [FieldOp.tokens]
    split <;> rfl
  | _ => rfl

variable (column : String → String)

mutual

theorem tokens_moved (next : Int) (filter : Filter) :
    tokens column (next + distance) filter = movedAll distance (tokens column next filter) := by
  cases filter with
  | conjunction parts => rw [tokens, tokens, movedAll_connected, partTokens_moved next parts]
  | allOf parts | anyOf parts => rw [tokens, tokens, movedAll_grouped, partTokens_moved next parts]
  | negation part =>
    rw [tokens, tokens, tokens_moved next part, movedAll, List.isEmpty_map]
    split
    · rfl
    · exact congrArg (List.cons _) (movedAll_inParens distance _).symm
  | isNull field => rfl
  | compare field op operand =>
    exact congrArg (List.cons _) (tokens_moved_comparison distance next op operand)

theorem partTokens_moved (next : Int) (parts : List Filter) :
    partTokens column (next + distance) parts =
      (partTokens column next parts).map (movedAll distance) := by
  cases parts with
  | nil => rfl
  | cons part rest =>
    have others := partTokens_moved (next + (operands part).length) rest
    rw [Int.add_right_comm] at others
    rw [partTokens, partTokens, tokens_moved next part, others, List.map_append, map_movedAll_kept]

end

end

/-! ## The main fact -/

/-- A filter with valid operands has a predicate from every start.  Its placeholders are numbered
from the start on, one for each parameter; the parameters are the operands of the leaves that have
one, from left to right; a part whose own predicate is empty has no leaves and no parameters; and
another start moves every placeholder by the difference, and changes nothing else. -/
theorem predicate_binds_leaves (column : String → String) (start : Int) {filter : Filter}
    (valid : ∀ leaf ∈ leaves filter, leaf.IsValid) :
    ∃ clause, predicate column start filter = .ok clause ∧
      slots (Sql.tokens clause.text) = consecutive start clause.params.length ∧
      List.Forall₂ Leaf.Binds ((leaves filter).filter Leaf.comparesOperand) clause.params ∧
      (∀ part, part.IsPartOf filter → ∀ next own, predicate column next part = .ok own →
        own.text = "" → leaves part = [] ∧ own.params = []) ∧
      ∀ other, predicate column other filter = .ok (clause.moved (other - start)) ∧
        Sql.tokens (clause.moved (other - start)).text =
          (Sql.tokens clause.text).map (Token.moved (other - start)) := by
  obtain ⟨clause, written⟩ :=
    (predicate_succeeds column start filter).mpr (isListed_of_leaves filter valid)
  have reads := predicate_reads column start filter written
  have sameTokens : Sql.tokens clause.text = tokens column start filter := reads.spells.read
  refine ⟨clause, written, ?_, ?_, fun part _ next own writtenPart empty => ?_, fun other => ?_⟩
  · have numbers := (numbers_tokens column start filter).placeholders
    rw [sameTokens, slots, numbers, reads.params, plainNumbers, List.map_map]
    exact List.map_id _
  · rw [reads.params, operands_eq_flatMap]
    exact Leaf.binds_flatMap_params valid
  -- A part without text has no leaf, and parameters come from leaves only.
  · have bare := ((predicate_means column next part).2 own writtenPart).2.1.mp empty
    have none : leaves part = [] := by simpa [hasCondition_eq] using bare
    have noParams := (predicate_reads column next part writtenPart).params
    rw [operands_eq_flatMap, none] at noParams
    exact ⟨none, noParams⟩
  · -- Both the predicate and its tokens are moved by the difference of the starts.
    have distance : start + (other - start) = other := by omega
    have moved := predicate_moved column (other - start) start filter
    rw [distance, written] at moved
    have readsMoved := predicate_reads column other filter moved
    have movedTokens := tokens_moved (other - start) column start filter
    rw [distance] at movedTokens
    refine ⟨moved, readsMoved.spells.read.trans ?_⟩
    rw [sameTokens, movedTokens, movedAll]

/-- For example, neither a negated group that vanishes, nor a test for presence, nor a column whose
name looks like a placeholder shifts the numbers. -/
theorem predicate_binds_leaves_nested :
    let filter : Filter := .conjunction
      [.compare "a" .greater (.int 1), .negation (.anyOf [.conjunction []]),
        .anyOf [.compare "$9" .among (.tuple [.int 2, .null]), .compare "c" .present (.bool true)],
        .compare "d" .contains (.text "x")]
    (∀ leaf ∈ leaves filter, leaf.IsValid) ∧
      ∃ clause, predicate id 5 filter = .ok clause ∧ slots (Sql.tokens clause.text) = [5, 6, 7] ∧
        List.Forall₂ Leaf.Binds
          [.compare "a" .greater (.int 1), .compare "$9" .among (.tuple [.int 2, .null]),
            .compare "d" .contains (.text "x")] clause.params ∧
        predicate id 1 filter = .ok (clause.moved (-4)) := by
  intro filter
  have valid : ∀ leaf ∈ leaves filter, leaf.IsValid := by
    simp [filter, leaves, leavesOf, Leaf.IsValid, Value.items?]
  obtain ⟨clause, written, numbers, binds, -, moves⟩ := predicate_binds_leaves id 5 valid
  have count : clause.params.length = 3 := binds.length_eq.symm
  rw [count] at numbers
  exact ⟨valid, clause, written, numbers, binds, (moves 1).1⟩

end Filter

end TableSearch
