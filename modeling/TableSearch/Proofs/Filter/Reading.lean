import TableSearch.Filter.Predicate
import TableSearch.Proofs.Results
import TableSearch.Proofs.Sql.Fragment

/-!
# The predicate of a filter as it is read

The tokens that a database reads in the predicate of a filter, and the parameters
behind them, given by recursion on the filter alone.  `predicate_reads` is the main
fact: whatever the columns are called, the text of a predicate has these tokens.

A part without conditions has no tokens, and is left out of the part around it.
-/

namespace TableSearch

open Sql

/-- The parameter that a comparison binds; a test for presence binds none.  An operand that
cannot be gone through has no members. -/
def FieldOp.parameter? (op : FieldOp) (operand : Value) : Option Value :=
  match op with
  | .among | .notAmong => some (.list (operand.elements?.getD []))
  | .contains => some (.text ("%" ++ operand.display ++ "%"))
  | .startsWith => some (.text (operand.display ++ "%"))
  | .endsWith => some (.text ("%" ++ operand.display))
  | .present => none
  | .equal | .notEqual | .greater | .atLeast | .less | .atMost => some operand

/-- The tokens of a comparison behind its column. -/
def FieldOp.tokens (next : Int) (operand : Value) : FieldOp → List Token
  | .equal => [.sign "=", .slot next]
  | .notEqual => [.sign "!=", .slot next]
  | .greater => [.sign ">", .slot next]
  | .atLeast => [.sign ">=", .slot next]
  | .less => [.sign "<", .slot next]
  | .atMost => [.sign "<=", .slot next]
  | .among => [.sign "=", .word "ANY", .mark '(', .slot next, .mark ')']
  | .notAmong => [.sign "!=", .word "ALL", .mark '(', .slot next, .mark ')']
  | .contains | .startsWith | .endsWith => [.word "ILIKE", .slot next]
  | .present =>
    if operand.truthy then [.word "IS", .word "NOT", .word "NULL"] else [.word "IS", .word "NULL"]

def inParens (inner : List Token) : List Token := .mark '(' :: inner ++ [.mark ')']

def connected (connective : String) (parts : List (List Token)) : List Token :=
  [Token.word connective].intercalate parts

def grouped (connective : String) (parts : List (List Token)) : List Token :=
  if parts.isEmpty then [] else inParens (connected connective (parts.map inParens))

def kept (part : List Token) : List (List Token) := if part.isEmpty then [] else [part]

namespace Filter

mutual

def operands : Filter → List Value
  | conjunction parts => operandsOf parts
  | allOf parts => operandsOf parts
  | anyOf parts => operandsOf parts
  | negation part => operands part
  | isNull _ => []
  | compare _ op operand => (op.parameter? operand).toList

def operandsOf : List Filter → List Value
  | [] => []
  | part :: rest => operands part ++ operandsOf rest

end

mutual

def tokens (column : String → String) (next : Int) : Filter → List Token
  | conjunction parts => connected "AND" (partTokens column next parts)
  | allOf parts => grouped "AND" (partTokens column next parts)
  | anyOf parts => grouped "OR" (partTokens column next parts)
  | negation part =>
    if (tokens column next part).isEmpty then []
    else .word "NOT" :: inParens (tokens column next part)
  | isNull field => [.name (column field), .word "IS", .word "NULL"]
  | compare field op operand => .name (column field) :: op.tokens next operand

def partTokens (column : String → String) (next : Int) : List Filter → List (List Token)
  | [] => []
  | part :: rest =>
    kept (tokens column next part) ++
      partTokens column (next + (operands part).length) rest

end

/-! ## Comparisons -/

theorem comparison_reads {column : String} {next : Int} {op : FieldOp} {operand : Value}
    {clause : Clause} (compiled : comparison column next op operand = .ok clause) :
    clause.fragment.isParted true = true ∧ clause.fragment.isEmpty = false ∧
      clause.fragment.tokens = .name column :: op.tokens next operand ∧
      clause.params = (op.parameter? operand).toList := by
  cases op with
  | among | notAmong =>
    simp only [comparison, bind_eq_ok, pure_eq_ok] at compiled
    obtain ⟨items, listed, rfl⟩ := compiled
    have members : operand.elements? = some items := by
      cases elements : operand.elements? <;> simp_all [Value.toList, Value.orElse]
    refine ⟨rfl, rfl, rfl, ?_⟩
    simp [FieldOp.parameter?, members]
  -- The condition is written by whether the operand counts as true, so that no parameter is needed.
  | present =>
    simp only [comparison, pure_eq_ok] at compiled
    subst compiled
    cases truth : operand.truthy with
    | false => exact ⟨rfl, rfl, by simp only [FieldOp.tokens, truth]; rfl, rfl⟩
    | true => exact ⟨rfl, rfl, by simp only [FieldOp.tokens, truth]; rfl, rfl⟩
  | _ =>
    simp only [comparison, comparison.plain, pure_eq_ok] at compiled
    subst compiled
    exact ⟨rfl, rfl, rfl, rfl⟩

/-! ## Joined parts -/

theorem separates_connective {connective : String}
    (known : connective = " AND " ∨ connective = " OR ") : Fragment.Separates connective := by
  rcases known with rfl | rfl
  · exact ⟨by decide, by decide, by decide⟩
  · exact ⟨by decide, by decide, by decide⟩

theorem join_isEmpty {connective : String} {fragments : List Fragment}
    (nonempty : ∀ fragment ∈ fragments, fragment.isEmpty = false) :
    (Fragment.join connective fragments).isEmpty = fragments.isEmpty := by
  fun_cases Fragment.join connective fragments with
  | case1 => rfl
  | case2 only => simpa using nonempty only (by simp)
  | case3 first rest notSingle => simp

theorem connected_isEmpty {connective : String} {parts : List (List Token)}
    (nonempty : ∀ part ∈ parts, part.isEmpty = false) :
    (connected connective parts).isEmpty = parts.isEmpty := by
  cases parts with
  | nil => rfl
  | cons first rest =>
    have first := nonempty first (by simp)
    cases rest with
    | nil => simpa [connected, List.intercalate] using first
    | cons second rest => simp [connected, List.intercalate, List.intersperse]

theorem grouped_isEmpty (connective : String) (parts : List (List Token)) :
    (grouped connective parts).isEmpty = parts.isEmpty := by
  cases parts with
  | nil => rfl
  | cons first rest => simp [grouped, inParens]

theorem partTokens_nonempty (column : String → String) (next : Int) (parts : List Filter) :
    ∀ part ∈ partTokens column next parts, part.isEmpty = false := by
  induction parts generalizing next with
  | nil => simp [partTokens]
  | cons part rest ih =>
    intro tokens member
    simp only [partTokens, List.mem_append] at member
    rcases member with member | member
    · cases empty : (Filter.tokens column next part).isEmpty with
      | true => simp [kept, empty] at member
      | false =>
        obtain rfl : tokens = Filter.tokens column next part := by simpa [kept, empty] using member
        exact empty
    · exact ih _ tokens member

/-! ## The main fact -/

/-- A clause that is read as some tokens, with some parameters behind them. -/
structure Reads (clause : Clause) (tokens : List Token) (params : List Value) : Prop where
  parted : clause.fragment.isParted true = true
  isEmpty : clause.fragment.isEmpty = tokens.isEmpty
  tokens : clause.fragment.tokens = tokens
  params : clause.params = params

theorem Reads.spells {clause : Clause} {tokens : List Token} {params : List Value}
    (read : Reads clause tokens params) : Fragment.Spells clause.fragment tokens :=
  ⟨read.parted, read.tokens⟩

/-- Clauses of which those that are not empty are read as some lists of tokens. -/
structure AllRead (clauses : List Clause) (tokens : List (List Token)) (params : List Value) :
    Prop where
  parted : ∀ fragment ∈ nonempty clauses, fragment.isParted true = true
  tokens : (nonempty clauses).map Fragment.tokens = tokens
  params : allParams clauses = params

theorem nonempty_isEmpty (clauses : List Clause) :
    ∀ fragment ∈ nonempty clauses, fragment.isEmpty = false := by
  intro fragment member
  simpa [nonempty] using (List.mem_filter.mp member).2

theorem AllRead.cons {clause : Clause} {clauses : List Clause} {part : List Token}
    {tokens : List (List Token)} {own params : List Value} (rest : AllRead clauses tokens params)
    (first : Reads clause part own) :
    AllRead (clause :: clauses) (kept part ++ tokens) (own ++ params) := by
  -- A clause without text is left out of the joined ones, but its parameters are not.
  have split : nonempty (clause :: clauses) =
      (if clause.fragment.isEmpty then [] else [clause.fragment]) ++ nonempty clauses := by
    cases empty : clause.fragment.isEmpty <;> simp [nonempty, empty]
  refine ⟨?_, ?_, ?_⟩
  · intro fragment member
    rw [split, List.mem_append] at member
    rcases member with member | member
    · obtain ⟨-, rfl⟩ : _ ∧ fragment = clause.fragment := by simpa using member
      exact first.parted
    · exact rest.parted fragment member
  · rw [split, List.map_append, rest.tokens, kept, ← first.isEmpty]
    cases clause.fragment.isEmpty <;> simp [first.tokens]
  · have others : clauses.flatMap (·.params) = params := rest.params
    simp [allParams, first.params, others]

theorem AllRead.conjunction {clauses : List Clause} {tokens : List (List Token)}
    {params : List Value} (read : AllRead clauses tokens params)
    (nonemptyTokens : ∀ part ∈ tokens, part.isEmpty = false) :
    Reads ⟨Fragment.join " AND " (nonempty clauses), allParams clauses⟩ (connected "AND" tokens)
      params where
  parted := Fragment.isParted_join (separates_connective (.inl rfl)) read.parted
  isEmpty := by
    rw [join_isEmpty (nonempty_isEmpty clauses), connected_isEmpty nonemptyTokens, ← read.tokens,
      List.isEmpty_map]
  tokens := by
    change Fragment.tokens (Fragment.join " AND " (nonempty clauses)) = _
    rw [Fragment.tokens_join, read.tokens]
    rfl
  params := read.params

theorem AllRead.group {connective word : String} {clauses : List Clause}
    {tokens : List (List Token)} {params : List Value} (read : AllRead clauses tokens params)
    (known : connective = " AND " ∧ word = "AND" ∨ connective = " OR " ∧ word = "OR") :
    Reads (group connective clauses) (grouped word tokens) params := by
  have separates : Fragment.Separates connective :=
    separates_connective (known.imp And.left And.left)
  have sameWord : Sql.tokens connective = [.word word] := by
    rcases known with ⟨rfl, rfl⟩ | ⟨rfl, rfl⟩ <;> rfl
  have sameTokens : (nonempty clauses).map (Fragment.tokens ∘ Fragment.inParens) =
      tokens.map inParens := by
    rw [← read.tokens, List.map_map]
    exact List.map_congr_left fun fragment _ => Fragment.tokens_inParens fragment
  have sameEmptiness : (nonempty clauses).isEmpty = tokens.isEmpty := by
    rw [← read.tokens, List.isEmpty_map]
  -- With nothing to join there is no parenthesis either.
  cases empty : tokens.isEmpty with
  | true =>
    have noClauses : nonempty clauses = [] := by simpa [empty] using sameEmptiness
    simp only [Filter.group, noClauses, grouped, empty]
    exact ⟨rfl, rfl, rfl, read.params⟩
  | false =>
    have someClauses : ((nonempty clauses).map Fragment.inParens).isEmpty = false := by
      simpa [empty] using sameEmptiness
    simp only [Filter.group, someClauses, grouped, empty]
    refine ⟨?_, rfl, ?_, read.params⟩
    · apply Fragment.isParted_inParens
      apply Fragment.isParted_join separates
      intro fragment member
      obtain ⟨inner, inside, rfl⟩ := List.mem_map.mp member
      exact Fragment.isParted_inParens (read.parted inner inside)
    · change Fragment.tokens (Fragment.inParens _) = inParens _
      rw [Fragment.tokens_inParens, Fragment.tokens_join, List.map_map, sameTokens, sameWord]
      rfl

mutual

/-- The predicate of a filter is read as its tokens, whatever its columns are called. -/
theorem predicate_reads (column : String → String) (next : Int) (filter : Filter)
    {clause : Clause} (compiled : predicate column next filter = .ok clause) :
    Reads clause (tokens column next filter) (operands filter) := by
  cases filter with
  | conjunction parts =>
    simp only [predicate, bind_eq_ok, pure_eq_ok] at compiled
    obtain ⟨clauses, each, rfl⟩ := compiled
    simp only [tokens, operands]
    exact (predicates_read column next parts each).conjunction
      (partTokens_nonempty column next parts)
  | allOf parts =>
    simp only [predicate, bind_eq_ok, pure_eq_ok] at compiled
    obtain ⟨clauses, each, rfl⟩ := compiled
    simp only [tokens, operands]
    exact (predicates_read column next parts each).group (.inl ⟨rfl, rfl⟩)
  | anyOf parts =>
    simp only [predicate, bind_eq_ok, pure_eq_ok] at compiled
    obtain ⟨clauses, each, rfl⟩ := compiled
    simp only [tokens, operands]
    exact (predicates_read column next parts each).group (.inr ⟨rfl, rfl⟩)
  | negation part =>
    simp only [predicate, bind_eq_ok] at compiled
    obtain ⟨inner, compiledInner, compiled⟩ := compiled
    have read := predicate_reads column next part compiledInner
    simp only [tokens, operands, ← read.isEmpty]
    -- Whether the word is written depends on the clause within, which is empty just if its tokens
    -- are.
    cases empty : inner.fragment.isEmpty with
    | true =>
      simp only [empty, if_true, pure_eq_ok] at compiled ⊢
      subst compiled
      have noTokens : tokens column next part = [] := by
        simpa [empty] using read.isEmpty.symm
      exact noTokens ▸ read
    | false =>
      simp only [empty] at compiled ⊢
      obtain rfl : Clause.mk _ _ = clause := pure_eq_ok.mp compiled
      refine ⟨?_, rfl, ?_, read.params⟩
      · simpa [Fragment.isParted, Fragment.isParted_inParens read.parted] using by decide
      · change Sql.tokens "NOT " ++ Fragment.tokens inner.fragment.inParens = _
        rw [Fragment.tokens_inParens, read.tokens]
        rfl
  | isNull field =>
    simp only [predicate, pure_eq_ok] at compiled
    subst compiled
    exact ⟨rfl, rfl, rfl, rfl⟩
  | compare field op operand =>
    simp only [predicate] at compiled
    obtain ⟨parted, notEmpty, read, params⟩ := comparison_reads compiled
    exact ⟨parted, notEmpty, read, params⟩

theorem predicates_read (column : String → String) (next : Int) (parts : List Filter)
    {clauses : List Clause} (compiled : predicates column next parts = .ok clauses) :
    AllRead clauses (partTokens column next parts) (operandsOf parts) := by
  cases parts with
  | nil =>
    simp only [predicates, pure_eq_ok] at compiled
    subst compiled
    exact ⟨by simp [nonempty], rfl, rfl⟩
  | cons part rest =>
    simp only [predicates, bind_eq_ok, pure_eq_ok] at compiled
    obtain ⟨clause, compiledPart, others, compiledRest, rfl⟩ := compiled
    have read := predicate_reads column next part compiledPart
    rw [read.params] at compiledRest
    have readRest := predicates_read column _ rest compiledRest
    exact readRest.cons read

end

end Filter

end TableSearch
