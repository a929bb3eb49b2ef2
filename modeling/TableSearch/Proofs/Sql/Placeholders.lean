import Mathlib.Data.List.Nodup
import TableSearch.Proofs.Results
import TableSearch.Proofs.Sql.Token

/-!
# The placeholders of a statement

Which parameters the tokens of a statement refer to, from left to right, and which
of them are cast to vectors.  `placeholders_append` lets the placeholders be listed
part by part; `clauseAt` cuts a statement into its clauses at their first words.
-/

namespace TableSearch.Sql

/-! ## Listing the placeholders -/

/-- The tokens of a cast to a vector, which stands behind the value that is cast. -/
def vectorCast : List Token := [.mark ':', .mark ':', .word "vector"]

/-- The placeholders among tokens: the number of each, and whether it is cast to a vector. -/
def placeholders : List Token → List (Int × Bool)
  | [] => []
  | .slot number :: rest => (number, vectorCast.isPrefixOf rest) :: placeholders rest
  | _ :: rest => placeholders rest

def slots (tokens : List Token) : List Int := (placeholders tokens).map Prod.fst

/-- Whether tokens cannot belong to a cast that begins in front of them. -/
def isApart : List Token → Bool
  | [] => true
  | token :: _ => token != .mark ':' && token != .word "vector"

theorem isPrefixOf_append {front rest : List Token} (apart : isApart rest = true) :
    vectorCast.isPrefixOf (front ++ rest) = vectorCast.isPrefixOf front := by
  -- a cast has three tokens, so at most three of those in front matter
  match front with
  | first :: second :: third :: others => simp [vectorCast, List.isPrefixOf]
  | [] | [_] | [_, _] =>
    cases rest with
    | nil => simp
    | cons token rest =>
      have ends : token ≠ .mark ':' ∧ token ≠ .word "vector" := by simpa [isApart] using apart
      have ends' : ¬ Token.mark ':' = token ∧ ¬ Token.word "vector" = token :=
        ⟨ends.1.symm, ends.2.symm⟩
      simp [vectorCast, List.isPrefixOf, ends']

theorem placeholders_append {front rest : List Token} (apart : isApart rest = true) :
    placeholders (front ++ rest) = placeholders front ++ placeholders rest := by
  -- Only a placeholder looks at what stands behind it.
  induction front with
  | nil => rfl
  | cons token front ih =>
    cases token with
    | slot number =>
      simp only [List.cons_append, placeholders, ih, isPrefixOf_append apart]
    | name | word | sign | mark | broken => simpa only [List.cons_append, placeholders] using ih

/-- Whether a token stands between parts that may hold placeholders: it is none, and belongs
to no cast. -/
def isJoint : Token → Bool
  | .slot _ => false
  | token => isApart [token]

theorem isApart_of_isJoint {token : Token} (joint : isJoint token = true) (rest : List Token) :
    isApart (token :: rest) = true := by
  cases token with
  | slot => rfl
  | name | word | sign | mark | broken => exact joint

@[simp] theorem placeholders_joint {token : Token} (joint : isJoint token = true)
    (rest : List Token) : placeholders (token :: rest) = placeholders rest := by
  cases token with
  | slot => simp [isJoint] at joint
  | name | word | sign | mark | broken => rfl

theorem placeholders_append_joint {token : Token} (joint : isJoint token = true)
    (front rest : List Token) :
    placeholders (front ++ token :: rest) = placeholders front ++ placeholders rest := by
  rw [placeholders_append (isApart_of_isJoint joint rest), placeholders_joint joint]

theorem placeholders_intercalate {token : Token} (joint : isJoint token = true)
    (parts : List (List Token)) :
    placeholders ([token].intercalate parts) = parts.flatMap placeholders := by
  induction parts with
  | nil => rfl
  | cons first rest ih =>
    cases rest with
    | nil => simp
    | cons second rest =>
      rw [List.intercalate_cons_cons, List.append_assoc, List.singleton_append,
        placeholders_append_joint joint, ih]
      rfl

/-! ## Numbering -/

/-- So many numbers from `start` on, one after the other. -/
def consecutive (start : Int) (count : Nat) : List Int :=
  (List.range count).map fun i : Nat => start + i

theorem consecutive_add (start : Int) (m n : Nat) :
    consecutive start (m + n) = consecutive start m ++ consecutive (start + m) n := by
  simp [consecutive, List.range_add, Int.add_assoc, Function.comp_def]

theorem mem_consecutive {start n : Int} {count : Nat} :
    n ∈ consecutive start count ↔ start ≤ n ∧ n < start + count := by
  simp only [consecutive, List.mem_map, List.mem_range]
  constructor
  · rintro ⟨i, below, rfl⟩
    omega
  · rintro ⟨above, below⟩
    exact ⟨(n - start).toNat, by omega, by omega⟩

theorem consecutive_nodup (start : Int) (count : Nat) : (consecutive start count).Nodup := by
  apply List.Nodup.map
  · intro i j same
    have same : start + (i : Int) = start + j := same
    omega
  · exact List.nodup_range

theorem count_consecutive (start n : Int) (count : Nat) :
    (consecutive start count).count n = if start ≤ n ∧ n < start + count then 1 else 0 := by
  split
  next inside =>
    exact List.count_eq_one_of_mem (consecutive_nodup start count) (mem_consecutive.mpr inside)
  next outside => exact List.count_eq_zero.mpr fun member => outside (mem_consecutive.mp member)

/-- So many placeholders from `start` on, none of which is cast. -/
def plainNumbers (start : Int) (count : Nat) : List (Int × Bool) :=
  (consecutive start count).map fun number => (number, false)

@[simp] theorem plainNumbers_zero (start : Int) : plainNumbers start 0 = [] := rfl

@[simp] theorem plainNumbers_one (start : Int) : plainNumbers start 1 = [(start, false)] := by
  simp [plainNumbers, consecutive]

theorem plainNumbers_add (start : Int) (m n : Nat) :
    plainNumbers start (m + n) = plainNumbers start m ++ plainNumbers (start + m) n := by
  simp only [plainNumbers, consecutive_add, List.map_append]

/-! ## Clauses -/

def clauseWords : List String := ["SELECT", "FROM", "WHERE", "ORDER", "LIMIT"]

def beginsClause : Token → Bool
  | .word s => clauseWords.contains s
  | _ => false

/-- The tokens of the clause that begins with a word, behind this word and up to the next
clause.  A clause that is left out has none. -/
def clauseAt (first : String) (tokens : List Token) : List Token :=
  ((tokens.dropWhile (· != .word first)).drop 1).takeWhile (!beginsClause ·)

/-- Tokens inside a clause, which begin no other clause and have known placeholders. -/
structure Body (tokens : List Token) (found : List (Int × Bool)) : Prop where
  placeholders : placeholders tokens = found
  inside : ∀ token ∈ tokens, beginsClause token = false

theorem Body.nil : Body [] [] := ⟨rfl, by simp⟩

theorem Body.cons {token : Token} {tokens : List Token} {found : List (Int × Bool)}
    (body : Body tokens found) (joint : isJoint token = true)
    (plain : beginsClause token = false) : Body (token :: tokens) found where
  placeholders := (placeholders_joint joint tokens).trans body.placeholders
  inside := by
    intro other member
    rcases List.mem_cons.mp member with rfl | member
    · exact plain
    · exact body.inside other member

theorem Body.append {front rest : List Token} {found foundBehind : List (Int × Bool)}
    (body : Body front found) (behind : Body rest foundBehind) (apart : isApart rest = true) :
    Body (front ++ rest) (found ++ foundBehind) where
  placeholders := by rw [placeholders_append apart, body.placeholders, behind.placeholders]
  inside := by
    intro token member
    rcases List.mem_append.mp member with member | member
    · exact body.inside token member
    · exact behind.inside token member

theorem Body.intercalate {token : Token} (joint : isJoint token = true)
    (plain : beginsClause token = false) {parts : List (List Token)}
    (inside : ∀ part ∈ parts, ∀ token ∈ part, beginsClause token = false) :
    Body ([token].intercalate parts) (parts.flatMap Sql.placeholders) where
  placeholders := placeholders_intercalate joint parts
  inside := by
    intro other member
    rcases mem_of_mem_intercalate member with rfl | ⟨part, among, member⟩
    · exact plain
    · exact inside part among other member

/-- The tokens of clauses, each given by its first word and what stands behind it. -/
def ofClauses (clauses : List (String × List Token)) : List Token :=
  clauses.flatMap fun clause => .word clause.1 :: clause.2

theorem isJoint_of_mem_clauseWords {word : String} (known : word ∈ clauseWords) :
    isJoint (.word word) = true := by
  simp only [clauseWords, List.mem_cons, List.not_mem_nil, or_false] at known
  rcases known with rfl | rfl | rfl | rfl | rfl <;> decide

theorem isApart_ofClauses {clauses : List (String × List Token)}
    (known : ∀ clause ∈ clauses, clause.1 ∈ clauseWords) : isApart (ofClauses clauses) = true := by
  cases clauses with
  | nil => rfl
  | cons clause rest =>
    exact isApart_of_isJoint (isJoint_of_mem_clauseWords (known clause (by simp))) _

theorem placeholders_ofClauses {clauses : List (String × List Token)}
    (known : ∀ clause ∈ clauses, clause.1 ∈ clauseWords) :
    placeholders (ofClauses clauses) = clauses.flatMap fun clause => placeholders clause.2 := by
  induction clauses with
  | nil => rfl
  | cons clause rest ih =>
    have knownRest : ∀ clause ∈ rest, clause.1 ∈ clauseWords :=
      fun other member => known other (by simp [member])
    have split : ofClauses (clause :: rest) = .word clause.1 :: (clause.2 ++ ofClauses rest) := rfl
    rw [split, placeholders_joint (isJoint_of_mem_clauseWords (known clause (by simp))),
      placeholders_append (isApart_ofClauses knownRest), ih knownRest]
    rfl

theorem clauseAt_cons_of_ne {first other : String} {body : List Token}
    (known : first ∈ clauseWords) (different : other ≠ first)
    (inside : ∀ token ∈ body, beginsClause token = false) (rest : List Token) :
    clauseAt first (.word other :: (body ++ rest)) = clauseAt first rest := by
  have passed : ∀ token ∈ Token.word other :: body, (token != .word first) = true := by
    intro token member
    rcases List.mem_cons.mp member with rfl | member
    · simpa using different
    · cases same : token != .word first with
      | true => rfl
      | false =>
        obtain rfl : token = .word first := by simpa using same
        have plain := inside _ member
        simp [beginsClause, known] at plain
  simp only [clauseAt, ← List.cons_append, List.dropWhile_append_of_pos passed]

theorem clauseAt_cons_self {first : String} {body rest : List Token}
    (inside : ∀ token ∈ body, beginsClause token = false)
    (ends : ∀ token ∈ rest.head?, beginsClause token = true) :
    clauseAt first (.word first :: (body ++ rest)) = body := by
  have begun : ((Token.word first :: (body ++ rest)).dropWhile (· != .word first)).drop 1 =
      body ++ rest := by simp
  have ended : rest.takeWhile (!beginsClause ·) = [] := by
    cases rest with
    | nil => rfl
    | cons token rest => simp [ends token (by simp)]
  rw [clauseAt, begun]
  rw [List.takeWhile_append_of_pos fun token member => by simp [inside token member], ended,
    List.append_nil]

/-- Each clause of a statement is found at its first word. -/
theorem clauseAt_ofClauses {first : String} (wanted : first ∈ clauseWords)
    {clauses : List (String × List Token)} (known : ∀ clause ∈ clauses, clause.1 ∈ clauseWords)
    (inside : ∀ clause ∈ clauses, ∀ token ∈ clause.2, beginsClause token = false) :
    clauseAt first (ofClauses clauses) = (clauses.lookup first).getD [] := by
  induction clauses with
  | nil => rfl
  | cons clause rest ih =>
    obtain ⟨word, body⟩ := clause
    have split : ofClauses ((word, body) :: rest) = .word word :: (body ++ ofClauses rest) := rfl
    have insideBody := inside (word, body) (by simp)
    have knownRest : ∀ clause ∈ rest, clause.1 ∈ clauseWords :=
      fun other member => known other (by simp [member])
    rw [split, List.lookup_cons]
    -- A clause with another first word is passed over, since no token in it begins the wanted one.
    by_cases same : first = word
    · subst same
      rw [clauseAt_cons_self insideBody]
      · simp
      · intro token begins
        cases rest with
        | nil => simp [ofClauses] at begins
        | cons next rest =>
          obtain rfl : Token.word next.1 = token := by simpa [ofClauses] using begins
          simpa [beginsClause] using knownRest next (by simp)
    · rw [clauseAt_cons_of_ne wanted (Ne.symm same) insideBody, ih knownRest
        fun other member => inside other (by simp [member])]
      have unequal : (first == word) = false := by simpa using same
      rw [unequal]

end TableSearch.Sql
