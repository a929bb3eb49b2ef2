import Mathlib.Data.List.Forall2
import TableSearch.Proofs.Sql.Token
import TableSearch.Value.Basic

/-!
# The meaning of a condition

How a database understands the tokens of a condition on a row.  A test of one column is
a unit; NOT binds tighter than AND, and AND tighter than OR, unless parentheses say
otherwise.  Conditions are true, false or unknown.

`Holds` and `Offers` say what tokens contribute where an operand may stand.  They are
closed under the ways in which predicates are put together.
-/

namespace TableSearch.Sql

/-! ## Truth -/

inductive Truth where
  | no
  | unknown
  | yes
deriving DecidableEq, Repr

namespace Truth

def and : Truth → Truth → Truth
  | no, _ => no
  | _, no => no
  | yes, yes => yes
  | _, _ => unknown

def or : Truth → Truth → Truth
  | yes, _ => yes
  | _, yes => yes
  | no, no => no
  | _, _ => unknown

def not : Truth → Truth
  | no => yes
  | unknown => unknown
  | yes => no

@[simp] theorem yes_and (t : Truth) : yes.and t = t := by cases t <;> rfl

@[simp] theorem and_yes (t : Truth) : t.and yes = t := by cases t <;> rfl

@[simp] theorem no_or (t : Truth) : no.or t = t := by cases t <;> rfl

@[simp] theorem or_no (t : Truth) : t.or no = t := by cases t <;> rfl

theorem and_assoc (s t u : Truth) : (s.and t).and u = s.and (t.and u) := by
  cases s <;> cases t <;> cases u <;> rfl

theorem or_assoc (s t u : Truth) : (s.or t).or u = s.or (t.or u) := by
  cases s <;> cases t <;> cases u <;> rfl

def all (truths : List Truth) : Truth := truths.foldr and yes

def any (truths : List Truth) : Truth := truths.foldr or no

end Truth

/-! ## Conditions -/

/-- How two values are compared. -/
inductive Relation where
  | equal
  | notEqual
  | greater
  | atLeast
  | less
  | atMost
deriving DecidableEq, Repr

def Relation.ofSign? : String → Option Relation
  | "=" => some equal
  | "!=" => some notEqual
  | ">" => some greater
  | ">=" => some atLeast
  | "<" => some less
  | "<=" => some atMost
  | _ => none

inductive Condition where
  | isNull (column : String)
  | isNotNull (column : String)
  | compares (column : String) (relation : Relation) (value : Value)
  /-- The column equals one of the members of a list. -/
  | equalsAny (column : String) (values : Value)
  /-- The column differs from all members of a list. -/
  | differsFromAll (column : String) (values : Value)
  /-- The column matches a pattern, whatever the case of its letters. -/
  | matchesPattern (column : String) (pattern : Value)

/-- The condition that tokens form, with the values of its placeholders. -/
def condition? (valueOf : Int → Option Value) : List Token → Option Condition
  | [.name column, .word "IS", .word "NULL"] => some (.isNull column)
  | [.name column, .word "IS", .word "NOT", .word "NULL"] => some (.isNotNull column)
  | [.name column, .sign sign, .slot number] => do
    return .compares column (← Relation.ofSign? sign) (← valueOf number)
  | [.name column, .sign "=", .word "ANY", .mark '(', .slot number, .mark ')'] =>
    (valueOf number).map (.equalsAny column)
  | [.name column, .sign "!=", .word "ALL", .mark '(', .slot number, .mark ')'] =>
    (valueOf number).map (.differsFromAll column)
  | [.name column, .word "ILIKE", .slot number] => (valueOf number).map (.matchesPattern column)
  | _ => none

/-- A condition put together from tests of columns. -/
inductive Expr where
  | test (condition : Condition)
  | not (inner : Expr)
  | and (left right : Expr)
  | or (left right : Expr)

namespace Expr

def truth (row : Condition → Truth) : Expr → Truth
  | test condition => row condition
  | not inner => (inner.truth row).not
  | and left right => (left.truth row).and (right.truth row)
  | or left right => (left.truth row).or (right.truth row)

def negate : Nat → Expr → Expr
  | 0, inner => inner
  | n + 1, inner => .not (negate n inner)

end Expr

/-! ## Reading -/

/-- What has been read inside one pair of parentheses in front of an operand. -/
structure Level where
  /-- The condition in front of the last OR. -/
  offered : Option Expr := none
  /-- The condition between the last OR and the last AND. -/
  required : Option Expr := none
  /-- The number of NOTs behind the last connective. -/
  negations : Nat := 0

namespace Level

/-- The condition that ends with an operand and reaches back to the last OR. -/
def conjoined (level : Level) (operand : Expr) : Expr :=
  match level.required with
  | none => operand
  | some front => .and front operand

/-- The condition that ends with an operand and reaches back to the parenthesis. -/
def whole (level : Level) (operand : Expr) : Expr :=
  match level.offered with
  | none => level.conjoined operand
  | some front => .or front (level.conjoined operand)

end Level

/-- Where the reader stands; the levels around the current one are innermost first. -/
inductive Reader where
  /-- In front of an operand. -/
  | awaiting (outer : List Level) (level : Level)
  /-- Inside a test, whose tokens so far are kept. -/
  | within (outer : List Level) (level : Level) (tokens : List Token)
  /-- Behind an operand, to which the negations have been applied. -/
  | behind (outer : List Level) (level : Level) (operand : Expr)

namespace Reader

def take (outer : List Level) (level : Level) (operand : Expr) : Reader :=
  behind outer { level with negations := 0 } (operand.negate level.negations)

def step (valueOf : Int → Option Value) : Reader → Token → Option Reader
  | awaiting outer level, .name column => some (within outer level [.name column])
  | awaiting outer level, .mark '(' => some (awaiting (level :: outer) {})
  | awaiting outer level, .word "NOT" =>
    some (awaiting outer { level with negations := level.negations + 1 })
  | awaiting _ _, _ => none
  | within outer level tokens, token =>
    match condition? valueOf (tokens ++ [token]) with
    | some condition => some (take outer level (.test condition))
    | none => some (within outer level (tokens ++ [token]))
  | behind outer level operand, .word "AND" =>
    some (awaiting outer { level with required := some (level.conjoined operand) })
  | behind outer level operand, .word "OR" =>
    some (awaiting outer { offered := some (level.whole operand) })
  | behind (around :: outer) level operand, .mark ')' =>
    some (take outer around (level.whole operand))
  | behind _ _ _, _ => none

def run (valueOf : Int → Option Value) (reader : Reader) (tokens : List Token) : Option Reader :=
  tokens.foldlM (step valueOf) reader

/-- The condition that has been read, outside all parentheses. -/
def result? : Reader → Option Expr
  | behind [] level operand => some (level.whole operand)
  | _ => none

end Reader

def expr? (valueOf : Int → Option Value) (tokens : List Token) : Option Expr :=
  (Reader.run valueOf (.awaiting [] {}) tokens).bind Reader.result?

example (a b c : String) :
    expr? (fun _ => none) ([.word "NOT", .name a, .word "IS", .word "NULL", .word "AND", .name b,
      .word "IS", .word "NULL", .word "OR", .name c, .word "IS", .word "NULL"]) =
    some (.or (.and (.not (.test (.isNull a))) (.test (.isNull b))) (.test (.isNull c))) := rfl

/-! ## What tokens contribute -/

def frontTruth (row : Condition → Truth) (absent : Truth) (front : Option Expr) : Truth :=
  front.elim absent (Expr.truth row)

theorem Level.truth_conjoined (row : Condition → Truth) (level : Level) (operand : Expr) :
    (level.conjoined operand).truth row =
      (frontTruth row .yes level.required).and (operand.truth row) := by
  obtain ⟨offered, required, negations⟩ := level
  cases required with
  | none => simp [conjoined, frontTruth]
  | some front => rfl

theorem Level.truth_whole (row : Condition → Truth) (level : Level) (operand : Expr) :
    (level.whole operand).truth row =
      (frontTruth row .no level.offered).or ((level.conjoined operand).truth row) := by
  obtain ⟨offered, required, negations⟩ := level
  cases offered with
  | none => simp [whole, frontTruth]
  | some front => rfl

variable {valueOf : Int → Option Value} {row : Condition → Truth}

/-- Tokens that are read as an operand, or as several with AND between them: what has been
required so far is further required to have the given truth. -/
def Holds (valueOf : Int → Option Value) (row : Condition → Truth) (tokens : List Token)
    (truth : Truth) : Prop :=
  ∀ outer level, level.negations = 0 → ∃ next operand,
    Reader.run valueOf (.awaiting outer level) tokens = some (.behind outer next operand) ∧
      next.negations = 0 ∧ next.offered = level.offered ∧
      (next.conjoined operand).truth row = (frontTruth row .yes level.required).and truth

/-- Tokens that are read, behind a parenthesis or an OR, as alternatives with OR between them. -/
def Offers (valueOf : Int → Option Value) (row : Condition → Truth) (tokens : List Token)
    (truth : Truth) : Prop :=
  ∀ outer level, level.negations = 0 → level.required = none → ∃ next operand,
    Reader.run valueOf (.awaiting outer level) tokens = some (.behind outer next operand) ∧
      next.negations = 0 ∧
      (next.whole operand).truth row = (frontTruth row .no level.offered).or truth

theorem Reader.run_append (reader : Reader) (front rest : List Token) :
    run valueOf reader (front ++ rest) =
      (run valueOf reader front).bind fun next => run valueOf next rest := by
  simp only [run, List.foldlM_append]
  rfl

theorem Reader.run_cons (reader : Reader) (token : Token) (rest : List Token) :
    run valueOf reader (token :: rest) =
      (step valueOf reader token).bind fun next => run valueOf next rest := by
  simp only [run, List.foldlM_cons]
  rfl

theorem Holds.of_operand {tokens : List Token} {truth : Truth}
    (reads : ∀ outer level, ∃ operand, Reader.run valueOf (.awaiting outer level) tokens =
      some (.take outer level operand) ∧ operand.truth row = truth) :
    Holds valueOf row tokens truth := by
  intro outer level unnegated
  obtain ⟨operand, read, rfl⟩ := reads outer level
  -- The negations in front of the operand have been applied to it and do not count again.
  refine ⟨{ level with negations := 0 }, operand, ?_, rfl, rfl, ?_⟩
  · rw [read, Reader.take, unnegated]
    rfl
  · exact Level.truth_conjoined row _ operand

/-- A test of one column is an operand, which its last token completes. -/
theorem Holds.of_test (front : List Token) (last : Token) {condition : Condition}
    (incomplete : ∀ outer level, Reader.run valueOf (.awaiting outer level) (front ++ [last]) =
      (Reader.step valueOf (.within outer level front) last).bind some)
    (complete : condition? valueOf (front ++ [last]) = some condition) :
    Holds valueOf row (front ++ [last]) (row condition) := by
  suffices read : ∀ outer level, Reader.run valueOf (.awaiting outer level) (front ++ [last]) =
      some (.take outer level (.test condition)) from
    .of_operand fun outer level => ⟨_, read outer level, rfl⟩
  intro outer level
  rw [incomplete, Reader.step, complete]
  rfl

theorem Holds.isNull (column : String) :
    Holds valueOf row [.name column, .word "IS", .word "NULL"] (row (.isNull column)) :=
  .of_test [.name column, .word "IS"] (.word "NULL") (fun _ _ => rfl) rfl

theorem Holds.isNotNull (column : String) :
    Holds valueOf row [.name column, .word "IS", .word "NOT", .word "NULL"]
      (row (.isNotNull column)) :=
  .of_test [.name column, .word "IS", .word "NOT"] (.word "NULL") (fun _ _ => rfl) rfl

section

variable {number : Int} {value : Value} (supplied : valueOf number = some value) (column : String)

include supplied

theorem Holds.compares {sign : String} {relation : Relation}
    (known : Relation.ofSign? sign = some relation) :
    Holds valueOf row [.name column, .sign sign, .slot number]
      (row (.compares column relation value)) :=
  .of_test [.name column, .sign sign] (.slot number) (fun _ _ => rfl) (by
    simp only [List.cons_append, List.nil_append, condition?, known, supplied]
    rfl)

theorem Holds.equalsAny :
    Holds valueOf row [.name column, .sign "=", .word "ANY", .mark '(', .slot number, .mark ')']
      (row (.equalsAny column value)) :=
  .of_test [.name column, .sign "=", .word "ANY", .mark '(', .slot number] (.mark ')')
    (fun _ _ => rfl) (by
    simp only [List.cons_append, List.nil_append, condition?, supplied]
    rfl)

theorem Holds.differsFromAll :
    Holds valueOf row [.name column, .sign "!=", .word "ALL", .mark '(', .slot number, .mark ')']
      (row (.differsFromAll column value)) :=
  .of_test [.name column, .sign "!=", .word "ALL", .mark '(', .slot number] (.mark ')')
    (fun _ _ => rfl) (by
    simp only [List.cons_append, List.nil_append, condition?, supplied]
    rfl)

theorem Holds.matchesPattern :
    Holds valueOf row [.name column, .word "ILIKE", .slot number]
      (row (.matchesPattern column value)) :=
  .of_test [.name column, .word "ILIKE"] (.slot number) (fun _ _ => rfl) (by
    simp only [List.cons_append, List.nil_append, condition?, supplied]
    rfl)

end

theorem Holds.offers {tokens : List Token} {truth : Truth}
    (holds : Holds valueOf row tokens truth) : Offers valueOf row tokens truth := by
  intro outer level unnegated unrequired
  obtain ⟨next, operand, read, nextUnnegated, sameOffer, meaning⟩ := holds outer level unnegated
  refine ⟨next, operand, read, nextUnnegated, ?_⟩
  rw [Level.truth_whole, sameOffer, meaning, unrequired]
  simp [frontTruth]

/-- Parentheses make one operand of what stands between them, behind any negations. -/
theorem Offers.run_parens {tokens : List Token} {truth : Truth}
    (offers : Offers valueOf row tokens truth) (outer : List Level) (level : Level) :
    ∃ operand, Reader.run valueOf (.awaiting outer level) (.mark '(' :: tokens ++ [.mark ')']) =
        some (.take outer level operand) ∧ operand.truth row = truth := by
  obtain ⟨next, operand, read, -, meaning⟩ := offers (level :: outer) {} rfl rfl
  refine ⟨next.whole operand, ?_, ?_⟩
  · rw [List.cons_append, Reader.run_cons]
    simp only [Reader.step, Option.bind_some]
    rw [Reader.run_append, read]
    rfl
  · rw [meaning]
    simp [frontTruth]

theorem Offers.parens {tokens : List Token} {truth : Truth}
    (offers : Offers valueOf row tokens truth) :
    Holds valueOf row (.mark '(' :: tokens ++ [.mark ')']) truth :=
  .of_operand offers.run_parens

theorem Offers.not {tokens : List Token} {truth : Truth}
    (offers : Offers valueOf row tokens truth) :
    Holds valueOf row (.word "NOT" :: (.mark '(' :: tokens ++ [.mark ')'])) truth.not := by
  intro outer level unnegated
  -- The parentheses make the negation apply to all of the alternatives.
  obtain ⟨operand, read, rfl⟩ :=
    offers.run_parens outer { level with negations := level.negations + 1 }
  refine ⟨{ level with negations := 0 }, operand.negate 1, ?_, rfl, rfl, ?_⟩
  · rw [Reader.run_cons]
    simp only [Reader.step, Option.bind_some]
    rw [read, Reader.take, unnegated]
  · rw [Level.truth_conjoined]
    rfl

theorem Holds.and {front rest : List Token} {s t : Truth} (first : Holds valueOf row front s)
    (second : Holds valueOf row rest t) :
    Holds valueOf row (front ++ .word "AND" :: rest) (s.and t) := by
  intro outer level unnegated
  -- The second operand is read with the first one among what is required.
  obtain ⟨middle, left, readFront, middleUnnegated, sameOffer, meaningFront⟩ :=
    first outer level unnegated
  obtain ⟨next, right, readRest, nextUnnegated, sameOffer', meaningRest⟩ :=
    second outer { middle with required := some (middle.conjoined left) } middleUnnegated
  refine ⟨next, right, ?_, nextUnnegated, sameOffer'.trans sameOffer, ?_⟩
  · rw [Reader.run_append, readFront, Option.bind_some, Reader.run_cons]
    exact readRest
  · rw [meaningRest, ← Truth.and_assoc, ← meaningFront]
    rfl

theorem Offers.or {front rest : List Token} {s t : Truth} (first : Offers valueOf row front s)
    (second : Offers valueOf row rest t) :
    Offers valueOf row (front ++ .word "OR" :: rest) (s.or t) := by
  intro outer level unnegated unrequired
  -- An OR ends what is required: the second alternative is read with nothing but the first one in
  -- front.
  obtain ⟨middle, left, readFront, -, meaningFront⟩ := first outer level unnegated unrequired
  obtain ⟨next, right, readRest, nextUnnegated, meaningRest⟩ :=
    second outer { offered := some (middle.whole left) } rfl rfl
  refine ⟨next, right, ?_, nextUnnegated, ?_⟩
  · rw [Reader.run_append, readFront, Option.bind_some, Reader.run_cons]
    exact readRest
  · rw [meaningRest, ← Truth.or_assoc, ← meaningFront]
    rfl

/-- Operands with AND between each two of them. -/
theorem Holds.intercalate {parts : List (List Token)} {truths : List Truth}
    (each : List.Forall₂ (Holds valueOf row) parts truths) (nonempty : parts ≠ []) :
    Holds valueOf row ([Token.word "AND"].intercalate parts) (Truth.all truths) := by
  induction each with
  | nil => exact absurd rfl nonempty
  | cons first rest ih =>
    cases rest with
    | nil => simpa [Truth.all] using first
    | cons second others =>
      rw [List.intercalate_cons_cons, List.append_assoc]
      exact first.and (ih (by simp))

/-- Operands with OR between each two of them. -/
theorem Offers.intercalate {parts : List (List Token)} {truths : List Truth}
    (each : List.Forall₂ (Offers valueOf row) parts truths) (nonempty : parts ≠ []) :
    Offers valueOf row ([Token.word "OR"].intercalate parts) (Truth.any truths) := by
  induction each with
  | nil => exact absurd rfl nonempty
  | cons first rest ih =>
    cases rest with
    | nil => simpa [Truth.any] using first
    | cons second others =>
      rw [List.intercalate_cons_cons, List.append_assoc]
      exact first.or (ih (by simp))

/-- Tokens that hold by themselves stand for a condition of their truth. -/
theorem Holds.expr? {tokens : List Token} {truth : Truth}
    (holds : Holds valueOf row tokens truth) :
    ∃ e, Sql.expr? valueOf tokens = some e ∧ e.truth row = truth := by
  obtain ⟨next, operand, read, -, meaning⟩ := holds.offers [] {} rfl rfl
  refine ⟨next.whole operand, by rw [Sql.expr?, read]; rfl, ?_⟩
  rw [meaning]
  simp [frontTruth]

end TableSearch.Sql
