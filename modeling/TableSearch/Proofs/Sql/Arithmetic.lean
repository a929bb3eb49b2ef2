import Mathlib.Data.Rat.Defs
import TableSearch.Proofs.Sql.Placeholders

/-!
# The value of a score

How a database understands the tokens of an expression over the distance of a row.  A
minus in front of an operand binds tightest, then comes the division, and then addition and
subtraction; the operators between vectors bind weaker than all of these.  So a distance is an
operand only where it stands alone between parentheses.

Values are exact, and a division by zero has none.
-/

namespace TableSearch.Sql

/-! ## Expressions -/

/-- The distance of a vector column from the parameter with a number. -/
structure Distance where
  column : String
  operator : String
  number : Int
deriving DecidableEq, Repr

namespace Distance

def tokens (distance : Distance) : List Token :=
  [.name distance.column, .sign distance.operator, .slot distance.number] ++ vectorCast

/-- The numbers that a distance can be.  Those of the euclidean metric are not negative; of the
others nothing is known. -/
def Admits (distance : Distance) (x : ℚ) : Prop := distance.operator = "<->" → 0 ≤ x

end Distance

def vectorOperators : List String := ["<=>", "<->", "<#>"]

def distance? : List Token → Option Distance
  | [.name column, .sign operator, .slot number, .mark ':', .mark ':', .word "vector"] =>
    if vectorOperators.contains operator then some ⟨column, operator, number⟩ else none
  | _ => none

/-- An expression over distances. -/
inductive Arithmetic where
  | number (n : Nat)
  | distance (distance : Distance)
  | negation (inner : Arithmetic)
  | sum (left right : Arithmetic)
  | difference (left right : Arithmetic)
  | quotient (dividend divisor : Arithmetic)
deriving DecidableEq, Repr

namespace Arithmetic

def value (row : Distance → ℚ) : Arithmetic → Option ℚ
  | number n => some n
  | distance d => some (row d)
  | negation inner => do return -(← inner.value row)
  | sum left right => do return (← left.value row) + (← right.value row)
  | difference left right => do return (← left.value row) - (← right.value row)
  | quotient dividend divisor => do
    let x ← dividend.value row
    let y ← divisor.value row
    if y = 0 then none else some (x / y)

def distances : Arithmetic → List Distance
  | number _ => []
  | distance d => [d]
  | negation inner => inner.distances
  | sum left right => left.distances ++ right.distances
  | difference left right => left.distances ++ right.distances
  | quotient dividend divisor => dividend.distances ++ divisor.distances

theorem value_congr {row other : Distance → ℚ} {e : Arithmetic}
    (same : ∀ d ∈ e.distances, row d = other d) : e.value row = e.value other := by
  -- A distance is the only place where the row is asked.
  induction e with
  | number n => rfl
  | distance d => exact congrArg some (same d (by simp [distances]))
  | negation inner ih => rw [value, value, ih same]
  | sum left right ihLeft ihRight | difference left right ihLeft ihRight
  | quotient left right ihLeft ihRight =>
    simp only [distances, List.forall_mem_append] at same
    rw [value, value, ihLeft same.1, ihRight same.2]

end Arithmetic

/-! ## Reading -/

/-- What has been read inside one pair of parentheses in front of an operand. -/
structure Terms where
  /-- What stands in front of the last plus or minus, and whether it is a minus. -/
  front : Option (Arithmetic × Bool) := none
  /-- What is to be divided by the operand. -/
  dividend : Option Arithmetic := none
  /-- The number of minus signs behind the last operator. -/
  negations : Nat := 0

namespace Terms

def negated : Nat → Arithmetic → Arithmetic
  | 0, operand => operand
  | n + 1, operand => .negation (negated n operand)

/-- The expression that ends with an operand and reaches back to the last plus or minus. -/
def divided (terms : Terms) (operand : Arithmetic) : Arithmetic :=
  match terms.dividend with
  | none => operand
  | some dividend => .quotient dividend operand

/-- The expression that ends with an operand and reaches back to the parenthesis. -/
def whole (terms : Terms) (operand : Arithmetic) : Arithmetic :=
  match terms.front with
  | none => terms.divided operand
  | some (front, false) => .sum front (terms.divided operand)
  | some (front, true) => .difference front (terms.divided operand)

end Terms

def numeral? (word : String) : Option Nat :=
  if word.toList.all Char.isDigit then some (Nat.ofDigitChars 10 word.toList 0) else none

/-- Where the reader stands; what is around the current parentheses comes innermost first. -/
inductive ScoreReader where
  /-- In front of an operand. -/
  | awaiting (outer : List Terms) (terms : Terms)
  /-- Inside a distance, whose tokens so far are kept. -/
  | within (outer : List Terms) (tokens : List Token)
  /-- Behind a distance, which only a parenthesis makes an operand. -/
  | measured (outer : List Terms) (distance : Distance)
  /-- Behind an operand, to which the minus signs have been applied. -/
  | behind (outer : List Terms) (terms : Terms) (operand : Arithmetic)

namespace ScoreReader

def take (outer : List Terms) (terms : Terms) (operand : Arithmetic) : ScoreReader :=
  behind outer { terms with negations := 0 } (Terms.negated terms.negations operand)

def step : ScoreReader → Token → Option ScoreReader
  | awaiting outer terms, .word word => (numeral? word).map fun n => take outer terms (.number n)
  | awaiting outer terms, .mark '(' => some (awaiting (terms :: outer) {})
  | awaiting outer terms, .sign "-" =>
    some (awaiting outer { terms with negations := terms.negations + 1 })
  | awaiting outer ⟨none, none, 0⟩, .name column => some (within outer [.name column])
  | awaiting _ _, _ => none
  | within outer tokens, token =>
    match distance? (tokens ++ [token]) with
    | some distance => some (measured outer distance)
    | none => some (within outer (tokens ++ [token]))
  | measured (around :: outer) distance, .mark ')' => some (take outer around (.distance distance))
  | measured _ _, _ => none
  | behind outer terms operand, .sign "/" =>
    some (awaiting outer { terms with dividend := some (terms.divided operand) })
  | behind outer terms operand, .sign "+" =>
    some (awaiting outer { front := some (terms.whole operand, false) })
  | behind outer terms operand, .sign "-" =>
    some (awaiting outer { front := some (terms.whole operand, true) })
  | behind (around :: outer) terms operand, .mark ')' =>
    some (take outer around (terms.whole operand))
  | behind _ _ _, _ => none

/-- The expression that has been read, outside all parentheses. -/
def result? : ScoreReader → Option Arithmetic
  | behind [] terms operand => some (terms.whole operand)
  | measured [] distance => some (.distance distance)
  | _ => none

end ScoreReader

def arithmetic? (tokens : List Token) : Option Arithmetic :=
  (tokens.foldlM ScoreReader.step (.awaiting [] {})).bind ScoreReader.result?

example : arithmetic? [.word "4", .sign "-", .word "6", .sign "/", .word "2", .sign "/", .sign "-",
      .word "3", .sign "+", .word "1"] =
    some (.sum (.difference (.number 4)
      (.quotient (.quotient (.number 6) (.number 2)) (.negation (.number 3)))) (.number 1)) := by
  decide

/-! ## The columns of a result -/

def namedAs? (name : String) (item : List Token) : Option (List Token) :=
  match item.reverse with
  | .word other :: .word "as" :: expression => if other = name then some expression.reverse else none
  | _ => none

def selectedAs? (name : String) (selection : List Token) : Option (List Token) :=
  (selection.splitOn (.mark ',')).findSome? (namedAs? name)

end TableSearch.Sql
