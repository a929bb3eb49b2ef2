import TableSearch.Filter.Basic
import TableSearch.Text.Literal

/-!
# Reading filter mappings

A filter mapping lists conditions by field.  Keys that begin with a dollar sign
are logical operators at the outside and comparison operators inside the value
of a field; a value without such keys is shorthand for equality.
-/

namespace TableSearch

inductive FilterError where
  | notAMapping (kindName : String)
  | notAListOfFilters (key : String)
  | notAFilter
  | unknownLogicalOperator (key : String)
  | unknownOperator (key field : String)
  | listExpected (op : FieldOp) (field : String)
  | textExpected (op : FieldOp) (field : String)
  | flagExpected (field : String)
  | scalarExpected (op : FieldOp) (field : String)
deriving DecidableEq, Repr

def FilterError.message : FilterError → String
  | notAMapping kindName => "Filter must be a mapping, got " ++ kindName
  | notAListOfFilters key => key ++ " expects a list of filter mappings"
  | notAFilter => "$not expects a filter mapping"
  | unknownLogicalOperator key => "Unknown logical operator: " ++ key
  | unknownOperator key field =>
    "Unknown operator " ++ Literal.ofText key ++ " on field " ++ Literal.ofText field
  | listExpected op field => op.key ++ " on " ++ Literal.ofText field ++ " expects a list"
  | textExpected op field => op.key ++ " on " ++ Literal.ofText field ++ " expects a string"
  | flagExpected field => "$exists on " ++ Literal.ofText field ++ " expects a boolean"
  | scalarExpected op field => op.key ++ " on " ++ Literal.ofText field ++ " expects a scalar"

namespace Filter

def isOperatorKey (key : String) : Bool := key.toList.head? == some '$'

def hasOperators : Value → Bool
  | .map entries => entries.any (isOperatorKey ·.1)
  | _ => false

/-- Whether an operand is of the kind that its operator takes. -/
def checkOperand (field : String) (op : FieldOp) (operand : Value) : Except FilterError Unit :=
  match op with
  | .among | .notAmong =>
    if operand.items?.isSome then .ok () else .error (.listExpected op field)
  | .contains | .startsWith | .endsWith =>
    match operand with
    | .text _ => .ok ()
    | _ => .error (.textExpected op field)
  | .present =>
    match operand with
    | .bool _ => .ok ()
    | _ => .error (.flagExpected field)
  | .equal | .notEqual | .greater | .atLeast | .less | .atMost =>
    match operand with
    | .map _ | .list _ | .tuple _ => .error (.scalarExpected op field)
    | _ => .ok ()

/-- The comparison of a field by one operator, if the mapping has an operand for it. -/
def readOperator (field : String) (operators : Entries) (op : FieldOp) :
    Except FilterError (List Filter) :=
  match operators.lookup op.key with
  | none => .ok []
  | some operand => do
    checkOperand field op operand
    return [.compare field op operand]

def readOperators (field : String) (operators : Entries) : Except FilterError (List Filter) := do
  match operators.find? fun entry => (FieldOp.ofKey? entry.1).isNone with
  | some (key, _) => throw (.unknownOperator key field)
  | none => return (← FieldOp.all.mapM (readOperator field operators)).flatten

def readShorthand (field : String) : Value → Filter
  | .null => .isNull field
  | value => .compare field .equal value

mutual

def read : Value → Except FilterError Filter
  | .map entries => return .conjunction (← readEntries entries)
  | value => throw (.notAMapping value.kindName)

def readAll : List Value → Except FilterError (List Filter)
  | [] => return []
  | value :: rest => do
    let part ← read value
    return part :: (← readAll rest)

/-- Reads the conditions of a mapping one after the other. -/
def readEntries : List (String × Value) → Except FilterError (List Filter)
  | [] => return []
  | (key, value) :: rest => do
    let parts ←
      if key = "$and" then
        match value with
        | .list items => do pure [.allOf (← readAll items)]
        | .tuple items => do pure [.allOf (← readAll items)]
        | _ => throw (.notAListOfFilters key)
      else if key = "$or" then
        match value with
        | .list items => do pure [.anyOf (← readAll items)]
        | .tuple items => do pure [.anyOf (← readAll items)]
        | _ => throw (.notAListOfFilters key)
      else if key = "$not" then
        match value with
        | .map entries => do pure [.negation (.conjunction (← readEntries entries))]
        | _ => throw .notAFilter
      else if isOperatorKey key then throw (.unknownLogicalOperator key)
      else
        match value with
        | .map operators =>
          if operators.isEmpty || hasOperators value then readOperators key operators
          else pure [readShorthand key value]
        | _ => pure [readShorthand key value]
    return parts ++ (← readEntries rest)

end

def readOptional : Value → Except FilterError (Option Filter)
  | .null => return none
  | value => return some (← read value)

end Filter

end TableSearch
