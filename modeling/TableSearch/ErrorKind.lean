import TableSearch.Value.Conversion
import TableSearch.Value.Display

/-!
# Kinds of errors

The errors that name a broken rule of this library form a family: every kind but
the first specialises another one.  `ErrorRecord` is an error together with what
it was made from.
-/

namespace TableSearch

inductive ErrorKind where
  | base
  | invalidArgument
  | queryValidation
  | schemaValidation
  | documentValidation
  | filterParse
  | resourceNotFound
  | indexNotBound
deriving DecidableEq, Repr

namespace ErrorKind

def all : List ErrorKind :=
  [base, invalidArgument, queryValidation, schemaValidation, documentValidation, filterParse,
   resourceNotFound, indexNotBound]

def name : ErrorKind → String
  | base => "PgSearchError"
  | invalidArgument => "InvalidArgumentError"
  | queryValidation => "QueryValidationError"
  | schemaValidation => "SchemaValidationError"
  | documentValidation => "DocumentValidationError"
  | filterParse => "FilterParseError"
  | resourceNotFound => "ResourceNotFoundError"
  | indexNotBound => "IndexNotBoundError"

def ofName? (name : String) : Option ErrorKind := all.find? (·.name == name)

def parent? : ErrorKind → Option ErrorKind
  | base => none
  | invalidArgument => some base
  | queryValidation => some invalidArgument
  | schemaValidation => some invalidArgument
  | documentValidation => some invalidArgument
  | filterParse => some invalidArgument
  | resourceNotFound => some invalidArgument
  | indexNotBound => some resourceNotFound

def depth : ErrorKind → Nat
  | base => 0
  | invalidArgument => 1
  | indexNotBound => 3
  | _ => 2

theorem depth_lt_of_parent? {kind parent : ErrorKind} (above : kind.parent? = some parent) :
    parent.depth < kind.depth := by
  cases kind <;> simp [parent?] at above <;> subst above <;> decide

/-- A kind and all kinds above it, from the most special to the most general. -/
def lineage (kind : ErrorKind) : List ErrorKind :=
  match above : kind.parent? with
  | none => [kind]
  | some parent =>
    have := depth_lt_of_parent? above
    kind :: parent.lineage
termination_by kind.depth

def isValueError (kind : ErrorKind) : Bool := kind == filterParse

end ErrorKind

/-- The wording for a document, or a patch, that lacks its key. -/
def missingKeyMessage (subject field : String) : String :=
  subject ++ " missing string field \"" ++ field ++ "\""

def notBoundMessage (indexId : String) : String := "Index \"" ++ indexId ++ "\" not bound"

/-- An error with the arguments that its message consists of, and with the
attributes of its kind. -/
structure ErrorRecord where
  kind : ErrorKind
  args : List Value
  attributes : Entries := []

namespace ErrorRecord

/-- The subject of an error about a missing key when none is given. -/
def standardSubject : Value := .text "Document"

/-- Makes an error from arguments.  Two of the kinds take a fixed number of them. -/
def ofArgs (kind : ErrorKind) (args : List Value) : Except ConversionError ErrorRecord :=
  match kind with
  | .documentValidation =>
    match args with
    | [field] => .ok (missingKey field standardSubject)
    | [field, subject] => .ok (missingKey field subject)
    | _ => .error .wrongKind
  | .indexNotBound =>
    match args with
    | [indexId] =>
      .ok ⟨kind, [.text (notBoundMessage indexId.display)], [("index_id", indexId)]⟩
    | _ => .error .wrongKind
  | _ => .ok { kind, args }
where
  /-- The error about a document without its key. -/
  missingKey (field subject : Value) : ErrorRecord :=
    ⟨kind, [.text (missingKeyMessage subject.display field.display)], [("field_name", field)]⟩

def message (record : ErrorRecord) : String :=
  match record.args with
  | [] => ""
  | [only] => only.display
  | several => (Value.tuple several).literal

/-- The literal of an error.  An error about an index shows the index's name as it
is. -/
def literal (record : ErrorRecord) : String :=
  match record.kind, record.attributes with
  | .indexNotBound, [(_, indexId)] => record.kind.name ++ "('" ++ indexId.display ++ "')"
  | kind, _ => kind.name ++ "(" ++ ", ".intercalate (Value.literals record.args) ++ ")"

end ErrorRecord

end TableSearch
