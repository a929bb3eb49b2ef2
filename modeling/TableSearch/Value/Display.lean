import TableSearch.Number.Shortest
import TableSearch.Text.Literal
import TableSearch.Value.Basic

/-!
# Values as text

`Value.display` is the text that stands for a value where a text is wanted, such
as the identifier of a search hit.  A text stands for itself; a container is
written with the literals of its members.
-/

namespace TableSearch.Value

/-- The digits of a field of a timestamp, without the zeros in front. -/
def trimZeros (digits : List Char) : String :=
  match digits.dropWhile (· == '0') with
  | [] => "0"
  | rest => String.ofList rest

/-- The offset at the end of a timestamp, given in hours, minutes and seconds. -/
def offsetLiteral : List Char → String
  | [] => ""
  | sign :: rest =>
    let field (n : Nat) : Nat := ofDigits (((rest.drop (3 * n)).take 2).filterMap asciiDigitValue?)
    let seconds := 3600 * field 0 + 60 * field 1 + field 2
    let span :=
      if seconds = 0 then "datetime.timezone.utc"
      else if sign = '-' then
        s!"datetime.timezone(datetime.timedelta(days=-1, seconds={86400 - seconds}))"
      else s!"datetime.timezone(datetime.timedelta(seconds={seconds}))"
    ", tzinfo=" ++ span

/-- The literal of a timestamp in its ISO form.  Seconds are left out when they
and what follows them are zero. -/
def timestampLiteral (iso : String) : String :=
  let cs := iso.toList
  let field (start length : Nat) : String := trimZeros ((cs.drop start).take length)
  let fields := [field 0 4, field 5 2, field 8 2, field 11 2, field 14 2]
  let second := field 17 2
  let rest := cs.drop 19
  let (micros, offset) := match rest with
    | '.' :: rest => (trimZeros (rest.take 6), rest.drop 6)
    | rest => ("0", rest)
  let fields :=
    if micros != "0" then fields ++ [second, micros]
    else if second != "0" then fields ++ [second]
    else fields
  "datetime.datetime(" ++ ", ".intercalate fields ++ offsetLiteral offset ++ ")"

mutual

def literal : Value → String
  | null => "None"
  | bool b => if b then "True" else "False"
  | int n => toString n
  | real x => spokenNumber.text x
  | text s => Literal.ofText s
  | bytes bs => Literal.ofBytes bs
  | timestamp iso => timestampLiteral iso
  | decimal digits => "Decimal('" ++ digits ++ "')"
  | list items => "[" ++ ", ".intercalate (literals items) ++ "]"
  | tuple items =>
    match literals items with
    | [only] => "(" ++ only ++ ",)"
    | several => "(" ++ ", ".intercalate several ++ ")"
  | map entries => "\x7b" ++ ", ".intercalate (entryLiterals entries) ++ "\x7d"

def literals : List Value → List String
  | [] => []
  | item :: rest => item.literal :: literals rest

def entryLiterals : List (String × Value) → List String
  | [] => []
  | (key, value) :: rest => (Literal.ofText key ++ ": " ++ value.literal) :: entryLiterals rest

end

/-- The text that stands for a value.  A timestamp has a space between date and
time. -/
def display : Value → String
  | text s => s
  | timestamp iso => String.ofList (iso.toList.map fun c => if c = 'T' then ' ' else c)
  | decimal digits => digits
  | value => value.literal

end TableSearch.Value
