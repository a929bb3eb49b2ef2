import TableSearch.Number.Numeral

/-!
# Values

Documents, filters and result rows hold values whose kind is known only when
they arrive.  `Value` covers every kind that a caller or the database can hand
in.  The entries of a mapping keep the order in which they were written.
-/

namespace TableSearch

/-- A value of any kind.  Timestamps and decimals are opaque: they are passed on
in their text form. -/
inductive Value where
  | null
  | bool (b : Bool)
  | int (n : Int)
  | real (x : Binary64)
  | text (s : String)
  | bytes (bytes : List UInt8)
  | timestamp (iso : String)
  | decimal (digits : String)
  | list (items : List Value)
  | tuple (items : List Value)
  | map (entries : List (String × Value))

abbrev Entries := List (String × Value)

/-- Gives a key a value.  A key that is present keeps its place. -/
def insertEntry {α : Type} (key : String) (value : α) : List (String × α) → List (String × α)
  | [] => [(key, value)]
  | (k, v) :: rest => if k = key then (key, value) :: rest else (k, v) :: insertEntry key value rest

def hasEntry {α : Type} (key : String) (entries : List (String × α)) : Bool :=
  entries.any (·.1 == key)

namespace Value

instance : Inhabited Value := ⟨.null⟩

def isNull : Value → Bool
  | null => true
  | _ => false

def isText : Value → Bool
  | text _ => true
  | _ => false

def kindName : Value → String
  | null => "NoneType"
  | bool _ => "bool"
  | int _ => "int"
  | real _ => "float"
  | text _ => "str"
  | bytes _ => "bytes"
  | timestamp _ => "datetime"
  | decimal _ => "Decimal"
  | list _ => "list"
  | tuple _ => "tuple"
  | map _ => "dict"

def items? : Value → Option (List Value)
  | list items => some items
  | tuple items => some items
  | _ => none

/-- What going through a value yields, one by one: the members of a sequence,
the characters of a text, the numbers of a byte sequence, the keys of a
mapping. -/
def elements? : Value → Option (List Value)
  | list items => some items
  | tuple items => some items
  | text s => some (s.toList.map fun c => text (String.singleton c))
  | bytes bs => some (bs.map fun b => int b.toNat)
  | map entries => some (entries.map fun entry => text entry.1)
  | _ => none

/-- Whether a value counts as true: it is neither null, false, zero nor empty. -/
def truthy : Value → Bool
  | null => false
  | bool b => b
  | int n => n != 0
  | real x => !x.isZero
  | text s => !s.isEmpty
  | bytes bs => !bs.isEmpty
  | timestamp _ => true
  | decimal digits =>
    match Numeral.read? false digits.toList with
    | some n => (n.whole ++ n.fraction).any (· != 0)
    | none => true
  | list items => !items.isEmpty
  | tuple items => !items.isEmpty
  | map entries => !entries.isEmpty

mutual

/-- Whether a value may serve as a key: nothing in it is a list or a mapping. -/
def isKey : Value → Bool
  | list _ => false
  | map _ => false
  | tuple items => allKeys items
  | null => true
  | bool _ => true
  | int _ => true
  | real _ => true
  | text _ => true
  | bytes _ => true
  | timestamp _ => true
  | decimal _ => true

def allKeys : List Value → Bool
  | [] => true
  | item :: rest => item.isKey && allKeys rest

end

def rational? : Value → Option Rat
  | bool b => some (if b then 1 else 0)
  | int n => some n
  | real x => x.signedUnits?.map fun units => units / (Binary64.unitsOfOne : Rat)
  | decimal digits => (Numeral.read? false digits.toList).map Numeral.toRat
  | _ => none

mutual

/-- Equality of values.  Numbers of all kinds are compared by their value, and
mappings without regard to the order of their entries. -/
def equals : Value → Value → Bool
  | null, null => true
  | text s, text t => s == t
  | bytes s, bytes t => s == t
  | timestamp s, timestamp t => s == t
  | list xs, list ys => equalItems xs ys
  | tuple xs, tuple ys => equalItems xs ys
  | map xs, map ys => xs.length == ys.length && equalEntries xs ys
  | x, y =>
    match x.rational?, y.rational? with
    | some p, some q => p == q
    | _, _ =>
      match x, y with
      | real p, real q => p.eq q
      | _, _ => false

def equalItems : List Value → List Value → Bool
  | [], [] => true
  | x :: xs, y :: ys => x.equals y && equalItems xs ys
  | _, _ => false

/-- Whether every entry is found in the other mapping. -/
def equalEntries : List (String × Value) → List (String × Value) → Bool
  | [], _ => true
  | (key, x) :: xs, ys =>
    match ys.lookup key with
    | some y => x.equals y && equalEntries xs ys
    | none => false

end

end Value

end TableSearch
