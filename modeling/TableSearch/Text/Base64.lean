/-!
# Base64

Four digits of the base 64 stand for three bytes.  Characters that are no digits are
disregarded, and an equals sign stands for a digit that is missing at the end.
-/

namespace TableSearch.Base64

def digitValue? (c : Char) : Option Nat :=
  if c.isUpper then some (c.toNat - 'A'.toNat)
  else if c.isLower then some (c.toNat - 'a'.toNat + 26)
  else if c.isDigit then some (c.toNat - '0'.toNat + 52)
  else if c = '+' then some 62
  else if c = '/' then some 63
  else none

/-- Bits of a group that have not become bytes yet: how many digits of the group have
been read, the bits that are left of them, and the equals signs behind them. -/
structure Group where
  digits : Nat := 0
  bits : Nat := 0
  signs : Nat := 0

/-- Adds a digit to a group: the byte that it completes, and the group after it. -/
def Group.add (group : Group) (value : Nat) : List UInt8 × Group :=
  let all := 64 * group.bits + value
  match group.digits with
  | 0 => ([], { digits := 1, bits := all })
  | 1 => ([UInt8.ofNat (all / 16)], { digits := 2, bits := all % 16 })
  | 2 => ([UInt8.ofNat (all / 4)], { digits := 3, bits := all % 4 })
  | _ => ([UInt8.ofNat all], {})

/-- Decodes on behind a group.  Once equals signs complete a group nothing more is
read, and a group that stays incomplete is an error. -/
def decodeFrom? (group : Group) : List Char → Option (List UInt8)
  | [] => if group.digits = 0 then some [] else none
  | c :: rest =>
    if c = '=' then
      if group.digits < 2 then decodeFrom? group rest
      else if 4 ≤ group.digits + (group.signs + 1) then some []
      else decodeFrom? { group with signs := group.signs + 1 } rest
    else
      match digitValue? c with
      | none => decodeFrom? group rest
      | some value =>
        let (bytes, group) := group.add value
        (decodeFrom? group rest).map (bytes ++ ·)

def decode? (cs : List Char) : Option (List UInt8) := decodeFrom? {} cs

end TableSearch.Base64
