/-!
# Bytes as text

Decoding of UTF-8, UTF-16 and UTF-32, and the rule that tells which of them a
JSON text in bytes is written in: a byte order mark decides, and without one
the zero bytes among the first four.

A text cannot hold an unpaired surrogate.  Where an encoding spells one, the
replacement character stands in its place.
-/

namespace TableSearch.Encoding

/-- The character for a code point, with the replacement character for a
surrogate, and nothing beyond the last code point. -/
def character? (codePoint : Nat) : Option Char :=
  if codePoint.isValidChar then some (Char.ofNat codePoint)
  else if codePoint < 0x110000 then some '\uFFFD'
  else none

/-- A character under way: the continuation bytes that are still to come, the
bits so far, and the least code point of that length. -/
structure Partial where
  missing : Nat
  bits : Nat
  least : Nat

def leadByte? (b : Nat) : Option Partial :=
  if b < 0x80 then some ⟨0, b, 0⟩
  else if b < 0xC0 then none
  else if b < 0xE0 then some ⟨1, b - 0xC0, 0x80⟩
  else if b < 0xF0 then some ⟨2, b - 0xE0, 0x800⟩
  else if b < 0xF8 then some ⟨3, b - 0xF0, 0x10000⟩
  else none

/-- Decodes UTF-8.  With `surrogates`, an encoded surrogate is let pass. -/
def utf8? (surrogates : Bool) (bytes : List UInt8) : Option (List Char) :=
  go none bytes
where
  /-- Decodes the bytes after a character under way. -/
  go : Option Partial → List UInt8 → Option (List Char)
    | none, [] => some []
    | some _, [] => none
    | none, b :: rest =>
      (leadByte? b.toNat).bind fun p =>
        if p.missing = 0 then (go none rest).map (Char.ofNat p.bits :: ·) else go (some p) rest
    | some p, b :: rest =>
      if 0x80 ≤ b.toNat ∧ b.toNat < 0xC0 then
        let bits := p.bits * 64 + (b.toNat - 0x80)
        if p.missing ≤ 1 then
          if bits < p.least ∨ (!surrogates ∧ 0xD800 ≤ bits ∧ bits < 0xE000) then none
          else (character? bits).bind fun c => (go none rest).map (c :: ·)
        else go (some { p with missing := p.missing - 1, bits }) rest
      else none

/-- A character under way whose next byte must lie between two bounds.  The bounds
rule out forms that are too long, surrogates and code points beyond the last. -/
structure Awaited where
  missing : Nat
  bits : Nat
  low : Nat
  high : Nat

/-- What a byte begins: a whole character, a character under way, or, when it can
begin neither, the replacement character. -/
def beginLossy (b : Nat) : List Char × Option Awaited :=
  if b < 0x80 then ([Char.ofNat b], none)
  else if b < 0xC2 ∨ 0xF4 < b then (['\uFFFD'], none)
  else if b < 0xE0 then ([], some ⟨1, b - 0xC0, 0x80, 0xBF⟩)
  else if b < 0xF0 then
    ([], some ⟨2, b - 0xE0, if b = 0xE0 then 0xA0 else 0x80, if b = 0xED then 0x9F else 0xBF⟩)
  else ([], some ⟨3, b - 0xF0, if b = 0xF0 then 0x90 else 0x80, if b = 0xF4 then 0x8F else 0xBF⟩)

/-- Decodes UTF-8 with a replacement character for every part that is not
well-formed. -/
def utf8Lossy (bytes : List UInt8) : List Char :=
  go none bytes
where
  /-- Decodes the bytes after a character under way. -/
  go : Option Awaited → List UInt8 → List Char
    | none, [] => []
    | some _, [] => ['\uFFFD']
    | none, b :: rest =>
      let (out, next) := beginLossy b.toNat
      out ++ go next rest
    | some p, b :: rest =>
      if p.low ≤ b.toNat ∧ b.toNat ≤ p.high then
        let bits := p.bits * 64 + (b.toNat - 0x80)
        if p.missing ≤ 1 then Char.ofNat bits :: go none rest
        else go (some ⟨p.missing - 1, bits, 0x80, 0xBF⟩) rest
      else
        let (out, next) := beginLossy b.toNat
        '\uFFFD' :: out ++ go next rest

/-- Groups bytes into numbers of a fixed width; the bytes must come out even. -/
def group? (bigEndian : Bool) (width : Nat) (bytes : List UInt8) : Option (List Nat) :=
  go [] bytes
where
  /-- Collects the bytes of the current number, last byte first. -/
  go (pending : List UInt8) : List UInt8 → Option (List Nat)
    | [] => if pending.isEmpty then some [] else none
    | b :: rest =>
      let pending := b :: pending
      if pending.length < width then go pending rest
      else
        let ordered := if bigEndian then pending.reverse else pending
        (go [] rest).map (ordered.foldl (fun n b => 256 * n + b.toNat) 0 :: ·)

/-- Joins the 16-bit units of a text; `high` is an unfinished surrogate pair. -/
def joinUnits (high : Option Nat) : List Nat → List Char
  | [] => if high.isSome then ['\uFFFD'] else []
  | unit :: rest =>
    let isHigh := 0xD800 ≤ unit && unit < 0xDC00
    let isLow := 0xDC00 ≤ unit && unit < 0xE000
    match high with
    | some h =>
      if isLow then
        Char.ofNat (0x10000 + (h - 0xD800) * 0x400 + (unit - 0xDC00)) :: joinUnits none rest
      else if isHigh then '\uFFFD' :: joinUnits (some unit) rest
      else '\uFFFD' :: Char.ofNat unit :: joinUnits none rest
    | none =>
      if isHigh then joinUnits (some unit) rest
      else if isLow then '\uFFFD' :: joinUnits none rest
      else Char.ofNat unit :: joinUnits none rest

def utf16? (bigEndian : Bool) (bytes : List UInt8) : Option (List Char) :=
  (group? bigEndian 2 bytes).map (joinUnits none)

def utf32? (bigEndian : Bool) (bytes : List UInt8) : Option (List Char) :=
  (group? bigEndian 4 bytes).bind (·.mapM character?)

/-- The byte order marks, each with the decoder for what follows it.  A mark of UTF-32 goes before
the one of UTF-16 that it begins with. -/
def marks : List (List UInt8 × (List UInt8 → Option (List Char))) :=
  [([0x00, 0x00, 0xFE, 0xFF], utf32? true), ([0xFF, 0xFE, 0x00, 0x00], utf32? false),
   ([0xFE, 0xFF], utf16? true), ([0xFF, 0xFE], utf16? false), ([0xEF, 0xBB, 0xBF], utf8? true)]

/-- Decodes a JSON text in bytes without a byte order mark. -/
def unmarked? (bytes : List UInt8) : Option (List Char) :=
  match bytes with
  | a :: b :: c :: d :: _ =>
    if a = 0 then if b = 0 then utf32? true bytes else utf16? true bytes
    else if b = 0 then if c = 0 ∧ d = 0 then utf32? false bytes else utf16? false bytes
    else utf8? true bytes
  | [a, b] =>
    if a = 0 then utf16? true bytes
    else if b = 0 then utf16? false bytes
    else utf8? true bytes
  | _ => utf8? true bytes

def jsonText? (bytes : List UInt8) : Option (List Char) :=
  let marked := marks.findSome? fun mark => (mark.1.isPrefixOf? bytes).map mark.2
  marked.getD (unmarked? bytes)

end TableSearch.Encoding
