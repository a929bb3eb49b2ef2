import TableSearch.Text.Encoding
import TableSearch.Text.Literal

/-!
# Percent-encoded text

In a URL a percent sign and two hexadecimal digits stand for one byte of a text
in UTF-8.  A percent sign without such digits stands for itself.
-/

namespace TableSearch.PercentEncoding

/-- Where the pass over a text stands: after the digits read since the last
percent sign, or outside of an escape. -/
inductive Mode where
  | plain
  | percent
  | digit (first : Char)

def bytesFrom : Mode → List Char → List UInt8
  | .plain, [] => []
  | .percent, [] => [byte '%']
  | .digit first, [] => [byte '%', byte first]
  | .plain, c :: rest =>
    if c = '%' then bytesFrom .percent rest else byte c :: bytesFrom .plain rest
  | .percent, c :: rest =>
    if (Literal.hexValue? c).isSome then bytesFrom (.digit c) rest
    else if c = '%' then byte '%' :: bytesFrom .percent rest
    else byte '%' :: byte c :: bytesFrom .plain rest
  | .digit first, c :: rest =>
    match Literal.hexValue? first, Literal.hexValue? c with
    | some high, some low => UInt8.ofNat (16 * high + low) :: bytesFrom .plain rest
    | _, _ =>
      if c = '%' then byte '%' :: byte first :: bytesFrom .percent rest
      else byte '%' :: byte first :: byte c :: bytesFrom .plain rest
where
  /-- An ASCII character as a byte. -/
  byte (c : Char) : UInt8 := UInt8.ofNat c.toNat

def decodeRun (run : List Char) : List Char := Encoding.utf8Lossy (bytesFrom .plain run)

/-- The text that a percent-encoded text stands for.  Characters beyond ASCII stand
for themselves, and an encoded character cannot span one of them. -/
def decode (text : String) : String :=
  String.ofList (go [] text.toList)
where
  /-- Reads on behind a run of ASCII characters, whose last one comes first. -/
  go (run : List Char) : List Char → List Char
    | [] => decodeRun run.reverse
    | c :: rest =>
      if c.toNat < 0x80 then go (c :: run) rest else decodeRun run.reverse ++ c :: go [] rest

end TableSearch.PercentEncoding
