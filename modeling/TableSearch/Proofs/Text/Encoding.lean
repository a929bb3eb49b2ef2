import Mathlib.Data.List.Basic
import TableSearch.Text.Encoding

/-!
# Visible ASCII as bytes

A text of visible ASCII characters has one byte for each character, and from these bytes it is
decoded again: neither a byte order mark nor a zero byte is among them.
-/

namespace TableSearch

def IsVisible (c : Char) : Prop := 0x20 ≤ c.toNat ∧ c.toNat < 0x7F

instance (c : Char) : Decidable (IsVisible c) :=
  inferInstanceAs (Decidable (0x20 ≤ c.toNat ∧ c.toNat < 0x7F))

theorem IsVisible.of_between {low c high : Char} (bounds : low ≤ c ∧ c ≤ high)
    (first : IsVisible low) (last : IsVisible high) : IsVisible c :=
  ⟨Nat.le_trans first.1 (UInt32.le_iff_toNat_le.mp bounds.1),
    Nat.lt_of_le_of_lt (UInt32.le_iff_toNat_le.mp bounds.2) last.2⟩

theorem IsVisible.of_isAlphanum {c : Char} (alphanumeric : c.isAlphanum = true) : IsVisible c := by
  have kinds : ((c.isUpper || c.isLower) || c.isDigit) = true := alphanumeric
  simp only [Bool.or_eq_true] at kinds
  rcases kinds with (upper | lower) | digit
  · have bounds : 'A' ≤ c ∧ c ≤ 'Z' := of_decide_eq_true upper
    exact .of_between bounds (by decide) (by decide)
  · have bounds : 'a' ≤ c ∧ c ≤ 'z' := by
      have both : (decide (c ≥ 'a') && decide (c ≤ 'z')) = true := lower
      simpa using both
    exact .of_between bounds (by decide) (by decide)
  · have bounds : '0' ≤ c ∧ c ≤ '9' := by
      have both : (decide (c ≥ '0') && decide (c ≤ '9')) = true := digit
      simpa using both
    exact .of_between bounds (by decide) (by decide)

def utf8Bytes (text : String) : List UInt8 := text.toUTF8.data.toList

theorem utf8Bytes_eq_flatMap (text : String) :
    utf8Bytes text = text.toList.flatMap String.utf8EncodeChar := by
  have encoded : text.toUTF8 = (text.toList.flatMap String.utf8EncodeChar).toByteArray :=
    text.utf8Encode_toList.symm
  rw [utf8Bytes, encoded, List.toList_data_toByteArray]

def visibleByte (c : Char) : UInt8 := UInt8.ofNat c.toNat

namespace IsVisible

variable {c : Char} (visible : IsVisible c)
include visible

theorem toNat_visibleByte : (visibleByte c).toNat = c.toNat := by
  obtain ⟨-, small⟩ := visible
  rw [visibleByte, UInt8.toNat_ofNat', Nat.mod_eq_of_lt (by omega)]

theorem utf8EncodeChar : String.utf8EncodeChar c = [visibleByte c] := by
  have small : c.val.toNat ≤ 127 := Nat.le_of_lt visible.2
  rw [String.utf8EncodeChar, if_pos small]
  rfl

theorem leadByte? : Encoding.leadByte? (visibleByte c).toNat = some ⟨0, c.toNat, 0⟩ := by
  rw [Encoding.leadByte?, toNat_visibleByte visible, if_pos (Nat.lt_trans visible.2 (by decide))]

end IsVisible

theorem utf8Bytes_of_visible {text : String} (visible : ∀ c ∈ text.toList, IsVisible c) :
    utf8Bytes text = text.toList.map visibleByte := by
  rw [utf8Bytes_eq_flatMap, List.map_eq_flatMap, List.flatMap_def, List.flatMap_def,
    List.map_congr_left fun c mem => (visible c mem).utf8EncodeChar]

namespace Encoding

/-- A mark begins with none of the bytes of visible characters. -/
theorem isPrefixOf?_mark {bytes : List UInt8} (plain : ∀ b ∈ bytes, 0x20 ≤ b.toNat ∧ b.toNat < 0x7F)
    {first : UInt8} (other : first.toNat < 0x20 ∨ 0x7F ≤ first.toNat) (mark : List UInt8) :
    (first :: mark).isPrefixOf? bytes = none := by
  cases bytes with
  | nil => rfl
  | cons b bytes =>
    have differs : ¬first = b := by
      rintro rfl
      have here := plain first List.mem_cons_self
      omega
    rw [List.isPrefixOf?, if_neg (by simpa using differs)]

/-- Among bytes of visible characters no other encoding shows. -/
theorem jsonText?_of_plain {bytes : List UInt8}
    (plain : ∀ b ∈ bytes, 0x20 ≤ b.toNat ∧ b.toNat < 0x7F) :
    jsonText? bytes = utf8? true bytes := by
  have unmarked : (marks.findSome? fun mark => (mark.1.isPrefixOf? bytes).map mark.2) = none := by
    refine List.findSome?_eq_none_iff.mpr fun mark mem => ?_
    simp only [marks, List.mem_cons, List.not_mem_nil, or_false] at mem
    rcases mem with rfl | rfl | rfl | rfl | rfl <;>
      exact Option.map_eq_none_iff.mpr (isPrefixOf?_mark plain (by decide) _)
  have nonzero : ∀ b ∈ bytes, b ≠ 0 := by
    rintro b mem rfl
    exact absurd (plain 0 mem).1 (by decide)
  -- Without a mark the encoding is told by zero bytes, of which there are none.
  rw [jsonText?, unmarked, Option.getD_none]
  unfold unmarked?
  split
  · rw [if_neg (nonzero _ (by simp)), if_neg (nonzero _ (by simp))]
  · rw [if_neg (nonzero _ (by simp)), if_neg (nonzero _ (by simp))]
  · rfl

/-- A byte that announces no others is a character of its own. -/
theorem utf8?_go_of_leadByte? {surrogates : Bool} {b : UInt8} {bits least : Nat}
    (rest : List UInt8) (lead : leadByte? b.toNat = some ⟨0, bits, least⟩) :
    utf8?.go surrogates none (b :: rest) =
      (utf8?.go surrogates none rest).map (Char.ofNat bits :: ·) := by
  rw [utf8?.go, lead]
  rfl

variable {cs : List Char} (visible : ∀ c ∈ cs, IsVisible c)
include visible

theorem utf8?_of_visible (surrogates : Bool) : utf8? surrogates (cs.map visibleByte) = some cs := by
  unfold utf8?
  induction cs with
  | nil => rfl
  | cons c cs ih =>
    obtain ⟨first, others⟩ := List.forall_mem_cons.mp visible
    rw [List.map_cons, utf8?_go_of_leadByte? _ first.leadByte?, ih others, Option.map_some,
      Char.ofNat_toNat]

theorem jsonText?_of_visible : jsonText? (cs.map visibleByte) = some cs := by
  have plain : ∀ b ∈ cs.map visibleByte, 0x20 ≤ b.toNat ∧ b.toNat < 0x7F := by
    intro b mem
    obtain ⟨c, inside, rfl⟩ := List.mem_map.mp mem
    rw [(visible c inside).toNat_visibleByte]
    exact visible c inside
  rw [jsonText?_of_plain plain, utf8?_of_visible visible]

end Encoding

end TableSearch
