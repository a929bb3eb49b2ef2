import TableSearch.Json.Token
import TableSearch.Proofs.Number.Digits
import TableSearch.Proofs.Number.Shortest

/-!
# Written numbers are read back

An integer is written in decimal digits, and a real number by one of two layouts with its
shortest digits.  Both are read as the token of the number that was written.
-/

namespace TableSearch.Json

/-! ## The parts of a number -/

def signText (negative : Bool) : List Char := if negative then ['-'] else []

/-- A power of ten behind a number: its sign and its digits. -/
structure Power where
  negative : Bool
  digits : List Char
  allDigits : AllDigits digits
  nonempty : digits ≠ []

def Power.text (power : Power) : List Char :=
  'e' :: (if power.negative then '-' else '+') :: power.digits

def Power.exponent (power : Power) : Int :=
  if power.negative then -(digitsValue power.digits : Int) else digitsValue power.digits

/-- A positive number with a point or with a power of ten, in its parts. -/
structure RealText where
  whole : List Char
  fraction : List Char
  power : Option Power
  wholeDigits : AllDigits whole
  nonempty : whole ≠ []
  leading : whole.head? ≠ some '0' ∨ whole = ['0']
  fractionDigits : AllDigits fraction
  inexact : fraction ≠ [] ∨ power.isSome

namespace RealText

/-- What follows the digits in front of the point. -/
def tail (parts : RealText) : List Char :=
  (if parts.fraction.isEmpty then [] else '.' :: parts.fraction) ++
    (parts.power.map Power.text).getD []

def text (parts : RealText) : List Char := parts.whole ++ parts.tail

def digits (parts : RealText) : Nat := digitsValue (parts.whole ++ parts.fraction)

def exponent (parts : RealText) : Int :=
  (parts.power.map Power.exponent).getD 0 - parts.fraction.length

def value (parts : RealText) : ℚ := parts.digits * 10 ^ parts.exponent

end RealText

/-! ## Reading the parts -/

theorem readWhole?_append {negative : Bool} {whole rest : List Char} (digits : AllDigits whole)
    (nonempty : whole ≠ []) (leading : whole.head? ≠ some '0' ∨ whole = ['0'])
    (ends : rest.head?.bind asciiDigitValue? = none) :
    readWhole? (signText negative ++ (whole ++ rest)) = some (negative, digitValues whole, rest) := by
  obtain ⟨first, others, rfl⟩ := List.exists_cons_of_ne_nil nonempty
  obtain ⟨digit, -⟩ := allDigits_cons.mp digits
  have unsigned : first ≠ '-' := by
    rintro rfl
    exact absurd digit (by decide)
  have taken := takeDigits_append false digits ends
  rw [List.cons_append, digitValues, List.map_cons] at taken
  -- Behind a leading zero nothing more is read, whatever digits have been taken.
  cases value : first.toNat - '0'.toNat with
  | zero =>
    obtain rfl : first = '0' := eq_zero_of_digit digit value
    obtain rfl : others = [] := by
      rcases leading with other | alone
      · exact absurd rfl other
      · exact (List.cons.inj alone).2
    rw [List.nil_append] at taken
    cases negative <;> simp [readWhole?, signText, taken, digitValues]
  | succ d =>
    rw [value] at taken
    rw [digitValues, List.map_cons, value]
    cases negative <;> simp [readWhole?, signText, unsigned, taken]

theorem readFraction?_append {fraction rest : List Char} (digits : AllDigits fraction)
    (nonempty : fraction ≠ []) (ends : rest.head?.bind asciiDigitValue? = none) :
    readFraction? ('.' :: (fraction ++ rest)) = some (digitValues fraction, rest) := by
  obtain ⟨first, others, rfl⟩ := List.exists_cons_of_ne_nil nonempty
  simp only [readFraction?, takeDigits_append false digits ends]
  simp [digitValues]

theorem readExponent?_power (power : Power) :
    Numeral.readExponent? false power.text = some power.exponent := by
  obtain ⟨negative, digits, allDigits, nonempty⟩ := power
  obtain ⟨first, others, rfl⟩ := List.exists_cons_of_ne_nil nonempty
  have taken : takeDigits false false (first :: others ++ []) = _ :=
    takeDigits_append false allDigits rfl
  rw [List.append_nil] at taken
  have sign : takeSign ((if negative then '-' else '+') :: first :: others) =
      (negative, first :: others) := by cases negative <;> rfl
  simp only [Power.text, Numeral.readExponent?, true_or, if_true, sign, taken]
  have number : ofDigits (digitValues (first :: others)) = digitsValue (first :: others) :=
    ofDigits_digitValues _
  simp only [digitValues, List.map_cons] at number ⊢
  rw [number]
  rfl

theorem beginsExponent_power (power : Power) : beginsExponent power.text = true := by
  obtain ⟨negative, digits, allDigits, nonempty⟩ := power
  obtain ⟨first, others, rfl⟩ := List.exists_cons_of_ne_nil nonempty
  obtain ⟨digit, -⟩ := allDigits_cons.mp allDigits
  have sign : takeSign ((if negative then '-' else '+') :: first :: others) =
      (negative, first :: others) := by cases negative <;> rfl
  simp [Power.text, beginsExponent, sign, asciiDigitValue?_of_isDigit digit]

/-! ## Reading a number -/

/-- No digit stands where the digits in front of the point end. -/
theorem RealText.tail_ends (parts : RealText) :
    parts.tail.head?.bind asciiDigitValue? = none := by
  rw [RealText.tail]
  cases parts.fraction with
  | cons => rfl
  | nil =>
    cases parts.power with
    | none => rfl
    | some power => rfl

/-- A number with a point or with a power of ten is read as the double nearest to it. -/
theorem number_realText (negative : Bool) (parts : RealText) :
    number (signText negative ++ parts.text) =
      .atom (.real (.ofDecimal negative parts.digits parts.exponent)) := by
  rw [number, RealText.text,
    readWhole?_append parts.wholeDigits parts.nonempty parts.leading parts.tail_ends]
  have number (power : Int) : Numeral.toBinary64
      ⟨negative, digitValues parts.whole, digitValues parts.fraction, power⟩ =
      .ofDecimal negative parts.digits (power - parts.fraction.length) := by
    simp only [Numeral.toBinary64, RealText.digits, ← ofDigits_digitValues, digitValues,
      List.map_append, List.length_map]
  have ends : ((parts.power.map Power.text).getD []).head?.bind asciiDigitValue? = none := by
    cases parts.power <;> rfl
  have power : Numeral.readExponent? false ((parts.power.map Power.text).getD []) =
      some ((parts.power.map Power.exponent).getD 0) := by
    cases parts.power with
    | none => rfl
    | some power => exact readExponent?_power power
  rw [RealText.tail]
  -- Without a fraction there is a power of ten, which alone keeps the number from being an integer.
  by_cases fraction : parts.fraction = []
  · obtain ⟨last, same⟩ := Option.isSome_iff_exists.mp
      (parts.inexact.resolve_left (not_not.mpr fraction))
    have integral : readFraction? last.text = none := rfl
    simp only [fraction, same, List.isEmpty_nil, if_true, List.nil_append, Option.map_some,
      Option.getD_some] at power number ⊢
    simp only [integral, beginsExponent_power, Option.getD_none, power]
    have exponent : parts.exponent = last.exponent - ([] : List Char).length := by
      rw [RealText.exponent, same, fraction]
      rfl
    rw [exponent, ← number]
    rfl
  · have point := readFraction?_append parts.fractionDigits fraction ends
    simp only [List.isEmpty_iff, fraction, if_false, List.cons_append, point, Option.getD_some, power]
    rw [RealText.exponent, ← number]

theorem leading_toDigits (n : Nat) :
    (Nat.toDigits 10 n).head? ≠ some '0' ∨ Nat.toDigits 10 n = ['0'] := by
  rcases Nat.eq_zero_or_pos n with rfl | positive
  · exact .inr rfl
  · exact .inl (head?_toDigits positive)

/-- The digits of an integer are read as the integer, unless they are too many. -/
theorem number_toDigits (negative : Bool) (n : Nat) :
    number (signText negative ++ Nat.toDigits 10 n) =
      if digitLimit < (Nat.toDigits 10 n).length then .oversized
      else .atom (.int (if negative then -(n : Int) else n)) := by
  have whole : readWhole? (signText negative ++ (Nat.toDigits 10 n ++ [])) = some _ :=
    readWhole?_append (allDigits_toDigits n) Nat.toDigits_ne_nil (leading_toDigits n) rfl
  rw [List.append_nil] at whole
  have length : (digitValues (Nat.toDigits 10 n)).length = (Nat.toDigits 10 n).length :=
    List.length_map _
  simp [number, whole, readFraction?, beginsExponent, ofDigits_digitValues, digitsValue_toDigits,
    length]

/-! ## Laying out digits -/

section Digits

variable {digits : List Char}

theorem RealText.value_of_no_power {parts : RealText} (none : parts.power = none) :
    parts.value = parts.digits * 10 ^ (-parts.fraction.length : Int) := by
  rw [RealText.value, RealText.exponent, none, Option.map_none, Option.getD_none, Int.zero_sub]

/-- Digits without an exponent, all of them behind the point. -/
theorem plain_realText_of_neg (allDigits : AllDigits digits) (nonempty : digits ≠ [])
    {exponent : Int} (small : exponent < 0) :
    ∃ parts : RealText, parts.text = Layout.plain digits exponent ∧
      parts.value = digitsValue digits * 10 ^ (exponent + 1 - digits.length) := by
  let zeros := List.replicate (-exponent - 1).toNat '0'
  let parts : RealText := {
    whole := ['0']
    fraction := zeros ++ digits
    power := none
    wholeDigits := allDigits_zeros 1
    nonempty := List.cons_ne_nil _ _
    leading := .inr rfl
    fractionDigits := allDigits_append.mpr ⟨allDigits_zeros _, allDigits⟩
    inexact := .inl (List.append_ne_nil_of_right_ne_nil _ nonempty) }
  refine ⟨parts, ?_, ?_⟩
  · simp [parts, RealText.text, RealText.tail, Layout.plain, small, nonempty, zeros]
  · have value : parts.digits = digitsValue digits :=
      (digitsValue_zeros_append 1 (zeros ++ digits)).trans (digitsValue_zeros_append _ digits)
    have length : (-parts.fraction.length : Int) = exponent + 1 - digits.length := by
      simp only [parts, zeros, List.length_append, List.length_replicate]
      omega
    rw [RealText.value_of_no_power rfl, value, length]

/-- Digits without an exponent, those that are missing in front of the point filled up. -/
theorem plain_realText_of_short (allDigits : AllDigits digits) (nonempty : digits ≠ [])
    (leading : digits.head? ≠ some '0') {exponent : Int} (large : ¬exponent < 0)
    (short : digits.length ≤ exponent.toNat + 1) :
    ∃ parts : RealText, parts.text = Layout.plain digits exponent ∧
      parts.value = digitsValue digits * 10 ^ (exponent + 1 - digits.length) := by
  let zeros := List.replicate (exponent.toNat + 1 - digits.length) '0'
  have head : (digits ++ zeros).head? = digits.head? := List.head?_append_of_ne_nil _ nonempty
  let parts : RealText := {
    whole := digits ++ zeros
    fraction := ['0']
    power := none
    wholeDigits := allDigits_append.mpr ⟨allDigits, allDigits_zeros _⟩
    nonempty := List.append_ne_nil_of_left_ne_nil nonempty _
    leading := .inl (head ▸ leading)
    fractionDigits := allDigits_zeros 1
    inexact := .inl (List.cons_ne_nil _ _) }
  refine ⟨parts, ?_, ?_⟩
  · simp [parts, RealText.text, RealText.tail, Layout.plain, large, List.drop_of_length_le short,
      List.take_of_length_le short, zeros]
  · have value : parts.digits = digitsValue digits * 10 ^ (exponent.toNat + 1 - digits.length + 1) := by
      change digitsValue (digits ++ zeros ++ ['0']) = _
      rw [List.append_assoc, digitsValue_append, show zeros ++ ['0'] =
        List.replicate (exponent.toNat + 1 - digits.length + 1) '0' from
          List.replicate_succ'.symm, digitsValue_zeros, List.length_replicate, Nat.add_zero]
    -- One of the zeros is behind the point and takes back one power of ten.
    have power : ((10 ^ (exponent.toNat + 1 - digits.length + 1) : Nat) : ℚ) *
        10 ^ (-1 : Int) = 10 ^ (exponent + 1 - digits.length) := by
      rw [Nat.cast_pow, ← zpow_natCast, Nat.cast_ofNat, ← zpow_add₀ (by norm_num)]
      congr 1
      omega
    rw [RealText.value_of_no_power rfl, value, Nat.cast_mul, mul_assoc, ← power]
    rfl

/-- Digits without an exponent, on both sides of the point. -/
theorem plain_realText_of_long (allDigits : AllDigits digits) (leading : digits.head? ≠ some '0')
    {exponent : Int} (large : ¬exponent < 0) (long : exponent.toNat + 1 < digits.length) :
    ∃ parts : RealText, parts.text = Layout.plain digits exponent ∧
      parts.value = digitsValue digits * 10 ^ (exponent + 1 - digits.length) := by
  have nonempty : digits ≠ [] := List.ne_nil_of_length_pos (by omega)
  have rest : digits.drop (exponent.toNat + 1) ≠ [] :=
    List.ne_nil_of_length_pos (by rw [List.length_drop]; omega)
  let parts : RealText := {
    whole := digits.take (exponent.toNat + 1)
    fraction := digits.drop (exponent.toNat + 1)
    power := none
    wholeDigits := fun c mem => allDigits c (List.mem_of_mem_take mem)
    nonempty := by simp [nonempty]
    leading := .inl (by rwa [List.head?_take, if_neg (Nat.succ_ne_zero _)])
    fractionDigits := fun c mem => allDigits c (List.mem_of_mem_drop mem)
    inexact := .inl rest }
  refine ⟨parts, ?_, ?_⟩
  · have none : exponent.toNat + 1 - digits.length = 0 := by omega
    simp [parts, RealText.text, RealText.tail, Layout.plain, large, none, rest]
  · have value : parts.digits = digitsValue digits := by
      change digitsValue (digits.take _ ++ digits.drop _) = _
      rw [List.take_append_drop]
    have length : (-parts.fraction.length : Int) = exponent + 1 - digits.length := by
      simp only [parts, List.length_drop]
      omega
    rw [RealText.value_of_no_power rfl, value, length]

/-- Digits without an exponent are read with the exponent of the first one. -/
theorem plain_realText (allDigits : AllDigits digits) (nonempty : digits ≠ [])
    (leading : digits.head? ≠ some '0') (exponent : Int) :
    ∃ parts : RealText, parts.text = Layout.plain digits exponent ∧
      parts.value = digitsValue digits * 10 ^ (exponent + 1 - digits.length) := by
  by_cases small : exponent < 0
  · exact plain_realText_of_neg allDigits nonempty small
  · rcases Nat.lt_or_ge (exponent.toNat + 1) digits.length with long | short
    · exact plain_realText_of_long allDigits leading small long
    · exact plain_realText_of_short allDigits nonempty leading small short

def writtenPower (width : Nat) (exponent : Int) : Power where
  negative := exponent < 0
  digits := Layout.padLeft width (Nat.toDigits 10 exponent.natAbs)
  allDigits := allDigits_append.mpr ⟨allDigits_zeros _, allDigits_toDigits _⟩
  nonempty := List.append_ne_nil_of_right_ne_nil _ Nat.toDigits_ne_nil

theorem writtenPower_exponent (width : Nat) (exponent : Int) :
    (writtenPower width exponent).exponent = exponent := by
  have digits : digitsValue (writtenPower width exponent).digits = exponent.natAbs :=
    (digitsValue_zeros_append _ _).trans (digitsValue_toDigits _)
  rw [Power.exponent, digits]
  simp only [writtenPower, decide_eq_true_eq]
  split <;> omega

/-- Digits with an exponent are read with that exponent for the first one. -/
theorem withExponent_realText (allDigits : AllDigits digits) (nonempty : digits ≠ [])
    (leading : digits.head? ≠ some '0') (width : Nat) (exponent : Int) :
    ∃ parts : RealText, parts.text = Layout.withExponent width digits exponent ∧
      parts.value = digitsValue digits * 10 ^ (exponent + 1 - digits.length) := by
  obtain ⟨first, rest, rfl⟩ := List.exists_cons_of_ne_nil nonempty
  obtain ⟨digit, others⟩ := allDigits_cons.mp allDigits
  let parts : RealText := {
    whole := [first]
    fraction := rest
    power := some (writtenPower width exponent)
    wholeDigits := allDigits_cons.mpr ⟨digit, allDigits_nil⟩
    nonempty := List.cons_ne_nil _ _
    leading := .inl leading
    fractionDigits := others
    inexact := .inr rfl }
  refine ⟨parts, ?_, ?_⟩
  · cases rest <;>
      simp [parts, RealText.text, RealText.tail, Layout.withExponent, Power.text, writtenPower]
  · have length : parts.exponent = exponent + 1 - (first :: rest).length := by
      simp only [parts, RealText.exponent, Option.map_some, Option.getD_some, writtenPower_exponent,
        List.length_cons]
      omega
    rw [RealText.value, length]
    rfl

end Digits

/-! ## Real numbers -/

theorem exists_zeros (written : List Char) :
    ∃ n, written = (written.reverse.dropWhile (· == '0')).reverse ++ List.replicate n '0' := by
  refine ⟨(written.reverse.takeWhile (· == '0')).length, ?_⟩
  have zeros : written.reverse.takeWhile (· == '0') =
      List.replicate (written.reverse.takeWhile (· == '0')).length '0' :=
    List.eq_replicate_of_mem fun c mem => by simpa using (List.all_eq_true.mp List.all_takeWhile) c mem
  have parted := List.takeWhile_append_dropWhile (p := (· == '0')) (l := written.reverse)
  rw [zeros] at parted
  rw [← List.reverse_replicate, ← List.reverse_append, parted, List.reverse_reverse]

/-- The zeros that are left out at the end of the digits are made up for by the exponent. -/
theorem decimal_realText (layout : Layout) {d : Decimal} (positive : 0 < d.digits) :
    ∃ parts : RealText, parts.text = layout.decimal d ∧
      parts.value = d.digits * 10 ^ d.exponent := by
  obtain ⟨zeros, written⟩ := exists_zeros (Nat.toDigits 10 d.digits)
  rw [Layout.decimal]
  -- The zeros at the end are cut off; what is left and they are the digits of the decimal.
  generalize ((Nat.toDigits 10 d.digits).reverse.dropWhile (· == '0')).reverse = digits at written ⊢
  have nonempty : digits ≠ [] := by
    rintro rfl
    have first := head?_toDigits positive
    have some : Nat.toDigits 10 d.digits ≠ [] := Nat.toDigits_ne_nil
    rw [List.nil_append] at written
    cases zeros with
    | zero => exact some written
    | succ n => exact first (by rw [written]; rfl)
  have leading : digits.head? ≠ some '0' := by
    have first := head?_toDigits positive
    rwa [written, List.head?_append_of_ne_nil _ nonempty] at first
  have allDigits : AllDigits digits := by
    have all := allDigits_toDigits d.digits
    rw [written] at all
    exact (allDigits_append.mp all).1
  have value : (digitsValue digits : ℚ) *
      10 ^ (d.exponent + (Nat.toDigits 10 d.digits).length - 1 + 1 - digits.length) =
      d.digits * 10 ^ d.exponent := by
    have whole : d.digits = digitsValue digits * 10 ^ zeros := by
      rw [← digitsValue_toDigits d.digits, written, digitsValue_append, digitsValue_zeros,
        List.length_replicate, Nat.add_zero]
    -- Each zero that is cut off moves the point by one place, so that the value is the same.
    have exponent : d.exponent + (Nat.toDigits 10 d.digits).length - 1 + 1 - digits.length =
        zeros + d.exponent := by
      rw [written, List.length_append, List.length_replicate]
      omega
    rw [exponent, zpow_add₀ (by norm_num), zpow_natCast, ← mul_assoc, whole, Nat.cast_mul,
      Nat.cast_pow, Nat.cast_ofNat]
  rw [← value]
  split
  · exact plain_realText allDigits nonempty leading _
  · exact withExponent_realText allDigits nonempty leading _ _

def RealText.zero : RealText where
  whole := ['0']
  fraction := ['0']
  power := none
  wholeDigits := allDigits_zeros 1
  nonempty := List.cons_ne_nil _ _
  leading := .inr rfl
  fractionDigits := allDigits_zeros 1
  inexact := .inl (List.cons_ne_nil _ _)

theorem ofList_signText (negative : Bool) (digits : List Char) :
    String.ofList (if negative then '-' :: digits else digits) =
      String.ofList (signText negative ++ digits) := by
  cases negative <;> rfl

/-- A finite number is written in digits that read back to it. -/
theorem exists_realText (layout : Layout) (magnitude : Magnitude) :
    ∃ parts : RealText, (∀ negative, layout.text (.finite negative magnitude) =
        String.ofList (signText negative ++ parts.text)) ∧
      Magnitude.ofDecimal? parts.digits parts.exponent = some magnitude := by
  rcases Nat.eq_zero_or_pos magnitude.significand with none | positive
  · refine ⟨.zero, fun negative => ?_, ?_⟩
    · simp only [Layout.text, none, if_true]
      exact ofList_signText negative _
    · rw [Magnitude.eq_zero_of_significand none]
      rfl
  · obtain ⟨parts, text, value⟩ := decimal_realText layout (Magnitude.shortest_pos positive)
    refine ⟨parts, fun negative => ?_, ?_⟩
    · simp only [Layout.text, positive.ne', if_false, text]
      exact ofList_signText negative _
    · rw [Magnitude.ofDecimal?_congr value, Magnitude.ofDecimal?_shortest]

/-! ## Characters of numbers -/

theorem isWordChar_of_isDigit {c : Char} (digit : c.isDigit = true) : isWordChar c = true := by
  simp [isWordChar, Char.isAlphanum, digit]

theorem all_isWordChar_digits {cs : List Char} (digits : AllDigits cs) :
    cs.all isWordChar = true :=
  List.all_eq_true.mpr fun c mem => isWordChar_of_isDigit (digits c mem)

theorem all_isWordChar_signText (negative : Bool) : (signText negative).all isWordChar = true := by
  cases negative <;> decide

theorem RealText.all_isWordChar (parts : RealText) : parts.text.all isWordChar = true := by
  have point : (if parts.fraction.isEmpty then [] else '.' :: parts.fraction).all isWordChar =
      true := by
    split
    · rfl
    · exact Bool.and_eq_true_iff.mpr ⟨rfl, all_isWordChar_digits parts.fractionDigits⟩
  have power : ((parts.power.map Power.text).getD []).all isWordChar = true := by
    cases parts.power with
    | none => rfl
    | some power =>
      have digits := all_isWordChar_digits power.allDigits
      obtain ⟨negative, ds, allDigits, nonempty⟩ := power
      cases negative <;> exact digits
  rw [RealText.text, RealText.tail, List.all_append, List.all_append, point, power,
    all_isWordChar_digits parts.wholeDigits]
  rfl

/-! ## Tokens of numbers -/

theorem toList_toString (n : Int) :
    (toString n).toList = signText (n < 0) ++ Nat.toDigits 10 n.natAbs := by
  cases n with
  | ofNat n =>
    change n.repr.toList = _
    simp [signText]
  | negSucc n =>
    change ("-" ++ (n + 1).repr).toList = _
    simp [signText, Int.negSucc_lt_zero]

theorem word_eq_number {letters : List Char} {c : Char} (mem : c ∈ letters)
    (digit : c.isDigit = true) : word letters = number letters := by
  have other (w : String) (none : w.toList.all (!·.isDigit) = true) :
      String.ofList letters ≠ w := by
    rintro rfl
    rw [String.toList_ofList] at none
    have := List.all_eq_true.mp none c mem
    simp [digit] at this
  rw [word]
  split
  next same => exact absurd same (other _ (by decide))
  next same => exact absurd same (other _ (by decide))
  next same => exact absurd same (other _ (by decide))
  next same => exact absurd same (other _ (by decide))
  next same => exact absurd same (other _ (by decide))
  next same => exact absurd same (other _ (by decide))
  next => rfl

/-- The text of an integer is read as the integer, unless it has too many digits. -/
theorem word_integer (n : Int) :
    word (toString n).toList =
      if digitLimit < (toString n.natAbs).length then .oversized else .atom (.int n) := by
  obtain ⟨first, rest, digits⟩ := List.exists_cons_of_ne_nil (Nat.toDigits_ne_nil (n := n.natAbs) (b := 10))
  have digit : first.isDigit = true :=
    allDigits_toDigits n.natAbs first (by rw [digits]; exact List.mem_cons_self)
  rw [toList_toString, word_eq_number (List.mem_append_right _ (digits ▸ List.mem_cons_self)) digit,
    number_toDigits]
  have length : (toString n.natAbs).length = (Nat.toDigits 10 n.natAbs).length := by
    rw [Nat.toString_eq_repr, Nat.repr_eq_ofList_toDigits, String.length_ofList]
  have value : (if decide (n < 0) = true then -(n.natAbs : Int) else n.natAbs) = n := by
    simp only [decide_eq_true_eq]
    split <;> omega
  rw [length, value]

theorem word_real (x : Binary64) : word (jsonNumber.text x).toList = .atom (.real x) := by
  cases x with
  | notANumber => rfl
  | infinite negative => cases negative <;> rfl
  | finite negative magnitude =>
    obtain ⟨parts, text, reads⟩ := exists_realText jsonNumber magnitude
    obtain ⟨first, rest, whole⟩ := List.exists_cons_of_ne_nil parts.nonempty
    have digit : first.isDigit = true :=
      parts.wholeDigits first (by rw [whole]; exact List.mem_cons_self)
    have mem : first ∈ signText negative ++ parts.text :=
      List.mem_append_right _ (List.mem_append_left _ (whole ▸ List.mem_cons_self))
    rw [text, String.toList_ofList, word_eq_number mem digit, number_realText,
      Binary64.ofDecimal, reads]
    rfl

theorem all_isWordChar_integer (n : Int) : (toString n).toList.all isWordChar = true := by
  rw [toList_toString, List.all_append, all_isWordChar_signText,
    all_isWordChar_digits (allDigits_toDigits _)]
  rfl

theorem all_isWordChar_real (x : Binary64) : (jsonNumber.text x).toList.all isWordChar = true := by
  cases x with
  | notANumber => decide
  | infinite negative => cases negative <;> decide
  | finite negative magnitude =>
    obtain ⟨parts, text, -⟩ := exists_realText jsonNumber magnitude
    rw [text, String.toList_ofList, List.all_append, all_isWordChar_signText,
      parts.all_isWordChar]
    rfl

end TableSearch.Json
