import CallProfile.Proofs.Json.Number
import CallProfile.Proofs.Number.Reading
import CallProfile.Proofs.Number.Shortest
import CallProfile.Toml.Document
import CallProfile.Toml.Printer

/-!
# Numbers in TOML are read back

A fraction from zero up to one is read back from its text as the very same binary64 number, and the
sign of a zero is kept (`word_value_fraction`). A natural number of 63 bits is read back from its
digits (`word_value_natural`).
-/

namespace CallProfile

namespace Number

/-! ## Values of digits -/

/-- Digits weigh more with digits behind them. -/
theorem digits_value_append (front back : List Char) :
    digitsValue (front ++ back) = digitsValue front * 10 ^ back.length + digitsValue back := by
  induction back using List.reverseRecOn with
  | nil => simp [digitsValue]
  | append_singleton back c ih =>
      have hsnoc (digits : List Char) :
          digitsValue (digits ++ [c]) = digitsValue digits * 10 + digitValue c := by
        simp [digitsValue]
      rw [← List.append_assoc, hsnoc, hsnoc, ih, List.length_append, List.length_singleton,
        pow_succ]
      ring

/-- Zeros have no value. -/
theorem digits_value_zeros (n : Nat) : digitsValue (List.replicate n '0') = 0 := by
  induction n with
  | zero => rfl
  | succ n ih =>
      rw [List.replicate_succ', digits_value_append, ih]
      rfl

/-- The digits of a number have its value. -/
theorem digits_value_to_digits (n : Nat) : digitsValue (Nat.toDigits 10 n) = n :=
  (read_digits_eq_some_iff.mp (read_digits_to_digits n)).2.2

namespace Decimal

open Json (Digits Whole)

/-- A zero is a digit. -/
theorem digits_zero : Digits ['0'] :=
  ⟨by simp, by simp⟩

/-- The characters on both sides of the point of a decimal. -/
structure Pointed (x : Decimal) (whole fraction : List Char) : Prop where
  proper : Whole whole
  digits : Digits fraction
  value : (digitsValue (whole ++ fraction) : Rat) / 10 ^ fraction.length = x.value

/-- The digits on both sides of the point are those of the decimal, if it has any. -/
theorem Pointed.digits_eq_zero_iff {x : Decimal} {whole fraction : List Char}
    (h : Pointed x whole fraction) : digitsValue (whole ++ fraction) = 0 ↔ x.digits = 0 := by
  have hpower : (10 : Rat) ^ fraction.length ≠ 0 := by positivity
  have hscale : (10 : Rat) ^ x.exponent ≠ 0 := by positivity
  rw [← Nat.cast_eq_zero (R := Rat), ← Nat.cast_eq_zero (R := Rat) (n := x.digits)]
  constructor
  · intro hzero
    have hvalue := h.value
    rw [hzero, zero_div, Decimal.value] at hvalue
    exact (mul_eq_zero.mp hvalue.symm).resolve_right hscale
  · intro hzero
    have hvalue := h.value
    rw [Decimal.value, hzero, zero_mul] at hvalue
    exact (div_eq_zero_iff.mp hvalue).resolve_right hpower

section Places

variable {x : Decimal} {digits : List Char}

/-- The point stands before all digits, with zeros between them. -/
theorem pointed_before (hdigits : Digits digits) (hvalue : digitsValue digits = x.digits)
    {zeros : Nat} (hexponent : x.exponent = -(zeros + digits.length : Nat)) :
    Pointed x ['0'] (List.replicate zeros '0' ++ digits) := by
  refine ⟨Or.inl rfl, ⟨?_, ?_⟩, ?_⟩
  · exact List.append_ne_nil_of_right_ne_nil _ hdigits.1
  · intro c hc
    exact (List.mem_append.mp hc).elim Json.is_digit_of_mem_zeros (hdigits.2 c)
  · have hwhole : digitsValue ['0'] = 0 := rfl
    rw [digits_value_append, hwhole, digits_value_append, digits_value_zeros, hvalue,
      Nat.zero_mul, Nat.zero_mul, Nat.zero_add, Nat.zero_add, List.length_append,
      List.length_replicate, value, hexponent, zpow_neg, zpow_natCast, div_eq_mul_inv]

/-- The point stands behind all digits, with zeros between them. -/
theorem pointed_behind (hdigits : Digits digits) (hhead : digits.head? ≠ some '0')
    (hvalue : digitsValue digits = x.digits) {zeros : Nat} (hexponent : x.exponent = zeros) :
    Pointed x (digits ++ List.replicate zeros '0') ['0'] := by
  refine ⟨Or.inr ⟨?_, ?_⟩, digits_zero, ?_⟩
  · exact Json.digits_append hdigits fun c hc => Json.is_digit_of_mem_zeros hc
  · rwa [List.head?_append_of_ne_nil _ hdigits.1]
  · have hfraction : digitsValue ['0'] = 0 := rfl
    rw [digits_value_append, digits_value_append, hfraction, digits_value_zeros, hvalue,
      List.length_replicate, List.length_singleton, value, hexponent, zpow_natCast]
    push_cast
    ring

/-- The point stands between two digits. -/
theorem pointed_between (hdigits : Digits digits) (hhead : digits.head? ≠ some '0')
    (hvalue : digitsValue digits = x.digits) {count : Nat} (hcount : 0 < count)
    (hlong : count < digits.length) (hexponent : x.exponent = -(digits.length - count : Nat)) :
    Pointed x (digits.take count) (digits.drop count) := by
  have hlength : (digits.drop count).length = digits.length - count := List.length_drop
  refine ⟨Or.inr ⟨Json.digits_of_subset hdigits ?_ (List.take_subset _ _), ?_⟩,
    Json.digits_of_subset hdigits ?_ (List.drop_subset _ _), ?_⟩
  · simp [hdigits.1, hcount.ne']
  · rwa [List.head?_take, if_neg hcount.ne']
  · intro hnil
    rw [hnil, List.length_nil] at hlength
    omega
  · rw [List.take_append_drop, hvalue, hlength, value, hexponent, zpow_neg, zpow_natCast,
      div_eq_mul_inv]

end Places

/-- Positional notation with a point is the decimal. -/
theorem positional_pointed {x : Decimal} (h : x.digits ≠ 0) :
    ∃ whole fraction, Pointed x whole fraction ∧
      positional true (Nat.toDigits 10 x.digits)
        ((Nat.toDigits 10 x.digits).length + x.exponent) = whole ++ '.' :: fraction := by
  have hdigits := Json.digits_to_digits x.digits
  have hhead := Json.head_to_digits h
  have hvalue := digits_value_to_digits x.digits
  generalize Nat.toDigits 10 x.digits = digits at hdigits hhead hvalue
  unfold positional
  split
  · next hbefore =>
      -- there are as many zeros as places between the point and the digits
      have hzeros : x.exponent =
          -(((digits.length : Int) + x.exponent).natAbs + digits.length : Nat) := by
        omega
      exact ⟨_, _, pointed_before hdigits hvalue hzeros, rfl⟩
  · next hbefore =>
      obtain ⟨count, hcount⟩ : ∃ count, ((digits.length : Int) + x.exponent).toNat = count + 1 :=
        ⟨((digits.length : Int) + x.exponent).toNat - 1, by omega⟩
      simp only [hcount]
      split
      · next hshort =>
          have hzeros : x.exponent = (count + 1 - digits.length : Nat) := by omega
          refine ⟨_, _, pointed_behind hdigits hhead hvalue hzeros, ?_⟩
          simp
      · next hlong =>
          have hplaces : x.exponent = -(digits.length - (count + 1) : Nat) := by omega
          exact ⟨_, _, pointed_between hdigits hhead hvalue (Nat.succ_pos count) (by omega) hplaces,
            rfl⟩

/-- A decimal is written with a point in TOML. -/
theorem layout_pointed (x : Decimal) :
    ∃ whole fraction, Pointed x whole fraction ∧
      layout Toml.fractionStyle x = whole ++ '.' :: fraction := by
  unfold layout
  split
  · next hzero =>
      refine ⟨['0'], ['0'], ⟨Or.inl rfl, digits_zero, ?_⟩, rfl⟩
      have hnothing : digitsValue (['0'] ++ ['0']) = 0 := rfl
      rw [hnothing, value, hzero]
      norm_num
  · next hdigits => exact positional_pointed hdigits

end Decimal

end Number

namespace Toml

open Json (Digits Whole)
open Number (Decimal Numeral takeSign digitsValue)
open Number.Binary64 (decode)

/-! ## Digits -/

section Digits

variable {digits whole fraction : List Char}

/-- Digits with an underscore, a point or a sign among them are none. -/
theorem not_mem_digits (h : Digits digits) {c : Char} (hc : c.isDigit = false) : c ∉ digits := by
  intro hmem
  rw [h.2 c hmem] at hc
  cases hc

/-- Digits are a group of their own. -/
theorem digits_of_digits (h : Digits digits) : digitsOf? Number.isDigit digits = some digits := by
  have hsingle : digits.splitOnP (· == '_') = [digits] := by
    refine List.splitOnP_eq_singleton fun c hc => beq_false_of_ne ?_
    rintro rfl
    exact not_mem_digits h (by decide) hc
  have hall : digits.all Number.isDigit = true := List.all_eq_true.mpr h.2
  have hne : digits.isEmpty = false := List.isEmpty_eq_false_iff.mpr h.1
  simp [digitsOf?, hsingle, hall, hne]

/-- A whole part is digits without a zero in front that means nothing. -/
theorem decimal_digits_of_whole (h : Whole whole) : decimalDigits? whole = some whole := by
  have hdigits : Digits whole := h.elim (fun hzero => hzero ▸ Decimal.digits_zero) And.left
  have hlead : hasLeadingZero whole = false := by
    unfold hasLeadingZero
    split
    · rcases h with h | h
      · cases h
      · exact absurd rfl h.2
    · rfl
  rw [decimalDigits?, digits_of_digits hdigits, Option.filter_some, hlead]
  rfl

/-- What does not begin with a sign has none. -/
theorem take_sign_digits (h : Digits digits) (rest : List Char) :
    takeSign (digits ++ rest) = (false, digits ++ rest) := by
  obtain ⟨first, more, rfl⟩ := List.exists_cons_of_ne_nil h.1
  unfold takeSign
  split
  · next heq =>
      obtain rfl := (List.cons.inj heq).1
      exact absurd List.mem_cons_self (not_mem_digits h (by decide))
  · next heq =>
      obtain rfl := (List.cons.inj heq).1
      exact absurd List.mem_cons_self (not_mem_digits h (by decide))
  · rfl

/-- A group of digits reaches up to the point. -/
theorem group_append (h : Digits digits) (rest : List Char)
    (hrest : ∀ c ∈ rest.head?, isGroupChar c = false) :
    (digits ++ rest).takeWhile isGroupChar = digits ∧
      (digits ++ rest).dropWhile isGroupChar = rest := by
  have hall : ∀ c ∈ digits, isGroupChar c = true := fun c hc => by
    have hdigit : Number.isDigit c = true := h.2 c hc
    rw [isGroupChar, hdigit, Bool.true_or]
  rw [List.takeWhile_append_of_pos hall, List.dropWhile_append_of_pos hall]
  cases rest with
  | nil => simp
  | cons c rest =>
      have hc : isGroupChar c = false := hrest c rfl
      simp [hc]

end Digits

/-! ## Moments -/

section Moments

variable {chars : List Char}

/-- A number of a fixed count of digits leaves characters at the end. -/
theorem subset_of_take_number {count low high : Nat} {digits rest : List Char}
    (h : takeNumber? count low high chars = some (digits, rest)) : rest ⊆ chars := by
  unfold takeNumber? at h
  simp only [Option.ite_none_right_eq_some] at h
  cases h.2
  exact List.drop_subset _ _

/-- An expected character is there. -/
theorem mem_of_after_char {expected : Char} {rest : List Char}
    (h : afterChar? expected chars = some rest) : expected ∈ chars := by
  unfold afterChar? at h
  split at h
  · split at h
    · next heq => exact heq ▸ List.mem_cons_self
    · cases h
  · cases h

/-- A date has a minus sign in it. -/
theorem take_date_none (h : '-' ∉ chars) : takeDate? chars = none := by
  unfold takeDate?
  cases hyear : takeNumber? 4 0 9999 chars with
  | none => rfl
  | some taken =>
      have hrest := subset_of_take_number hyear
      cases hmonth : afterChar? '-' taken.2 with
      | none =>
          simp only [Option.bind_eq_bind, Option.bind_some, hmonth, Option.bind_none]
      | some rest => exact absurd (hrest (mem_of_after_char hmonth)) h

/-- A time has a colon in it. -/
theorem take_time_none (h : ':' ∉ chars) : takeTime? chars = none := by
  unfold takeTime?
  cases hhour : takeNumber? 2 0 23 chars with
  | none => rfl
  | some taken =>
      have hrest := subset_of_take_number hhour
      cases hminute : afterChar? ':' taken.2 with
      | none =>
          simp only [Option.bind_eq_bind, Option.bind_some, hminute, Option.bind_none]
      | some rest => exact absurd (hrest (mem_of_after_char hminute)) h

/-- A number is no moment. -/
theorem read_moment_none (hdate : takeDate? chars = none) (h : ':' ∉ chars) :
    readMoment? chars = none := by
  unfold readMoment?
  rw [hdate, take_time_none h]

end Moments

/-! ## Fractions -/

/-- The characters of numbers without powers of ten. -/
def IsPlain (c : Char) : Prop :=
  c.isDigit = true ∨ c = '.' ∨ c = '-'

/-- A number in front of which a minus sign may stand. -/
def signedChars (negative : Bool) (chars : List Char) : List Char :=
  if negative then '-' :: chars else chars

section Fractions

variable {negative : Bool} {whole fraction : List Char} {x : Float}

/-- A whole part is digits. -/
theorem digits_of_whole (h : Whole whole) : Digits whole :=
  h.elim (fun hzero => hzero ▸ Decimal.digits_zero) And.left

/-- A fraction has digits, a point and maybe a sign. -/
theorem is_plain_pointed (negative : Bool) (hwhole : Digits whole)
    (hfraction : Digits fraction) :
    ∀ c ∈ signedChars negative (whole ++ '.' :: fraction), IsPlain c := by
  intro c hc
  have hmem : c = '-' ∨ c ∈ whole ++ '.' :: fraction := by
    cases negative with
    | false => exact Or.inr hc
    | true => exact List.mem_cons.mp hc
  rcases hmem with rfl | hmem
  · exact Or.inr (Or.inr rfl)
  · rcases List.mem_append.mp hmem with hmem | hmem
    · exact Or.inl (hwhole.2 c hmem)
    · rcases List.mem_cons.mp hmem with rfl | hmem
      · exact Or.inr (Or.inl rfl)
      · exact Or.inl (hfraction.2 c hmem)

/-- The sign of a number is taken off it. -/
theorem take_sign_signed (negative : Bool) (h : Digits whole) (rest : List Char) :
    takeSign (signedChars negative (whole ++ rest)) = (negative, whole ++ rest) := by
  cases negative with
  | false => exact take_sign_digits h rest
  | true => rfl

/-- A fraction is read as the numeral of its digits. -/
theorem read_real_pointed (hwhole : Whole whole) (hfraction : Digits fraction)
    (hvalue :
      (Numeral.mk negative (digitsValue (whole ++ fraction)) (-fraction.length)).toFloat = x)
    (hfinite : x.isFinite = true) :
    readReal? (signedChars negative (whole ++ '.' :: fraction)) = some x := by
  have hdigits := digits_of_whole hwhole
  obtain ⟨htake, hdrop⟩ :=
    group_append hdigits ('.' :: fraction) (by simp [isGroupChar, Number.isDigit])
  obtain ⟨htake', hdrop'⟩ := group_append hfraction [] (by simp)
  rw [List.append_nil] at htake' hdrop'
  have hhead (word : List Char) (c : Char) (hc : c.isDigit = false) :
      whole ++ '.' :: fraction ≠ c :: word := by
    obtain ⟨first, more, rfl⟩ := List.exists_cons_of_ne_nil hdigits.1
    intro heq
    obtain rfl := (List.cons.inj heq).1
    exact not_mem_digits hdigits hc List.mem_cons_self
  have hne : fraction.isEmpty = false := List.isEmpty_eq_false_iff.mpr hfraction.1
  unfold readReal?
  rw [take_sign_signed negative hdigits]
  simp only [if_neg (hhead _ 'i' (by decide)), if_neg (hhead _ 'n' (by decide)), htake, hdrop,
    decimal_digits_of_whole hwhole, htake', hdrop', digits_of_digits hfraction, Option.map_some,
    hne, Bool.false_and, Option.bind_eq_bind, Option.bind_some, readExponent?, Int.zero_sub,
    hvalue, hfinite]
  rfl

/-- Groups of digits have no point in them. -/
theorem digits_of_pointed {isDigit : Char → Bool} {chars : List Char} (hmark : '_' ∉ chars)
    (hpoint : '.' ∈ chars) (hdigit : isDigit '.' = false) : digitsOf? isDigit chars = none := by
  have hsingle : chars.splitOnP (· == '_') = [chars] :=
    List.splitOnP_eq_singleton fun c hc => beq_false_of_ne fun heq => hmark (heq ▸ hc)
  have hall : chars.all isDigit = false := List.all_eq_false.mpr ⟨'.', hpoint, by simp [hdigit]⟩
  simp [digitsOf?, hsingle, hall]

/-- A fraction is no integer. -/
theorem read_integer_pointed (hwhole : Digits whole) (hfraction : Digits fraction) :
    readInteger? (signedChars negative (whole ++ '.' :: fraction)) = none := by
  have hplain := is_plain_pointed negative hwhole hfraction
  have hpoint : '.' ∈ whole ++ '.' :: fraction := by simp
  have hmark : '_' ∉ whole ++ '.' :: fraction := by
    simp [not_mem_digits hwhole (c := '_') (by decide),
      not_mem_digits hfraction (c := '_') (by decide)]
  have hbase (c : Char) (rest : List Char) (hc : ¬IsPlain c) :
      signedChars negative (whole ++ '.' :: fraction) ≠ '0' :: c :: rest := by
    intro heq
    exact hc (hplain c (heq ▸ List.mem_cons_of_mem _ List.mem_cons_self))
  have hdecimal : decimalDigits? (whole ++ '.' :: fraction) = none := by
    rw [decimalDigits?, digits_of_pointed hmark hpoint (by decide), Option.filter_none]
  unfold readInteger?
  simp only
  split
  · next heq => exact absurd heq (hbase _ _ (by simp [IsPlain]))
  · next heq => exact absurd heq (hbase _ _ (by simp [IsPlain]))
  · next heq => exact absurd heq (hbase _ _ (by simp [IsPlain]))
  · rw [take_sign_signed negative hwhole]
    simp only [hdecimal, Option.map_none, Option.filter_none]

/-- A fraction is no moment. -/
theorem read_moment_pointed (hwhole : Digits whole) (hfraction : Digits fraction) :
    readMoment? (signedChars negative (whole ++ '.' :: fraction)) = none := by
  have hplain := is_plain_pointed negative hwhole hfraction
  refine read_moment_none ?_ fun hmem => absurd (hplain _ hmem) (by simp [IsPlain])
  cases negative with
  | true =>
      have hyear : takeNumber? 4 0 9999 ('-' :: (whole ++ '.' :: fraction)) = none := by
        simp [takeNumber?, Number.isDigit]
      show takeDate? ('-' :: (whole ++ '.' :: fraction)) = none
      simp only [takeDate?, hyear, Option.bind_eq_bind, Option.bind_none]
  | false =>
      have hmark : '-' ∉ whole ++ '.' :: fraction := by
        simp [not_mem_digits hwhole (c := '-') (by decide),
          not_mem_digits hfraction (c := '-') (by decide)]
      exact take_date_none hmark

/-- The text of a number from zero up to one, and the numeral that it is. -/
theorem fraction_pointed_unit (hlow : 0 ≤ x) (hhigh : x < 1) :
    ∃ negative whole fraction, Whole whole ∧ Digits fraction ∧
      (Toml.fraction x).toList = signedChars negative (whole ++ '.' :: fraction) ∧
      (Numeral.mk negative (digitsValue (whole ++ fraction)) (-fraction.length)).toFloat = x := by
  obtain ⟨negative, m, e, hdecode⟩ :=
    Number.Binary64.decode_of_is_finite (Number.Binary64.is_finite_of_unit hlow hhigh)
  obtain ⟨whole, fraction, hpointed, hlayout⟩ :=
    Decimal.layout_pointed (Decimal.shortest fractionStyle.tie m e)
  refine ⟨negative, whole, fraction, hpointed.proper, hpointed.digits, ?_, ?_⟩
  · rw [← hlayout, Toml.fraction, Decimal.Style.text, hdecode]
    exact String.toList_ofList
  · by_cases hm : m = 0
    · subst hm
      rw [hpointed.digits_eq_zero_iff.mpr rfl]
      exact Number.Binary64.eq_of_zero hdecode
    · have hpositive : negative = false := by
        cases negative with
        | false => rfl
        | true => exact absurd (Number.Binary64.mantissa_eq_zero hlow hdecode) hm
      subst hpositive
      have hpos := Nat.pos_of_ne_zero hm
      obtain ⟨hdigits, hwithin⟩ := Decimal.shortest_within fractionStyle.tie
        (Number.Binary64.decode_positive hdecode hpos).1
      rw [← hpointed.value] at hwithin
      exact Number.Binary64.to_float_within hdecode hpos
        (Nat.pos_of_ne_zero (mt hpointed.digits_eq_zero_iff.mp hdigits))
        (List.length_pos_iff.mpr hpointed.digits.1) hwithin

/-- The words of truth values have letters in them. -/
theorem ne_of_plain {chars : List Char} (h : ∀ c ∈ chars, IsPlain c) :
    chars ≠ ['t', 'r', 'u', 'e'] ∧ chars ≠ ['f', 'a', 'l', 's', 'e'] := by
  constructor
  · rintro rfl
    exact absurd (h 'e' (by simp)) (by simp [IsPlain])
  · rintro rfl
    exact absurd (h 'e' (by simp)) (by simp [IsPlain])

/-- A number from zero up to one is read back from its text. -/
theorem word_value_fraction (hlow : 0 ≤ x) (hhigh : x < 1) :
    wordValue? (Toml.fraction x).toList = some (.real x) := by
  obtain ⟨negative, whole, fraction, hwhole, hfraction, htext, hvalue⟩ :=
    fraction_pointed_unit hlow hhigh
  have hdigits := digits_of_whole hwhole
  have hplain := ne_of_plain (is_plain_pointed negative hdigits hfraction)
  have hfinite := Number.Binary64.is_finite_of_unit hlow hhigh
  rw [htext, wordValue?, if_neg hplain.1, if_neg hplain.2, read_moment_pointed hdigits hfraction,
    read_integer_pointed hdigits hfraction, read_real_pointed hwhole hfraction hvalue hfinite]

end Fractions

/-! ## Natural numbers -/

/-- A natural number of 63 bits is read back from its digits. -/
theorem word_value_natural {n : Nat} (h : n < 2 ^ 63) :
    wordValue? (toString n).toList = some (.integer n) := by
  have hdigits := Json.digits_to_digits n
  have hplain := ne_of_plain fun c hc => Or.inl (hdigits.2 c hc)
  have hmoment : readMoment? (Nat.toDigits 10 n) = none :=
    read_moment_none (take_date_none (not_mem_digits hdigits (by decide)))
      (not_mem_digits hdigits (by decide))
  have hbase (c : Char) (rest : List Char) (hc : c.isDigit = false) :
      Nat.toDigits 10 n ≠ '0' :: c :: rest := by
    intro heq
    exact not_mem_digits hdigits hc (heq ▸ List.mem_cons_of_mem _ List.mem_cons_self)
  have hsign := take_sign_digits hdigits []
  rw [List.append_nil] at hsign
  have hinteger : readInteger? (Nat.toDigits 10 n) = some (n : Int) := by
    unfold readInteger?
    simp only
    split
    · next heq => exact absurd heq (hbase _ _ (by decide))
    · next heq => exact absurd heq (hbase _ _ (by decide))
    · next heq => exact absurd heq (hbase _ _ (by decide))
    · rw [hsign]
      simp only [decimal_digits_of_whole (Json.whole_to_digits n), Option.map_some,
        Number.digits_value_to_digits]
      refine Option.filter_eq_some_iff.mpr ⟨rfl, ?_⟩
      have hlimit : (Number.powerOfTwo 63 : Int) = 2 ^ 63 := rfl
      rw [hlimit]
      simp only [Bool.and_eq_true, decide_eq_true_eq]
      omega
  rw [Nat.toString_eq_repr, Nat.toList_repr, wordValue?, if_neg hplain.1, if_neg hplain.2, hmoment,
    hinteger]

end Toml

end CallProfile
