import CallProfile.Json.Basic
import CallProfile.Proofs.Json.Printer
import CallProfile.Proofs.Number.Binary64
import CallProfile.Proofs.Number.Natural

/-!
# Numbers as literals

Numbers are written as the grammar has them, whole ones by their digits (`literal_natural`) and
finite binary64 ones in positional or exponential notation (`literal_fraction`). A whole number is
read back from its literal exactly, however large it is (`natural_of_nat`).
-/

namespace CallProfile

open Number (Decimal)

namespace Json

/-! ## Digits -/

/-- The digits of a number are decimal digits. -/
theorem digits_to_digits (n : Nat) : Digits (Nat.toDigits 10 n) :=
  ⟨Nat.toDigits_ne_nil, fun _ hc => Nat.isDigit_of_mem_toDigits (by decide) (by decide) hc⟩

/-- The digits of a number that is not zero do not begin with zero. -/
theorem head_to_digits {n : Nat} (h : n ≠ 0) : (Nat.toDigits 10 n).head? ≠ some '0' := by
  induction n using Nat.strongRecOn with
  | ind n ih =>
      rcases Nat.lt_or_ge n 10 with hlt | hge
      · rw [Nat.toDigits_of_lt_base hlt]
        simpa using h
      · rw [Nat.toDigits_of_base_le (by decide) hge, List.head?_append_of_ne_nil _
          Nat.toDigits_ne_nil]
        exact ih (n / 10) (by omega) (by omega)

/-- The digits of a number are the whole part of a literal. -/
theorem whole_to_digits (n : Nat) : Whole (Nat.toDigits 10 n) := by
  by_cases hzero : n = 0
  · subst hzero
    exact Or.inl (Nat.toDigits_zero 10)
  · exact Or.inr ⟨digits_to_digits n, head_to_digits hzero⟩

/-! ## Whole numbers -/

/-- A literal without a sign. -/
def Magnitude (chars : List Char) : Prop :=
  ∃ whole fraction power, chars = whole ++ fraction ++ power ∧ Whole whole ∧ Fraction fraction ∧
    Power power

/-- A literal without a sign is a literal. -/
theorem literal_of_magnitude {chars : List Char} (h : Magnitude chars) : Literal chars := by
  obtain ⟨whole, fraction, power, rfl, hwhole, hfraction, hpower⟩ := h
  exact .intro [] whole fraction power (by simp) hwhole hfraction hpower

/-- A literal without a sign is a literal after a minus sign. -/
theorem literal_minus {chars : List Char} (h : Magnitude chars) : Literal ('-' :: chars) := by
  obtain ⟨whole, fraction, power, rfl, hwhole, hfraction, hpower⟩ := h
  exact .intro ['-'] whole fraction power (by simp) hwhole hfraction hpower

/-- A natural number is written as a literal. -/
theorem literal_natural (n : Nat) : Literal (toString n).toList := by
  refine literal_of_magnitude ⟨Nat.toDigits 10 n, [], [], ?_, whole_to_digits n, Or.inl rfl,
    Or.inl rfl⟩
  simp [Nat.toList_repr]

/-- The natural number that a value writes in decimal digits. -/
def natural? : Json → Option Nat
  | number literal => Number.readDigits? literal.toList
  | _ => none

/-- A natural number is read back from its literal. -/
theorem natural_of_nat (n : Nat) : natural? (ofNat n) = some n := by
  rw [ofNat, natural?, Nat.toString_eq_repr, Nat.toList_repr, Number.read_digits_to_digits]

/-! ## Fractions -/

/-- An exponent is a power of ten. -/
theorem power_of_int (k : Int) : Power ('e' :: (toString k).toList) := by
  rw [Int.toString_eq_repr, Int.repr_eq_if]
  split
  · rw [Nat.toList_repr]
    exact Or.inr ⟨'e', [], _, rfl, by decide, by decide, digits_to_digits k.toNat⟩
  · refine Or.inr ⟨'e', ['-'], _, ?_, by decide, by decide, digits_to_digits (-k).toNat⟩
    simp [Nat.toList_repr]

/-- Digits after digits are digits. -/
theorem digits_append {digits more : List Char} (hdigits : Digits digits)
    (hmore : ∀ c ∈ more, c.isDigit = true) : Digits (digits ++ more) := by
  refine ⟨List.append_ne_nil_of_left_ne_nil hdigits.1 more, fun c hc => ?_⟩
  rcases List.mem_append.mp hc with hc | hc
  · exact hdigits.2 c hc
  · exact hmore c hc

/-- Zeros are digits. -/
theorem is_digit_of_mem_zeros {n : Nat} {c : Char} (h : c ∈ List.replicate n '0') :
    c.isDigit = true := by
  rw [List.eq_of_mem_replicate h]
  decide

/-- What stands behind a whole number: a point and a zero, or nothing. -/
theorem fraction_pointed (pointed : Bool) : Fraction (if pointed then ['.', '0'] else []) := by
  cases pointed with
  | false => exact Or.inl rfl
  | true => exact Or.inr ⟨['0'], rfl, by simp, by simp⟩

/-- Some of the digits, if there are any, are digits. -/
theorem digits_of_subset {digits part : List Char} (hdigits : Digits digits) (hne : part ≠ [])
    (hsub : part ⊆ digits) : Digits part :=
  ⟨hne, fun c hc => hdigits.2 c (hsub hc)⟩

/-- Positional notation is a literal without a power of ten. -/
theorem magnitude_positional {digits : List Char} (hdigits : Digits digits)
    (hhead : digits.head? ≠ some '0') (pointed : Bool) (point : Int) :
    Magnitude (Decimal.positional pointed digits point) := by
  obtain ⟨first, rest, rfl⟩ := List.exists_cons_of_ne_nil hdigits.1
  unfold Decimal.positional
  split
  · -- The point stands before all digits.
    refine ⟨['0'], _, [], by simp, Or.inl rfl,
      Or.inr ⟨List.replicate point.natAbs '0' ++ (first :: rest), rfl, by simp, ?_⟩, Or.inl rfl⟩
    intro c hc
    exact (List.mem_append.mp hc).elim is_digit_of_mem_zeros (hdigits.2 c)
  · rename_i hpoint
    obtain ⟨whole, hwhole⟩ : ∃ whole, point.toNat = whole + 1 := ⟨point.toNat - 1, by omega⟩
    simp only [hwhole]
    split
    · -- The point stands behind all digits.
      exact ⟨_, _, [], (List.append_nil _).symm,
        Or.inr ⟨digits_append hdigits fun c hc => is_digit_of_mem_zeros hc, hhead⟩,
        fraction_pointed pointed, Or.inl rfl⟩
    · -- The point stands between two digits.
      rename_i hlong
      have hdrop : (first :: rest).drop (whole + 1) ≠ [] := by
        simpa [List.drop_eq_nil_iff] using hlong
      refine ⟨(first :: rest).take (whole + 1), _, [], by simp,
        Or.inr ⟨digits_of_subset hdigits (by simp) (List.take_subset _ _), by simpa using hhead⟩,
        Or.inr ⟨_, rfl, digits_of_subset hdigits hdrop (List.drop_subset _ _)⟩, Or.inl rfl⟩

/-- Exponential notation is a literal with a power of ten. -/
theorem magnitude_exponential {digits : List Char} (hdigits : Digits digits)
    (hhead : digits.head? ≠ some '0') (point : Int) :
    Magnitude (Decimal.exponential digits point) := by
  unfold Decimal.exponential
  cases digits with
  | nil => exact absurd rfl hdigits.1
  | cons first rest =>
      have hfirst : Whole [first] :=
        Or.inr ⟨⟨by simp, fun c hc => hdigits.2 c (by simp_all)⟩, hhead⟩
      have hpower := power_of_int (point - 1)
      cases rest with
      | nil => exact ⟨[first], [], _, by simp, hfirst, Or.inl rfl, hpower⟩
      | cons second rest =>
          have hrest : Digits (second :: rest) :=
            ⟨by simp, fun c hc => hdigits.2 c (List.mem_cons_of_mem first hc)⟩
          exact ⟨[first], '.' :: second :: rest, _, by simp, hfirst, Or.inr ⟨_, rfl, hrest⟩, hpower⟩

/-- A decimal is laid out as a literal in every style. -/
theorem magnitude_layout (style : Decimal.Style) (x : Decimal) :
    Magnitude (Decimal.layout style x) := by
  unfold Decimal.layout
  split
  · refine ⟨['0'], _, [], ?_, Or.inl rfl, fraction_pointed style.pointed, Or.inl rfl⟩
    cases style.pointed with
    | false => rfl
    | true => rfl
  · rename_i hzero
    have hdigits := digits_to_digits x.digits
    have hhead := head_to_digits hzero
    simp only
    split
    · exact magnitude_positional hdigits hhead _ _
    · exact magnitude_exponential hdigits hhead _

/-- A finite number is written as a literal in every style. -/
theorem literal_fraction (style : Decimal.Style) {x : Float} (h : x.isFinite = true) :
    Literal (style.text x).toList := by
  obtain ⟨negative, mantissa, exponent, hdecode⟩ := Number.Binary64.decode_of_is_finite h
  have hlayout := magnitude_layout style (Decimal.shortest style.tie mantissa exponent)
  cases negative with
  | false => simpa [Decimal.Style.text, hdecode] using literal_of_magnitude hlayout
  | true => simpa [Decimal.Style.text, hdecode] using literal_minus hlayout

/-- A binary64 number has a literal, or is null. -/
theorem numbers_spelled_float (x : Float) : NumbersSpelled (ofFloat x) := by
  unfold ofFloat
  split
  · rename_i hfinite
    exact .number _ (literal_fraction fractionStyle hfinite)
  · exact .null

end Json

end CallProfile
