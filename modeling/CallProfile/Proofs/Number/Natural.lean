import CallProfile.Number.Natural
import Mathlib.Data.List.Induction
import Mathlib.Data.Nat.Digits.Defs

/-!
# Decimal numbers

Which characters are read as a number, and which number: one or more digits, after a plus sign or
not, whose value in base ten is below the limit. The digits in which a number is written are among
them (`is_decimal_to_string`).
-/

namespace CallProfile.Number

/-- The characters are the decimal digits of the number, which is below the limit, after a plus
sign or not. -/
def IsDecimal (limit : Nat) (chars : List Char) (n : Nat) : Prop :=
  ∃ digits, (chars = digits ∨ chars = '+' :: digits) ∧ digits ≠ [] ∧
    (∀ c ∈ digits, isDigit c = true) ∧
    n = Nat.ofDigits 10 (digits.reverse.map digitValue) ∧ n < limit

/-- The value of digits is their value in base ten. -/
theorem digits_value_eq (digits : List Char) :
    digitsValue digits = Nat.ofDigits 10 (digits.reverse.map digitValue) := by
  unfold digitsValue
  induction digits using List.reverseRecOn with
  | nil => rfl
  | append_singleton digits c ih =>
      rw [List.foldl_append, ih, List.reverse_append, List.map_append]
      simp only [List.foldl_cons, List.foldl_nil, List.reverse_singleton, List.map_cons,
        List.map_nil, List.singleton_append, Nat.ofDigits_cons]
      omega

/-- Digits are read as their value. -/
theorem read_digits_eq_some_iff {chars : List Char} {n : Nat} :
    readDigits? chars = some n ↔
      chars ≠ [] ∧ (∀ c ∈ chars, isDigit c = true) ∧ digitsValue chars = n := by
  simp only [readDigits?, Option.ite_none_right_eq_some, Bool.and_eq_true, Bool.not_eq_true',
    List.isEmpty_eq_false_iff, List.all_eq_true, Option.some.injEq, and_assoc]

/-- The characters have at most a plus sign before what remains without it. -/
theorem without_plus_cases (chars : List Char) :
    chars = withoutPlus chars ∨ chars = '+' :: withoutPlus chars := by
  unfold withoutPlus
  split
  · exact Or.inr rfl
  · exact Or.inl rfl

/-- Digits do not begin with a plus sign. -/
theorem without_plus_digits {digits : List Char} (h : ∀ c ∈ digits, isDigit c = true) :
    withoutPlus digits = digits := by
  unfold withoutPlus
  split
  · exact absurd (h '+' List.mem_cons_self) (by decide)
  · rfl

/-- A number is read exactly from its decimal forms below the limit. -/
theorem read_natural_eq_some_iff {limit : Nat} {chars : List Char} {n : Nat} :
    readNatural? limit chars = some n ↔ IsDecimal limit chars n := by
  simp only [readNatural?, Option.filter_eq_some_iff, read_digits_eq_some_iff, decide_eq_true_eq,
    IsDecimal, ← digits_value_eq]
  constructor
  · rintro ⟨⟨hne, hall, hvalue⟩, hlt⟩
    exact ⟨withoutPlus chars, without_plus_cases chars, hne, hall, hvalue.symm, hlt⟩
  · rintro ⟨digits, rfl | rfl, hne, hall, hvalue, hlt⟩
    · rw [without_plus_digits hall]
      exact ⟨⟨hne, hall, hvalue.symm⟩, hlt⟩
    · exact ⟨⟨hne, hall, hvalue.symm⟩, hlt⟩

/-! ## Writing numbers -/

/-- The digits of a number, read as a number, are the number. -/
theorem read_digits_to_digits (n : Nat) : readDigits? (Nat.toDigits 10 n) = some n := by
  refine read_digits_eq_some_iff.mpr ⟨Nat.toDigits_ne_nil, fun c hc => ?_, ?_⟩
  · exact Nat.isDigit_of_mem_toDigits (by decide) (by decide) hc
  · have hvalue : Nat.ofDigitChars 10 (Nat.toDigits 10 n) 0 = n := Nat.ofDigitChars_ten_toDigits
    rw [Nat.ofDigitChars_eq_foldl] at hvalue
    simpa only [digitsValue, digitValue, Nat.mul_comm] using hvalue

/-- A number is written in a decimal form of it. -/
theorem is_decimal_to_string {limit n : Nat} (h : n < limit) :
    IsDecimal limit (toString n).toList n := by
  rw [Nat.toString_eq_repr, Nat.toList_repr]
  obtain ⟨hne, hall, hvalue⟩ := read_digits_eq_some_iff.mp (read_digits_to_digits n)
  exact ⟨_, Or.inl rfl, hne, hall, (digits_value_eq _) ▸ hvalue.symm, h⟩

end CallProfile.Number
