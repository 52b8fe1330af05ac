import CallProfile.Proofs.Number.Normal

/-!
# Counts in binary64

A positive count is a normal number or out of range, and never zero (`of_nat_parts`). So a quotient
of counts is above zero as soon as its numerator is, and a sum of such quotients as soon as one of
them is. A mean is zero only if all its values are (`mean_at_most_zero`): the exponents leave room
for 2 ^ 64 values.
-/

namespace CallProfile.Number.Binary64

open Float.Model (Format UnpackedFloat totalExponent)
open Float.Model.UnpackedFloat

/-! ## Counts -/

/-- A stored number by its parts. -/
abbrev parts (x : Float) : UnpackedFloat :=
  x.toModel.unpack

/-- The parts of a sum. -/
theorem parts_add (x y : Float) :
    parts (x + y) =
      (Float.Model.pack (UnpackedFloat.add Format.binary64 (parts x) (parts y))).unpack :=
  rfl

/-- The parts of a product. -/
theorem parts_mul (x y : Float) :
    parts (x * y) =
      (Float.Model.pack (UnpackedFloat.mul Format.binary64 (parts x) (parts y))).unpack :=
  rfl

/-- The parts of a quotient. -/
theorem parts_div (x y : Float) :
    parts (x / y) =
      (Float.Model.pack (UnpackedFloat.div Format.binary64 (parts x) (parts y))).unpack :=
  rfl

/-- A product with one, which may be written with any number of bits. -/
theorem normal_mul_one {m k : Nat} {e low : Int} (hm : 0 < m) (hone : 0 < 1 <<< k)
    (hbits : 52 ≤ m.log2 + k) (hlow : -1074 ≤ low) (he : e + m.log2 - 52 = low) :
    Normal low (low + 1) (UnpackedFloat.mul Format.binary64 (.finite .positive m e hm)
      (.finite .positive (1 <<< k) (-k) hone)) := by
  have hproduct : m * 1 <<< k = m <<< k := by
    rw [Nat.shiftLeft_eq, Nat.shiftLeft_eq, Nat.one_mul]
  have hlog := log2_shift_left hm k
  show Normal low (low + 1)
    (roundWithAccuracy Format.binary64 .positive (m * 1 <<< k) (e + -k) .exact)
  rw [hproduct]
  exact normal_round_with_accuracy .exact (by omega) hlow (by omega)

/-- A normal number times one is rounded once more. -/
theorem Normal.mul_one {low high : Int} {u : UnpackedFloat} (hu : Normal low high u)
    (hlow : -1074 ≤ low) : Normal low (high + 1) (UnpackedFloat.mul Format.binary64 u
      (.finite .positive (1 <<< 52) (-(52 : Nat)) (by decide))) := by
  cases hu with
  | finite hm hle hge =>
      exact (normal_mul_one _ _ (by omega) (by omega) rfl).mono (by omega) (by omega)

/-- A word that is not zero is converted by rounding its number. -/
theorem parts_of_word {n : Nat} (hpos : 0 < n) (hsize : n < UInt64.size) :
    parts n.toUInt64.toFloat =
      (Float.Model.pack (UnpackedFloat.round Format.binary64 .positive n 0)).unpack := by
  have hword : n.toUInt64.toNat = n := UInt64.toNat_ofNat_of_lt' hsize
  show (Float.Model.pack
    (UnpackedFloat.normalize Format.binary64 (n.toUInt64.toNat : Int) 0 .positive)).unpack = _
  rw [hword, normalize_positive hpos]

/-- A positive count of at most 53 bits is a normal number, as is its product with one. -/
theorem of_nat_small {n : Nat} (h : 0 < n) (hsmall : n < 2 ^ 53) :
    ∃ u, Normal (n.log2 - 52) (n.log2 - 50) u ∧
      parts (Float.ofNat n) = (Float.Model.pack u).unpack := by
  have hbits : n.log2 < 53 := (Nat.log2_lt (Nat.ne_of_gt h)).mpr hsmall
  have hconverted := parts_of_word h (hsmall.trans (by decide))
  have hround := (normal_round (m := n) (e := 0) h (by omega) rfl).stored (by omega) (by omega)
  rw [← hconverted] at hround
  refine ⟨_, (hround.mul_one (by omega)).mono (by omega) (by omega), ?_⟩
  show parts (Float.ofScientific n false 0) = _
  unfold Float.ofScientific
  rw [dif_pos ⟨hsmall, by decide⟩]
  show parts (n.toUInt64.toFloat * Float.ofBits 0x3FF0000000000000) = _
  have hone : parts (Float.ofBits 0x3FF0000000000000) =
      .finite .positive (1 <<< 52) (-(52 : Nat)) (by decide) := rfl
  rw [parts_mul, hone]

/-- A count of more bits is rounded from 53 bits more. -/
theorem parts_of_nat_big {n : Nat} (hbig : 2 ^ 53 ≤ n) :
    parts (Float.ofNat n) = (Float.Model.pack
      (roundWithAccuracy Format.binary64 .positive (n <<< 53) (-53) .exact)).unpack := by
  have hpos : 0 < n := by omega
  have hnot : ¬(n < 2 ^ 53 ∧ 0 ≤ 22) := by omega
  have hleast : ¬(0 : Int) < -((2 ^ Format.binary64.exponentBits : Int) + n.log2) := by
    show ¬(0 : Int) < -((2048 : Int) + n.log2)
    omega
  show parts (Float.ofScientific n false 0) = _
  unfold Float.ofScientific
  rw [dif_neg hnot]
  show (Float.Model.pack (UnpackedFloat.ofScientific Format.binary64 n 0)).unpack = _
  unfold UnpackedFloat.ofScientific
  rw [dif_neg (Nat.ne_of_gt hpos), if_neg (by decide), if_neg hleast, if_pos (by decide)]
  show (Float.Model.pack
    (roundWithAccuracy Format.binary64 .positive (n <<< 53 * 1) (-53) .exact)).unpack = _
  rw [Nat.mul_one]

/-- A count of more bits is rounded to a normal number, which may be out of range. -/
theorem of_nat_big {n : Nat} (hbig : 2 ^ 53 ≤ n) :
    ∃ u, Normal (n.log2 - 52) (n.log2 - 50) u ∧
      parts (Float.ofNat n) = (Float.Model.pack u).unpack := by
  have hpos : 0 < n := by omega
  have hlog := log2_shift_left hpos 53
  have hround := normal_round_with_accuracy (m := n <<< 53) (e := -53) .exact (by omega)
    (show -1074 ≤ (n.log2 - 52 : Int) by omega) (by omega)
  exact ⟨_, hround.mono (by omega) (by omega), parts_of_nat_big hbig⟩

/-- A positive count is rounded to a normal number, which may be out of range. -/
theorem of_nat_parts {n : Nat} (h : 0 < n) :
    ∃ u, Normal (n.log2 - 52) (n.log2 - 50) u ∧
      parts (Float.ofNat n) = (Float.Model.pack u).unpack := by
  by_cases hsmall : n < 2 ^ 53
  · exact of_nat_small h hsmall
  · exact of_nat_big (by omega)

/-- A positive count is large. -/
theorem large_of_nat {n : Nat} (h : 0 < n) : Large (-52) (parts (Float.ofNat n)) := by
  obtain ⟨u, hnormal, hparts⟩ := of_nat_parts h
  rw [hparts]
  exact ((Large.normal hnormal).mono (by omega)).stored (by decide)

/-- A positive count of 64 bits is a normal number. -/
theorem normal_of_nat {n : Nat} (h : 0 < n) (hword : n < powerOfTwo 64) :
    Normal (n.log2 - 52) (n.log2 - 50) (parts (Float.ofNat n)) := by
  obtain ⟨u, hnormal, hparts⟩ := of_nat_parts h
  have hbits : n.log2 < 64 := (Nat.log2_lt (Nat.ne_of_gt h)).mpr hword
  rw [hparts]
  exact hnormal.stored (by omega) (by omega)

/-! ## Means -/

/-- Numbers compare by their parts. -/
theorem at_most_parts (x y : Float) : Scalar.atMost x y = (parts x).le (parts y) := by
  show decide (decide ((parts x).le (parts y) = true) = true) = _
  rw [Bool.decide_eq_true, Bool.decide_eq_true]

/-- Whether a number is the positive zero. -/
def IsZero (x : Float) : Prop :=
  parts x = .zero .positive

/-- Zero and zero add up to zero. -/
theorem IsZero.add {x y : Float} (hx : IsZero x) (hy : IsZero y) : IsZero (x + y) := by
  unfold IsZero at hx hy ⊢
  rw [parts_add, hx, hy]
  rfl

/-- A sum of zeros is zero. -/
theorem is_zero_foldl {start : Float} {values : List Float} (hstart : IsZero start)
    (h : ∀ v ∈ values, IsZero v) : IsZero (values.foldl (· + ·) start) := by
  induction values generalizing start with
  | nil => exact hstart
  | cons v values ih =>
      exact ih (hstart.add (h v List.mem_cons_self)) fun w hw => h w (List.mem_cons_of_mem v hw)

/-- A large number is not zero. -/
theorem Large.not_is_zero {low : Int} {x : Float} (h : Large low (parts x)) : ¬IsZero x := by
  intro hzero
  rw [hzero] at h
  cases h with
  | normal h => cases h

/-- What is large or zero stays so when something large or zero is added, and is large if either
is. -/
theorem Large.add_parts {low : Int} {x y : Float} (hlow : -1074 ≤ low)
    (hx : IsZero x ∨ Large low (parts x)) (hy : IsZero y ∨ Large low (parts y))
    (h : Large low (parts x) ∨ Large low (parts y)) : Large low (parts (x + y)) := by
  rw [parts_add]
  refine Large.stored ?_ hlow
  rcases hx with hx | hx
  · have hlarge := h.resolve_left fun hlarge => hlarge.not_is_zero hx
    rw [hx, hlarge.zero_add]
    exact hlarge
  · rcases hy with hy | hy
    · rw [hy, hx.add_zero]
      exact hx
    · exact hx.add hy hlow

/-- A sum of large numbers and zeros is large as soon as one of them is. -/
theorem large_foldl {low : Int} {start : Float} {values : List Float} (hlow : -1074 ≤ low)
    (h : ∀ v ∈ values, IsZero v ∨ Large low (parts v))
    (hstart : Large low (parts start) ∨
      IsZero start ∧ ∃ v ∈ values, Large low (parts v)) :
    Large low (parts (values.foldl (· + ·) start)) := by
  induction values generalizing start with
  | nil => exact hstart.elim id fun ⟨_, v, hv, _⟩ => absurd hv List.not_mem_nil
  | cons v values ih =>
      have hfirst := h v List.mem_cons_self
      have hrest : ∀ w ∈ values, IsZero w ∨ Large low (parts w) :=
        fun w hw => h w (List.mem_cons_of_mem v hw)
      rw [List.foldl_cons]
      refine ih hrest ?_
      rcases hstart with hlarge | ⟨hzero, w, hw, hlarge⟩
      · exact Or.inl (Large.add_parts hlow (Or.inr hlarge) hfirst (Or.inl hlarge))
      · rcases List.mem_cons.mp hw with rfl | hw
        · exact Or.inl (Large.add_parts hlow (Or.inl hzero) hfirst (Or.inr hlarge))
        · rcases hfirst with hv | hv
          · exact Or.inr ⟨hzero.add hv, w, hw, hlarge⟩
          · exact Or.inl (Large.add_parts hlow (Or.inl hzero) (Or.inr hv) (Or.inr hv))

/-- The mean of large numbers and zeros is above zero unless all of them are zero. The exponents
leave room for 2 ^ 64 of them. -/
theorem mean_at_most_zero (low : Int) {values : List Float} {n : Nat} (hlow : -1000 ≤ low)
    (h : ∀ v ∈ values, IsZero v ∨ Large low (parts v)) (hpos : 0 < n)
    (hword : n < powerOfTwo 64) :
    Scalar.atMost (values.foldl (· + ·) 0.0 / Scalar.ofNat n) (0.0 : Float) = true ↔
      ∀ v ∈ values, IsZero v := by
  have hcount := normal_of_nat hpos hword
  have hbits : n.log2 < 64 := (Nat.log2_lt (Nat.ne_of_gt hpos)).mpr hword
  have hstart : IsZero 0.0 := rfl
  rw [at_most_parts, hstart]
  show (parts (values.foldl (· + ·) 0.0 / Float.ofNat n)).le (.zero .positive) = true ↔ _
  rw [parts_div]
  constructor
  · intro hle v hv
    rcases h v hv with hzero | hlarge
    · exact hzero
    · have htotal := large_foldl (by omega) h (Or.inr ⟨hstart, v, hv, hlarge⟩)
      have hmean := (htotal.div hcount (Int.le_refl _) (by omega)).stored (by omega)
      rw [hmean.not_le_zero] at hle
      cases hle
  · intro hall
    have htotal := is_zero_foldl hstart hall
    unfold IsZero at htotal
    rw [htotal, hcount.zero_div]
    rfl

end CallProfile.Number.Binary64
