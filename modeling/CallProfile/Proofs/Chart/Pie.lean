import CallProfile.Chart.Plot
import CallProfile.Proofs.Number.Distance
import CallProfile.Proofs.Number.Exact
import CallProfile.Proofs.Number.Unsigned
import CallProfile.Proofs.Share
import Mathlib.Data.Rat.Floor

/-!
# Pies as partitions of the circle

The wedges of a pie are drawn one behind the other, and each begins where the one before it ended.
The sum of the values in front of a wedge says how far the circle is filled (`follow_wedges_from`),
and portions without a wedge add nothing to it, so the wedges fill the circle. The corners of a
wedge are its centre and points on its arc, of which the first and the last are its ends
(`draws_wedge`). The point of an angle is put into the pixel that is nearest to it (`pixel_at`). The
main result is `pie_parts_circle`.
-/

namespace CallProfile

/-- The least natural number that is not smaller is the ceiling. -/
theorem Number.Scalar.ceiling_rat (x : Rat) : ceiling x = ⌈x⌉₊ := by
  have hceil : x.ceil = ⌈x⌉ :=
    eq_of_forall_ge_iff fun n => Rat.ceil_le_iff.trans Int.ceil_le.symm
  rw [← Int.ceil_toNat, ← hceil]
  rfl

namespace Pie

open Number (Scalar)

/-! ## The portions that have wedges -/

section Selection

variable {α : Type} [Scalar α]

/-- The portions with a wedge are those with a positive value, each with its position. -/
theorem wedges_from_drawn (total start : α) (portions : List (Portion α × Nat)) :
    (wedgesFrom total start portions).map (fun w => (w.portion, w.index)) =
      portions.filter fun entry => !Scalar.atMost entry.1.value 0.0 := by
  induction portions generalizing start with
  | nil => rfl
  | cons entry portions ih =>
      obtain ⟨portion, index⟩ := entry
      rw [wedgesFrom]
      by_cases hvalue : Scalar.atMost portion.value 0.0 = true
      · rw [if_pos hvalue, ih, List.filter_cons_of_neg (by simp [hvalue])]
      · rw [if_neg hvalue, List.map_cons, ih, List.filter_cons_of_pos (by simp [hvalue])]

/-- There are wedges if a value is positive. -/
theorem wedges_ne_nil {portions : List (Portion α)} {portion : Portion α}
    (hmem : portion ∈ portions) (hvalue : Scalar.atMost portion.value 0.0 = false) :
    wedges portions ≠ [] := by
  obtain ⟨index, hindex⟩ := List.getElem?_of_mem hmem
  have hdrawn := wedges_from_drawn (total portions) (-90.0) portions.zipIdx
  intro hnone
  rw [← wedges, hnone, List.map_nil, eq_comm, List.filter_eq_nil_iff] at hdrawn
  have hentry := hdrawn (portion, index) (List.mk_mem_zipIdx_iff_getElem?.mpr hindex)
  simp [hvalue] at hentry

/-- The shapes of the wedges of portions, in their order. -/
def shapes (polar : α → α → Point Int) (center : Point Int) (radius : α)
    (portions : List (Portion α)) : List (Shape Int) :=
  (wedges portions).flatMap (wedgeShapes polar center radius (total portions))

end Selection

/-! ## Angles -/

/-- Wedges that follow one another without gaps, from an angle to another. -/
inductive Follow : Rat → List (Wedge Rat) → Rat → Prop where
  | nil (angle) : Follow angle [] angle
  | cons (w : Wedge Rat) (rest stop) :
      Follow (w.start + w.sweep) rest stop → Follow w.start (w :: rest) stop

variable {portions : List (Portion Rat)}

/-- The part of a full turn that a value has of a total. -/
theorem sweep_rat (value total : Rat) : value / total * 360.0 = 360 * value / total := by
  norm_num
  ring

/-- Wedges fill the turn by as much as the sum of their values has of the total. -/
theorem follow_wedges_from (total start : Rat) {portions : List (Portion Rat × Nat)}
    (h : ∀ entry ∈ portions, 0 ≤ entry.1.value) :
    Follow start (wedgesFrom total start portions)
      (start + 360 * Scalar.sum (portions.map (·.1.value)) / total) := by
  induction portions generalizing start with
  | nil =>
      rw [List.map_nil, Scalar.sum_nil_rat, mul_zero, zero_div, add_zero]
      exact .nil start
  | cons entry portions ih =>
      obtain ⟨portion, index⟩ := entry
      obtain ⟨hhead, hrest⟩ := List.forall_mem_cons.mp h
      rw [wedgesFrom, List.map_cons, Scalar.sum_cons_rat]
      split
      · next hvalue =>
          -- a value that is skipped is zero
          have hzero : portion.value = 0 := by
            have hle : portion.value ≤ 0.0 := of_decide_eq_true hvalue
            exact le_antisymm (Scalar.zero_rat ▸ hle) hhead
          rw [hzero, zero_add]
          exact ih start hrest
      · next hvalue =>
          have hstop :
              start + 360 * (portion.value + Scalar.sum (portions.map (·.1.value))) / total =
                start + portion.value / total * 360.0 +
                  360 * Scalar.sum (portions.map (·.1.value)) / total := by
            rw [sweep_rat]
            ring
          rw [hstop]
          exact .cons ⟨portion, index, start, portion.value / total * 360.0⟩ _ _ (ih _ hrest)

/-- The angle of each wedge is the part of a full turn that its value has of the total. -/
theorem sweep_of_mem_wedges_from {total start : Rat} {portions : List (Portion Rat × Nat)}
    {w : Wedge Rat} (h : w ∈ wedgesFrom total start portions) :
    w.sweep = 360 * w.portion.value / total := by
  induction portions generalizing start with
  | nil => exact absurd h List.not_mem_nil
  | cons entry portions ih =>
      rw [wedgesFrom] at h
      split at h
      · exact ih h
      · rcases List.mem_cons.mp h with rfl | hrest
        · exact sweep_rat _ _
        · exact ih hrest

/-! ## Corners -/

section Corners

variable {w : Wedge Rat}

/-- The corners on an arc ascend from one of its ends to the other. -/
theorem arc_angles_ends (start : Rat) {sweep : Rat} (hpos : 0 < sweep) :
    (arcAngles start sweep).length = max ⌈sweep⌉₊ 2 + 1 ∧
      (arcAngles start sweep).head? = some start ∧
      (arcAngles start sweep).getLast? = some (start + sweep) ∧
      (arcAngles start sweep).Pairwise (· < ·) := by
  have hsteps : (0 : Rat) < (max (Scalar.ceiling sweep) 2 : Nat) :=
    Nat.cast_pos.mpr (Nat.lt_of_lt_of_le Nat.two_pos (Nat.le_max_right _ _))
  refine ⟨?_, ?_, ?_, ?_⟩
  · simp [arcAngles, Scalar.ceiling_rat]
  · simp [arcAngles, List.range_succ_eq_map]
  · rw [arcAngles, List.range_succ, List.map_append, List.map_singleton, List.getLast?_concat,
      Scalar.ofNat_rat, mul_div_assoc, div_self hsteps.ne', mul_one]
  · refine List.pairwise_map.mpr (List.pairwise_lt_range.imp fun {i j} hlt => ?_)
    have hcast : (i : Rat) < j := Nat.cast_lt.mpr hlt
    rw [Scalar.ofNat_rat, Scalar.ofNat_rat, Scalar.ofNat_rat]
    gcongr

/-- The shapes of a wedge: the wedge in the colour of its position, its outline, its name and its
share. The outline begins at the centre and then follows the arc between the ends of the wedge. -/
structure DrawsWedge (polar : Rat → Rat → Point Int) (center : Point Int) (radius total : Rat)
    (w : Wedge Rat) (outline : List (Point Int)) (arc : List Rat) : Prop where
  shapes : wedgeShapes polar center radius total w =
    [.polygon outline (.filled (Color.categorical w.index)),
      .path (outline ++ [center]) (.outlined .white 2),
      .text w.portion.label (polar (radius * 1.18) (w.start + w.sweep / 2)) nameFont,
      .text (Scalar.fixed 1 (w.portion.value / total * 100) ++ "%")
        (polar (radius * 0.7) (w.start + w.sweep / 2)) shareFont]
  outline_eq : outline = center :: arc.map (polar radius)
  corners : outline.length = max ⌈w.sweep⌉₊ 2 + 2
  first : arc.head? = some w.start
  last : arc.getLast? = some (w.start + w.sweep)
  ascending : arc.Pairwise (· < ·)

/-- A wedge with an angle is drawn between the ends of its arc. -/
theorem draws_wedge (polar : Rat → Rat → Point Int) (center : Point Int) (radius total : Rat)
    (hpos : 0 < w.sweep) :
    ∃ outline arc, DrawsWedge polar center radius total w outline arc := by
  obtain ⟨hlength, hfirst, hlast, hascending⟩ := arc_angles_ends w.start hpos
  refine ⟨_, arcAngles w.start w.sweep, ?_, rfl, ?_, hfirst, hlast, hascending⟩
  · have hhalf : (2.0 : Rat) = 2 := by norm_num
    have hhundred : (100.0 : Rat) = 100 := by norm_num
    rw [wedgeShapes, hhalf, hhundred]
  · rw [List.length_cons, List.length_map, hlength]

end Corners

/-! ## Pixels -/

/-- A coordinate is an offset away from an origin, up to half a pixel. The offset must be a number,
and 32 bits must have room for it. -/
def IsNear (origin : Int) (offset : Float) (coordinate : Int) : Prop :=
  offset.isFinite = true → |(origin : Rat)| + |Number.Binary64.toRat offset| ≤ 2147483647 →
    |Number.Binary64.toRat offset - (coordinate - origin)| ≤ 1 / 2

/-- A pixel stands at a distance and an angle in degrees from a centre: as far across as the cosine
says and as far down as the sine says. -/
structure PixelAt (center : Point Int) (radius degrees : Float) (pixel : Point Int) : Prop where
  across : IsNear center.x (radius * (degrees * (3.141592653589793 / 180.0)).cos) pixel.x
  down : IsNear center.y (radius * (degrees * (3.141592653589793 / 180.0)).sin) pixel.y

/-- A whole number of 32 bits stays as it is. -/
theorem word32_eq {n : Int} (h : |n| ≤ 2147483647) : word32 n = n := by
  obtain ⟨hlow, hhigh⟩ := abs_le.mp h
  have hword : Number.powerOfTwo 32 = 4294967296 := by decide
  rw [word32, hword]
  refine Int.bmod_eq_of_le ?_ ?_ <;> omega

/-- The nearest whole number of 32 bits is the nearest whole number, if there is room for that. -/
theorem nearest32_eq {x : Float} {k : Int} (hfinite : x.isFinite = true)
    (hnearest : Number.Binary64.nearest? x = some k) (h : |k| ≤ 2147483647) : nearest32 x = k := by
  obtain ⟨hlow, hhigh⟩ := abs_le.mp h
  obtain ⟨negative, m, e, hdecode⟩ := Number.Binary64.decode_of_is_finite hfinite
  have hends : least32 = -2147483648 ∧ most32 = 2147483647 := by decide
  unfold nearest32
  rw [hdecode, hnearest, hends.1, hends.2]
  dsimp only [Option.getD_some]
  omega

/-- The nearest pixel at an offset is near it. -/
theorem is_near_pixel (origin : Int) (offset : Float) :
    IsNear origin offset (word32 (origin + nearest32 offset)) := by
  intro hfinite hroom
  obtain ⟨k, hnearest, hwithin⟩ := Number.Binary64.nearest_within hfinite
  have hsize : |(k : Rat)| ≤ |Number.Binary64.toRat offset| + 1 / 2 := by
    have hmore := abs_sub_abs_le_abs_sub (k : Rat) (Number.Binary64.toRat offset)
    rw [abs_sub_comm] at hmore
    linarith
  have hsum : |origin| + |k| < 2147483648 := by
    have hless : ((|origin| + |k| : Int) : Rat) < ((2147483648 : Int) : Rat) := by
      push_cast
      linarith
    exact_mod_cast hless
  have horigin := abs_nonneg origin
  have htogether := abs_add_le origin k
  rw [nearest32_eq hfinite hnearest (by omega), word32_eq (by omega)]
  push_cast
  rwa [add_sub_cancel_left]

/-- The pixel that is drawn for an angle stands there. -/
theorem pixel_at (center : Point Int) (radius degrees : Float) :
    PixelAt center radius degrees (polarPixel center radius degrees) :=
  ⟨is_near_pixel _ _, is_near_pixel _ _⟩

/-- The centre of a pie: in the middle of the width, and ten pixels above the middle of the height
that the title leaves. -/
def centerIn (size : Size) : Point Int :=
  ⟨(word32 size.width).tdiv 2, (word32 (size.height - 36 : Nat)).tdiv 2 - 10⟩

/-- The radius of a pie: a part of the width or of the height that the title leaves, whichever is
less. -/
def radiusIn (size : Size) : Float :=
  Float.ofNat (min size.width (size.height - 36)) * 0.32

/-- The middle of the line under a pie. -/
def footerIn (size : Size) : Point Int :=
  ⟨(word32 size.width).tdiv 2, word32 (word32 (size.height - 36 : Nat) - 20)⟩

/-! ## Shares -/

/-- A positive count is above zero. -/
theorem count_not_at_most_zero {n : Nat} (h : 0 < n) :
    Scalar.atMost (Scalar.ofNat n : Float) 0.0 = false := by
  have hcount := Number.Binary64.is_rounded_of_nat n
  have hone : Number.Binary64.Holds (Float.ofNat 1) (1 : Nat) :=
    Number.Binary64.holds_of_nat (by decide)
  have hzero : Number.Binary64.Holds 0.0 0 := .zero .positive
  have hle : Float.ofNat 1 ≤ Float.ofNat n :=
    (Number.Binary64.is_rounded_of_nat 1).le hcount (Nat.cast_le.mpr h)
  obtain ⟨v, hv⟩ := hcount.spans
  refine decide_eq_false fun hatMost => ?_
  have hlow := (Number.Binary64.Reaches.le_iff (.value hone) hv).mp hle
  have hhigh := (Number.Binary64.Reaches.le_iff hv (.value hzero)).mp hatMost
  exact absurd (hlow.trans hhigh) (by norm_num)

/-- Counts with a positive total are not all zero. -/
theorem exists_pos_of_total {counts : List Nat} (h : Number.total counts ≠ 0) :
    ∃ n ∈ counts, 0 < n := by
  induction counts with
  | nil => exact absurd rfl h
  | cons n counts ih =>
      rw [Number.total_cons] at h
      rcases Nat.eq_zero_or_pos n with rfl | hpos
      · obtain ⟨m, hm, hpos⟩ := ih (by omega)
        exact ⟨m, List.mem_cons_of_mem _ hm, hpos⟩
      · exact ⟨n, List.mem_cons_self, hpos⟩

/-- A share that is not empty has a slice that counts something, the folded one if no other. -/
theorem exists_slice_pos {α : Type} [Scalar α] {counts : List (String × Nat)} {threshold : α}
    (h : (Share.fold counts threshold).isEmpty = false) :
    ∃ slice ∈ (Share.fold counts threshold).slices, 0 < slice.count := by
  have htotal : Number.total ((Share.fold counts threshold).slices.map (·.count)) ≠ 0 := by
    rw [Share.slices_fold, List.map_append, Number.total_append]
    have hkept := Share.total_kept_add_small counts threshold
    have hcounted : Number.total (counts.map (·.2)) ≠ 0 := of_decide_eq_false h
    exact hkept.trans_ne hcounted
  obtain ⟨n, hn, hpos⟩ := exists_pos_of_total htotal
  obtain ⟨slice, hslice, rfl⟩ := List.mem_map.mp hn
  exact ⟨slice, hslice, hpos⟩

/-- A share that is not empty has wedges. -/
theorem wedges_of_share {counts : List (String × Nat)} {threshold : Float}
    (h : (Share.fold counts threshold).isEmpty = false) :
    wedges (ChartKind.portions (Share.fold counts threshold)) ≠ [] := by
  obtain ⟨slice, hslice, hpos⟩ := exists_slice_pos h
  exact wedges_ne_nil (List.mem_map.mpr ⟨slice, hslice, rfl⟩) (count_not_at_most_zero hpos)

/-! ## Pies -/

/-- The wedges of a pie part the circle by its values. -/
structure PartsCircle (portions : List (Portion Rat)) : Prop where
  /-- Each positive value has a wedge, with the position it has among all values, and no other value
  has one. -/
  drawn : (wedges portions).map (fun w => (w.portion, w.index)) =
    portions.zipIdx.filter fun entry => 0 < entry.1.value
  /-- The angle of a wedge is the part of a full turn that its value has of the total. -/
  sweep : ∀ w ∈ wedges portions, w.sweep = 360 * w.portion.value / total portions
  /-- The wedges follow one another from the top around the whole circle. -/
  follow : Follow (-90) (wedges portions) 270

/-- The values of a pie part the circle, if none of them is negative and there is something to be
parted. -/
theorem parts_circle {portions : List (Portion Rat)} (hnonneg : ∀ p ∈ portions, 0 ≤ p.value)
    (hpos : 0 < total portions) : PartsCircle portions where
  drawn := by
    rw [wedges, wedges_from_drawn]
    refine List.filter_congr fun entry _ => ?_
    have hzero : Scalar.atMost entry.1.value 0.0 = decide (entry.1.value ≤ 0) := by
      rw [Scalar.zero_rat]
      rfl
    rw [hzero, ← decide_not, decide_eq_decide, not_le]
  sweep w hw := sweep_of_mem_wedges_from hw
  follow := by
    have hentries : ∀ entry ∈ portions.zipIdx, 0 ≤ entry.1.value :=
      fun entry hentry => hnonneg _ (List.fst_mem_of_mem_zipIdx hentry)
    have hvalues : portions.zipIdx.map (·.1.value) = portions.map (·.value) := by
      conv_rhs => rw [← List.zipIdx_map_fst 0 portions, List.map_map]
      rfl
    have hfollow := follow_wedges_from (total portions) (-90.0) hentries
    rw [hvalues, ← total, mul_div_assoc, div_self hpos.ne', mul_one] at hfollow
    have hstart : (-90.0 : Rat) = -90 := by norm_num
    have hstop : (-90.0 : Rat) + 360 = 270 := by norm_num
    rw [hstop, hstart] at hfollow
    rw [wedges, hstart]
    exact hfollow

/-- A wedge has an angle. -/
theorem PartsCircle.sweep_pos {portions : List (Portion Rat)} (h : PartsCircle portions)
    (hpos : 0 < total portions) {w : Wedge Rat} (hw : w ∈ wedges portions) : 0 < w.sweep := by
  have hentry : (w.portion, w.index) ∈ portions.zipIdx.filter fun entry => 0 < entry.1.value := by
    rw [← h.drawn]
    exact List.mem_map.mpr ⟨w, hw, rfl⟩
  have hvalue : 0 < w.portion.value := of_decide_eq_true (List.mem_filter.mp hentry).2
  rw [h.sweep w hw]
  positivity

/-- A picture of a pie shows the shapes of its wedges, and the line below them if there is one. -/
theorem picture_eq (size : Size) (title : String) (portions : List (Portion Float))
    (footer : Option String) :
    picture size title portions footer =
      .titled title
        (shapes (polarPixel (centerIn size)) (centerIn size) (radiusIn size) portions ++
          footer.toList.map fun text => .text text (footerIn size) footerFont) :=
  rfl

/-- In exact arithmetic, a pie of values that are not negative and not all zero has one wedge for
each positive value, and these part the circle. Each wedge is drawn between the ends of its arc, in
the colour of its position. Drawn in binary64 are the shapes of the same definitions around the
centre of the picture, with the pixel at its angle for every corner, and a share that is not empty
has a wedge there. -/
theorem pie_parts_circle {portions : List (Portion Rat)} (hnonneg : ∀ p ∈ portions, 0 ≤ p.value)
    (hpos : 0 < total portions) :
    PartsCircle portions ∧
      (∀ polar center radius, shapes polar center radius portions =
        (wedges portions).flatMap (wedgeShapes polar center radius (total portions))) ∧
      (∀ polar center radius, ∀ w ∈ wedges portions, ∃ outline arc,
        DrawsWedge polar center radius (total portions) w outline arc) ∧
      (∀ size title shown footer, picture size title shown footer =
        .titled title (shapes (polarPixel (centerIn size)) (centerIn size) (radiusIn size) shown ++
          footer.toList.map fun text => .text text (footerIn size) footerFont)) ∧
      (∀ center radius degrees,
        PixelAt center radius degrees (polarPixel center radius degrees)) ∧
      ∀ counts (threshold : Float), (Share.fold counts threshold).isEmpty = false →
        wedges (ChartKind.portions (Share.fold counts threshold)) ≠ [] := by
  have hparts := parts_circle hnonneg hpos
  refine ⟨hparts, fun _ _ _ => rfl, fun polar center radius w hw => ?_, picture_eq, pixel_at,
    fun _ _ => wedges_of_share⟩
  exact draws_wedge polar center radius (total portions) (hparts.sweep_pos hpos hw)

/-- Three values, of which one is zero. -/
def gapped : List (Portion Rat) :=
  [⟨"a", 1⟩, ⟨"b", 0⟩, ⟨"c", 3⟩]

/-- The zero has no wedge and leaves no gap, but counts for the position of the value behind it. -/
theorem gapped_parts_circle :
    (∀ p ∈ gapped, 0 ≤ p.value) ∧ 0 < total gapped ∧
      (wedges gapped).map (fun w => (w.index, w.start, w.sweep)) = [(0, -90, 90), (2, 0, 270)] ∧
      PartsCircle gapped ∧
      (Share.fold [("a", 1)] (0.5 : Float)).isEmpty = false ∧
      wedges (ChartKind.portions (Share.fold [("a", 1)] (0.5 : Float))) ≠ [] := by
  have hnonneg : ∀ p ∈ gapped, 0 ≤ p.value := by
    simp [gapped]
  have hpos : 0 < total gapped := by decide +kernel
  have hshare : (Share.fold [("a", 1)] (0.5 : Float)).isEmpty = false := rfl
  have hparts := pie_parts_circle hnonneg hpos
  exact ⟨hnonneg, hpos, by decide +kernel, hparts.1, hshare, hparts.2.2.2.2.2 _ _ hshare⟩

end Pie

end CallProfile
