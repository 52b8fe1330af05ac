import CallProfile.Text.Width
import Mathlib.Algebra.Order.Group.Int
import Mathlib.Tactic.SplitIfs

/-!
# Widths of texts

A character may take back a column that a character behind it has counted, as the parts of some
ligatures and flags do. What can be taken back is owed by the follower (`owed`), and a character
never takes more (`pays_step`), so no text has a negative width (`owed_le_width`).

A space takes one column whatever follows it and hides what follows from the characters before it.
So texts with spaces between them are as wide as the texts and the spaces together
(`columns_spaces_append`, `columns_append`).
-/

namespace CallProfile.Text.Width

/-! ## Columns that can be taken back -/

/-- The columns that the part of a ligature can lose to its other part. -/
def Ligature.owed : Ligature → Nat
  | khmerLetter | tifinaghJoiner => 1
  | _ => 0

/-- The columns that the next character can take back. -/
def Follower.owed : Follower → Nat
  | ligature part _ _ => part.owed
  | joinedRegional | joinedRegionalOdd => 1
  | _ => 0

/-- What a character adds and leaves to be taken back fits what could be taken back before. -/
def Pays (owed : Nat) (next : Int × Follower) : Prop :=
  (next.2.owed : Int) ≤ owed + next.1

/-- Nothing is wrong with owing more before. -/
theorem Pays.mono {owed more : Nat} {next : Int × Follower} (h : Pays owed next)
    (hle : owed ≤ more) : Pays more next := by
  unfold Pays at *
  omega

/-- A character that takes nothing back pays if it leaves no more than was owed. -/
theorem pays_of_nonneg {owed : Nat} {added : Int} {follower : Follower} (hadded : 0 ≤ added)
    (hle : follower.owed ≤ owed) : Pays owed (added, follower) := by
  show (follower.owed : Int) ≤ owed + added
  omega

/-- A character can take back one column at most. -/
theorem owed_le_one (follower : Follower) : follower.owed ≤ 1 := by
  cases follower with
  | ligature part joined style => cases part <;> simp [Follower.owed, Ligature.owed]
  | _ => simp [Follower.owed]

/-- A Khmer letter that can be stacked takes a column by itself. -/
theorem columns_of_khmer {c : Char} (h : isKhmerStacked c = true) : 1 ≤ charColumns c := by
  have hbounds : 0x1780 ≤ c.toNat ∧ c.toNat < 0x17B0 := by
    simp [isKhmerStacked] at h
    omega
  have hvisible : ∀ k < 48, CharSet.search (0x1780 + k) false zeroWidth.bounds = false := by
    decide +kernel
  have hzero : zeroWidth.contains c = false := by
    have hk := hvisible (c.toNat - 0x1780) (by omega)
    rwa [Nat.add_sub_cancel' hbounds.1] at hk
  grind [charColumns]

/-- A character by itself pays. The one part of a ligature that takes a column back when it follows
no other part is a Khmer letter, which has a column. -/
theorem pays_alone (c : Char) (owed : Nat) : Pays owed ((charColumns c : Int), asFollower c) := by
  have howed : (asFollower c).owed ≤ charColumns c := by
    by_cases hkhmer : isKhmerStacked c = true
    · exact (owed_le_one _).trans (columns_of_khmer hkhmer)
    · have hnone : (asFollower c).owed = 0 := by
        simp only [asFollower, hkhmer, apply_ite Follower.owed]
        simp [Follower.owed, Ligature.owed]
      exact hnone ▸ Nat.zero_le _
  show ((asFollower c).owed : Int) ≤ owed + charColumns c
  omega

/-- A character that joins a ligature pays. -/
theorem pays_join_ligature {c : Char} {joined : Bool} {part : Ligature} {next : Int × Follower}
    (h : joinLigature c joined part = some next) : Pays part.owed next := by
  unfold Pays
  cases part <;> grind [joinLigature, Follower.owed, Ligature.owed]

/-- A character that joins an emoji sequence pays. -/
theorem pays_join_emoji {c : Char} {follower : Follower} {next : Int × Follower}
    (h : joinEmoji c follower = some next) : Pays follower.owed next := by
  unfold Pays
  cases follower <;> grind [joinEmoji, Follower.owed]

/-- Behind a selector no more is owed than before. -/
theorem owed_with_selector (follower : Follower) (s : Selector) :
    (follower.withSelector s).owed ≤ follower.owed := by
  cases follower with
  | ligature part joined style => exact le_rfl
  | joinedEmoji styled => cases s <;> cases styled <;> simp [Follower.withSelector, Follower.owed]
  | joinedKeycap styled => cases s <;> cases styled <;> simp [Follower.withSelector, Follower.owed]
  | _ => simp [Follower.withSelector, Follower.owed]

/-- Without a selector no more is owed than with it. -/
theorem owed_without_selector (follower : Follower) :
    follower.withoutSelector.owed ≤ follower.owed := by
  cases follower with
  | joinedEmoji styled => cases styled <;> simp [Follower.withoutSelector, Follower.owed]
  | joinedKeycap styled => cases styled <;> simp [Follower.withoutSelector, Follower.owed]
  | _ => simp [Follower.withoutSelector, Follower.owed]

/-- A character under no selector pays. -/
theorem pays_wide_step (c : Char) (follower : Follower) :
    Pays follower.owed (wideStep c follower) := by
  have hjoin : ∀ next : Option (Int × Follower), (∀ n, next = some n → Pays follower.owed n) →
      Pays follower.owed (next.getD ((charColumns c : Int), asFollower c)) := by
    intro next hnext
    cases next with
    | none => exact pays_alone c _
    | some n => exact hnext n rfl
  have hemoji := hjoin (joinEmoji c follower) fun n hn => pays_join_emoji hn
  cases follower with
  | ligature part joined style =>
      simp only [wideStep]
      split
      · exact pays_of_nonneg le_rfl le_rfl
      · split
        · exact pays_of_nonneg le_rfl le_rfl
        · exact hjoin (joinLigature c joined part) fun n hn => pays_join_ligature hn
  | _ => exact hemoji

/-- Every character pays. -/
theorem pays_step (c : Char) (follower : Follower) : Pays follower.owed (step c follower) := by
  unfold step
  split
  · -- A character drawn as an emoji owes nothing.
    split
    · exact pays_of_nonneg le_rfl (Nat.zero_le _)
    · exact pays_of_nonneg le_rfl (Nat.zero_le _)
    · exact pays_of_nonneg (by decide) (Nat.zero_le _)
  · have hseen : (if follower.selector? = some .emojiStyle then follower.withoutSelector
        else follower).owed ≤ follower.owed := by
      split
      · exact owed_without_selector follower
      · exact le_rfl
    dsimp only
    generalize (if follower.selector? = some .emojiStyle then follower.withoutSelector
      else follower) = seen at hseen ⊢
    refine Pays.mono ?_ hseen
    split_ifs
    · exact pays_of_nonneg (by decide) (Nat.zero_le _)
    · exact pays_of_nonneg le_rfl (Nat.zero_le _)
    · exact pays_of_nonneg (by decide) (Nat.zero_le _)
    · exact pays_alone c _
    · exact pays_of_nonneg le_rfl (owed_with_selector seen .emojiStyle)
    · exact pays_of_nonneg le_rfl (owed_with_selector seen .textStyle)
    · exact pays_of_nonneg (by decide) (Nat.zero_le _)
    · exact (pays_wide_step c seen.withoutSelector).mono (owed_without_selector seen)
    · exact pays_wide_step c seen

/-! ## Whole texts -/

/-- One more character in front. -/
theorem columns_from_cons (c : Char) (chars : List Char) :
    columnsFrom (c :: chars) =
      ((columnsFrom chars).1 + (step c (columnsFrom chars).2).1,
        (step c (columnsFrom chars).2).2) :=
  rfl

/-- What can be taken back of a text is within its width. -/
theorem owed_le_width (chars : List Char) :
    ((columnsFrom chars).2.owed : Int) ≤ (columnsFrom chars).1 := by
  induction chars with
  | nil => exact le_rfl
  | cons c chars ih =>
      have hpays := pays_step c (columnsFrom chars).2
      rw [columns_from_cons]
      unfold Pays at hpays
      dsimp only
      omega

/-- The columns of a text are its width, which is never negative. -/
theorem columns_eq (text : String) : (columns text : Int) = (columnsFrom text.toList).1 := by
  have howed := owed_le_width text.toList
  rw [columns]
  omega

/-- A text in front of one that joins nothing adds its own width. -/
theorem columns_from_append (front : List Char) {rest : List Char}
    (h : (columnsFrom rest).2 = .plain) :
    columnsFrom (front ++ rest) =
      ((columnsFrom front).1 + (columnsFrom rest).1, (columnsFrom front).2) := by
  induction front with
  | nil => exact Prod.ext (Int.zero_add _).symm h
  | cons c front ih =>
      rw [List.cons_append, columns_from_cons, columns_from_cons, ih]
      dsimp only
      congr 1
      omega

/-- Texts add up if the second one joins nothing. -/
theorem columns_append (front : String) {rest : String}
    (h : (columnsFrom rest.toList).2 = .plain) :
    columns (front ++ rest) = columns front + columns rest := by
  have hsum := columns_eq (front ++ rest)
  rw [String.toList_append, columns_from_append front.toList h, ← columns_eq, ← columns_eq] at hsum
  dsimp only at hsum
  omega

/-! ## Spaces -/

/-- A number of spaces. -/
def spaces (n : Nat) : String :=
  String.ofList (List.replicate n ' ')

/-- No spaces. -/
theorem spaces_zero : spaces 0 = "" :=
  rfl

/-- Spaces behind spaces. -/
theorem spaces_add (m n : Nat) : spaces (m + n) = spaces m ++ spaces n := by
  rw [spaces, spaces, spaces, ← List.replicate_append_replicate, String.ofList_append]

/-- A space takes one column and hides what follows. -/
theorem step_space (follower : Follower) : step ' ' follower = (1, .plain) := by
  have hstyled : emojiStyled.contains ' ' = false := by decide
  simp [step, hstyled]

/-- Spaces in front of characters. -/
theorem columns_from_replicate (n : Nat) (rest : List Char) :
    columnsFrom (List.replicate (n + 1) ' ' ++ rest) =
      ((columnsFrom rest).1 + (n + 1 : Nat), .plain) := by
  induction n with
  | zero =>
      rw [List.replicate_one, List.singleton_append, columns_from_cons, step_space]
      rfl
  | succ n ih =>
      rw [List.replicate_succ, List.cons_append, columns_from_cons, ih, step_space]
      dsimp only
      congr 1
      omega

/-- A text behind spaces joins nothing. -/
theorem follower_spaces_append {n : Nat} (hn : 0 < n) (rest : String) :
    (columnsFrom (spaces n ++ rest).toList).2 = .plain := by
  obtain ⟨m, rfl⟩ := Nat.exists_eq_add_of_le' hn
  rw [String.toList_append, spaces, String.toList_ofList, columns_from_replicate]

/-- Spaces in front of a text add one column each. -/
theorem columns_spaces_append (n : Nat) (rest : String) :
    columns (spaces n ++ rest) = n + columns rest := by
  cases n with
  | zero => rw [spaces_zero, String.empty_append, Nat.zero_add]
  | succ n =>
      have hsum := columns_eq (spaces (n + 1) ++ rest)
      rw [String.toList_append, spaces, String.toList_ofList, columns_from_replicate,
        ← columns_eq] at hsum
      dsimp only at hsum
      rw [spaces]
      omega

/-- Spaces are as wide as they are many. -/
theorem columns_spaces (n : Nat) : columns (spaces n) = n := by
  have hempty := columns_spaces_append n ""
  rwa [String.append_empty] at hempty

end CallProfile.Text.Width
