import CallProfile.Text.Utf8
import Mathlib.Data.List.Induction
import Mathlib.Tactic.IntervalCases
import Mathlib.Tactic.MkIffOfInductiveProp

/-!
# UTF-8

The decoder reads one byte after the other and keeps the bits of a character that is not complete.
It agrees with the encoding of characters. One way, the bytes of a character lead it through that
character alone (`foldl_encode_char`). The other way, at every byte it has read only characters and
the beginning of one more, or something invalid (`reads_run`). So the bytes that `decode?` takes are
those of a text and no others (`decode_eq_some_iff`), and on these `decodeLossy` replaces nothing
(`decode_lossy_encode`).
-/

namespace CallProfile.Text.Utf8

/-! ## The bytes of a character -/

/-- The least value that takes so many bytes after the leading one, and for four the end of all
values. -/
def leastTaking : Nat → Nat
  | 0 => 0
  | 1 => 0x80
  | 2 => 0x800
  | 3 => 0x10000
  | _ => 0x110000

/-- What a leading byte adds to the bits it carries, by the number of bytes that follow it, and for
four the end of all marked bytes. -/
def mark : Nat → Nat
  | 0 => 0
  | 1 => 0xC0
  | 2 => 0xE0
  | 3 => 0xF0
  | _ => 0xF8

/-- The value takes so many bytes after the leading one. -/
@[mk_iff]
structure Takes (following value : Nat) : Prop where
  few : following ≤ 3
  least_le : leastTaking following ≤ value
  lt_least : value < leastTaking (following + 1)

/-- The leading byte of a value. -/
def leading (following value : Nat) : UInt8 :=
  UInt8.ofNat (value / 64 ^ following + mark following)

/-- The byte that carries six bits of a value, with so many more bytes behind it. -/
def continuation (behind value : Nat) : UInt8 :=
  UInt8.ofNat (value / 64 ^ behind % 64 + 0x80)

/-- The last bytes of a value. -/
def continuations : Nat → Nat → List UInt8
  | 0, _ => []
  | behind + 1, value => continuation behind value :: continuations behind value

variable {following value : Nat}

/-- A leading byte has room for its bits and its mark. -/
theorem to_nat_leading (h : Takes following value) :
    (leading following value).toNat = value / 64 ^ following + mark following := by
  obtain ⟨hfew, hleast, hbeyond⟩ := h
  rw [leading, UInt8.toNat_ofNat']
  interval_cases following <;> simp only [leastTaking, mark] at * <;> omega

/-- A byte behind the leading one has room for its bits and its mark. -/
theorem to_nat_continuation (behind value : Nat) :
    (continuation behind value).toNat = value / 64 ^ behind % 64 + 0x80 := by
  rw [continuation, UInt8.toNat_ofNat']
  omega

/-- The bits in front of a byte behind the leading one, and its own. -/
theorem bits_continuation (behind value : Nat) :
    value / 64 ^ (behind + 1) * 64 + ((continuation behind value).toNat - 0x80) =
      value / 64 ^ behind := by
  rw [to_nat_continuation, Nat.pow_succ, ← Nat.div_div_eq_div_mul]
  omega

/-- The code of a character is a value that a character can have. -/
theorem to_nat_of_nat (h : value.isValidChar) : (Char.ofNat value).toNat = value := by
  unfold Char.ofNat
  rw [dif_pos h]
  rfl

/-- Every character takes some number of bytes. -/
theorem exists_takes (c : Char) : ∃ following, Takes following c.toNat := by
  have hend : c.toNat < 0x110000 := by
    have hvalid : c.toNat.isValidChar := c.valid
    simp only [Nat.isValidChar] at hvalid
    omega
  by_cases hone : c.toNat < 0x80
  · exact ⟨0, by decide, Nat.zero_le _, hone⟩
  by_cases htwo : c.toNat < 0x800
  · exact ⟨1, by decide, Nat.le_of_not_lt hone, htwo⟩
  by_cases hthree : c.toNat < 0x10000
  · exact ⟨2, by decide, Nat.le_of_not_lt htwo, hthree⟩
  · exact ⟨3, by decide, Nat.le_of_not_lt hthree, hend⟩

/-- A character is encoded as a leading byte and the bytes that follow it. -/
theorem encode_char_eq {c : Char} (h : Takes following c.toNat) :
    String.utf8EncodeChar c = leading following c.toNat :: continuations following c.toNat := by
  obtain ⟨hfew, hleast, hbeyond⟩ := h
  rw [String.utf8EncodeChar, show c.val.toNat = c.toNat from rfl]
  -- The encoder cuts the leading bits down to what their byte has room for, which is all of them.
  interval_cases following <;> simp only [leastTaking] at hleast hbeyond
  · rw [if_pos (by omega)]
    simp [leading, mark, continuations]
  · have hbits : c.toNat / 64 % 0x20 = c.toNat / 64 := Nat.mod_eq_of_lt (by omega)
    rw [if_neg (by omega), if_pos (by omega), hbits]
    simp [leading, mark, continuations, continuation]
  · have hbits : c.toNat / 4096 % 0x10 = c.toNat / 4096 := Nat.mod_eq_of_lt (by omega)
    rw [if_neg (by omega), if_neg (by omega), if_pos (by omega), hbits]
    simp [leading, mark, continuations, continuation]
  · have hbits : c.toNat / 262144 % 0x08 = c.toNat / 262144 := Nat.mod_eq_of_lt (by omega)
    rw [if_neg (by omega), if_neg (by omega), if_neg (by omega), hbits]
    simp [leading, mark, continuations, continuation]

/-! ## Leading bytes -/

/-- What a shape says of the leading byte that announces it, and of the values it leads to. -/
structure Leads (lead : UInt8) (s : Shape) : Prop where
  pos : 0 < s.following
  few : s.following ≤ 3
  le_low : 0x80 ≤ s.low.toNat
  high_le : s.high.toNat ≤ 0xBF
  mark_le : mark s.following ≤ lead.toNat
  lt_mark : lead.toNat < mark (s.following + 1)
  bits_eq : s.bits = lead.toNat - mark s.following
  /-- The range of the next byte leaves out just what is no character or takes fewer bytes. -/
  takes_iff : ∀ value, value / 64 ^ s.following = s.bits →
    (s.low.toNat ≤ value / 64 ^ (s.following - 1) % 64 + 0x80 ∧
        value / 64 ^ (s.following - 1) % 64 + 0x80 ≤ s.high.toNat ↔
      value.isValidChar ∧ Takes s.following value)

variable {lead byte : UInt8} {s : Shape}

/-- Each range of leading bytes announces the values whose leading bytes it holds. -/
theorem leads_of_shape (h : shape? lead = some s) : Leads lead s := by
  simp only [shape?, UInt8.lt_iff_toNat_lt, UInt8.le_iff_toNat_le, ← UInt8.toNat_inj,
    UInt8.reduceToNat] at h
  -- In every branch the shape is explicit, and what is left compares numbers.
  split_ifs at h <;> cases h <;> constructor <;>
    simp only [UInt8.reduceToNat, takes_iff, leastTaking, mark, Nat.isValidChar] <;> omega

/-- Marks tell bytes that announce a shape from small ones. -/
theorem le_mark (h : 0 < following) : 0x80 ≤ mark following := by
  match following, h with
  | 1, _ | 2, _ | 3, _ | _ + 4, _ => simp [mark]

/-- The bytes from 0xC2 to 0xF4 announce a shape. -/
theorem exists_shape (hlow : 0xC2 ≤ lead.toNat) (hhigh : lead.toNat ≤ 0xF4) :
    ∃ s, shape? lead = some s := by
  simp only [shape?, UInt8.lt_iff_toNat_lt, UInt8.le_iff_toNat_le, ← UInt8.toNat_inj,
    UInt8.reduceToNat]
  split_ifs <;> first | exact ⟨_, rfl⟩ | omega

/-- A mark tells how many bytes follow. -/
theorem eq_of_marked {a b value : Nat} (ha : a ≤ 3) (hb : b ≤ 3) (hlow : mark a ≤ value)
    (hhigh : value < mark (a + 1)) (hlow' : mark b ≤ value) (hhigh' : value < mark (b + 1)) :
    a = b := by
  interval_cases a <;> interval_cases b <;> simp only [mark] at * <;> omega

/-- The leading byte of a character announces the shape of the character. -/
theorem shape_of_takes {c : Char} (h : Takes (following + 1) c.toNat) :
    ∃ s, shape? (leading (following + 1) c.toNat) = some s ∧
      s.following = following + 1 ∧ s.bits = c.toNat / 64 ^ (following + 1) ∧
      s.low ≤ continuation following c.toNat ∧ continuation following c.toNat ≤ s.high := by
  have hlead := to_nat_leading h
  obtain ⟨hleast, hmost, hmark⟩ : 0xC2 ≤ (leading (following + 1) c.toNat).toNat ∧
      (leading (following + 1) c.toNat).toNat ≤ 0xF4 ∧
      (leading (following + 1) c.toNat).toNat < mark (following + 2) := by
    obtain ⟨hfew, hleast, hbeyond⟩ := h
    have hfew : following ≤ 2 := by omega
    rw [hlead]
    interval_cases following <;> simp only [leastTaking, mark] at * <;> omega
  obtain ⟨s, hs⟩ := exists_shape hleast hmost
  have hleads := leads_of_shape hs
  -- The mark fixes the number of bytes, and the rest of the byte the bits.
  have hfollowing : s.following = following + 1 :=
    eq_of_marked hleads.few h.few hleads.mark_le hleads.lt_mark
      (hlead ▸ Nat.le_add_left _ _) hmark
  have hbits : s.bits = c.toNat / 64 ^ (following + 1) := by
    rw [hleads.bits_eq, hfollowing, hlead, Nat.add_sub_cancel]
  have htakes := hleads.takes_iff c.toNat
  rw [hfollowing, Nat.add_sub_cancel] at htakes
  have hrange := (htakes hbits.symm).mpr ⟨c.valid, h⟩
  simp only [← to_nat_continuation, ← UInt8.le_iff_toNat_le] at hrange
  exact ⟨s, hs, hfollowing, hbits, hrange⟩

/-! ## From text to bytes -/

/-- The last bytes of a character complete it. -/
theorem foldl_continuations {behind : Nat} {low high : UInt8}
    (hlow : low ≤ continuation behind value) (hhigh : continuation behind value ≤ high)
    (pieces : List Piece) :
    (continuations (behind + 1) value).foldl step
        ⟨some ⟨behind + 1, low, high, value / 64 ^ (behind + 1)⟩, pieces⟩ =
      ⟨none, .char (Char.ofNat value) :: pieces⟩ := by
  -- Only the first of these bytes has a range of its own, so the range changes with the induction.
  induction behind generalizing low high with
  | zero =>
      have hbits := bits_continuation 0 value
      rw [Nat.pow_zero, Nat.div_one] at hbits
      rw [continuations, continuations, List.foldl_cons, List.foldl_nil, step]
      simp only [hlow, hhigh, hbits, decide_true, Bool.and_self, if_true, Nat.le_refl]
  | succ behind ih =>
      have hlow' : 0x80 ≤ continuation behind value := by
        simp [UInt8.le_iff_toNat_le, to_nat_continuation]
      have hhigh' : continuation behind value ≤ 0xBF := by
        simp only [UInt8.le_iff_toNat_le, to_nat_continuation, UInt8.reduceToNat]
        omega
      rw [continuations, List.foldl_cons, ← ih hlow' hhigh']
      simp [step, hlow, hhigh, bits_continuation (behind + 1) value]

/-- A small byte is a character. -/
theorem start_of_lt (h : byte.toNat < 0x80) (pieces : List Piece) :
    start pieces byte = ⟨none, .char (Char.ofNat byte.toNat) :: pieces⟩ :=
  if_pos (UInt8.lt_iff_toNat_lt.mpr h)

/-- A leading byte begins a character of its shape. -/
theorem start_of_shape (h : shape? byte = some s) (pieces : List Piece) :
    start pieces byte = ⟨some ⟨s.following, s.low, s.high, s.bits⟩, pieces⟩ := by
  have hleads := leads_of_shape h
  have hlarge : ¬byte < 0x80 := fun hsmall =>
    Nat.not_lt.mpr ((le_mark hleads.pos).trans hleads.mark_le) (UInt8.lt_iff_toNat_lt.mp hsmall)
  rw [start, if_neg hlarge, h]

/-- The bytes of a character are read as the character. -/
theorem foldl_encode_char (c : Char) (pieces : List Piece) :
    (String.utf8EncodeChar c).foldl step ⟨none, pieces⟩ = ⟨none, .char c :: pieces⟩ := by
  obtain ⟨following, h⟩ := exists_takes c
  rw [encode_char_eq h, List.foldl_cons]
  show (continuations following c.toNat).foldl step (start pieces (leading following c.toNat)) = _
  cases following with
  | zero =>
      have hlead : (leading 0 c.toNat).toNat = c.toNat := by
        rw [to_nat_leading h, Nat.pow_zero, Nat.div_one, mark, Nat.add_zero]
      have hsmall : (leading 0 c.toNat).toNat < 0x80 := by
        rw [hlead]
        exact h.lt_least
      rw [start_of_lt hsmall, hlead, Char.ofNat_toNat]
      rfl
  | succ following =>
      obtain ⟨s, hs, hfollowing, hbits, hlow, hhigh⟩ := shape_of_takes h
      rw [start_of_shape hs, hfollowing, hbits, foldl_continuations hlow hhigh, Char.ofNat_toNat]

/-- The bytes of characters are read as the characters. -/
theorem foldl_encode (chars : List Char) (pieces : List Piece) :
    (chars.flatMap String.utf8EncodeChar).foldl step ⟨none, pieces⟩ =
      ⟨none, (chars.map .char).reverse ++ pieces⟩ := by
  induction chars generalizing pieces with
  | nil => rfl
  | cons c chars ih =>
      rw [List.flatMap_cons, List.foldl_append, foldl_encode_char, ih]
      simp

/-- The pieces of the bytes of characters are the characters. -/
theorem pieces_encode (chars : List Char) :
    pieces (chars.flatMap String.utf8EncodeChar) = chars.map .char := by
  simp [pieces, foldl_encode]

/-! ## From bytes to text -/

/-- The bytes begin every character that the pending one can become. -/
structure Awaits (part : List UInt8) (p : Partial) : Prop where
  pos : 0 < p.missing
  le_low : 0x80 ≤ p.low.toNat
  high_le : p.high.toNat ≤ 0xBF
  spells : ∀ value, value / 64 ^ p.missing = p.bits →
    p.low ≤ continuation (p.missing - 1) value → continuation (p.missing - 1) value ≤ p.high →
    String.utf8EncodeChar (Char.ofNat value) = part ++ continuations p.missing value

/-- A leading byte begins every character of its shape. -/
theorem awaits_lead (h : shape? lead = some s) :
    Awaits [lead] ⟨s.following, s.low, s.high, s.bits⟩ := by
  have hleads := leads_of_shape h
  refine ⟨hleads.pos, hleads.le_low, hleads.high_le, fun value hbits hlow hhigh => ?_⟩
  rw [UInt8.le_iff_toNat_le, to_nat_continuation] at hlow hhigh
  obtain ⟨hvalid, htakes⟩ := (hleads.takes_iff value hbits).mp ⟨hlow, hhigh⟩
  have hvalue := to_nat_of_nat hvalid
  have hlead : leading s.following value = lead := by
    rw [← UInt8.toNat_inj, to_nat_leading htakes, show value / 64 ^ s.following = s.bits from hbits,
      hleads.bits_eq, Nat.sub_add_cancel hleads.mark_le]
  rw [encode_char_eq (hvalue.symm ▸ htakes), hvalue, hlead, List.singleton_append]

section Pending

variable {part : List UInt8} {p : Partial}

/-- A byte in the range is the one that carries its bits in the value. -/
theorem Awaits.byte_eq (h : Awaits part p) (hlow : p.low ≤ byte) (hhigh : byte ≤ p.high)
    (hvalue : value / 64 ^ (p.missing - 1) = p.bits * 64 + (byte.toNat - 0x80)) :
    value / 64 ^ p.missing = p.bits ∧ continuation (p.missing - 1) value = byte := by
  -- Within these bounds the byte is 0x80 and six bits.
  have hle := h.le_low.trans (UInt8.le_iff_toNat_le.mp hlow)
  have hge := (UInt8.le_iff_toNat_le.mp hhigh).trans h.high_le
  constructor
  · rw [← Nat.sub_add_cancel h.pos, Nat.pow_succ, ← Nat.div_div_eq_div_mul, hvalue]
    omega
  · rw [← UInt8.toNat_inj, to_nat_continuation, hvalue]
    omega

/-- The last byte of a character completes it. -/
theorem Awaits.last (h : Awaits part p) (hlow : p.low ≤ byte) (hhigh : byte ≤ p.high)
    (hlast : p.missing ≤ 1) :
    String.utf8EncodeChar (Char.ofNat (p.bits * 64 + (byte.toNat - 0x80))) = part ++ [byte] := by
  have hmissing : p.missing = 1 := Nat.le_antisymm hlast h.pos
  obtain ⟨hbits, hbyte⟩ := h.byte_eq hlow hhigh
    (show (p.bits * 64 + (byte.toNat - 0x80)) / 64 ^ (p.missing - 1) = _ by simp [hmissing])
  have hspells := h.spells _ hbits (hbyte.symm ▸ hlow) (hbyte.symm ▸ hhigh)
  rw [hmissing] at hbyte hspells
  rw [hspells, continuations, hbyte, continuations]

/-- A byte in the middle of a character leaves those that begin with it too. -/
theorem Awaits.next (h : Awaits part p) (hlow : p.low ≤ byte) (hhigh : byte ≤ p.high)
    (hmore : ¬p.missing ≤ 1) :
    Awaits (part ++ [byte])
      ⟨p.missing - 1, 0x80, 0xBF, p.bits * 64 + (byte.toNat - 0x80)⟩ where
  pos := Nat.sub_pos_of_lt (Nat.lt_of_not_le hmore)
  le_low := Nat.le_refl _
  high_le := Nat.le_refl _
  spells value hvalue _ _ := by
    obtain ⟨hbits, hbyte⟩ := h.byte_eq hlow hhigh hvalue
    have hcontinued : continuations p.missing value =
        byte :: continuations (p.missing - 1) value := by
      rw [← hbyte, ← continuations]
      exact congrArg (continuations · value) (Nat.sub_add_cancel h.pos).symm
    rw [h.spells value hbits (hbyte.symm ▸ hlow) (hbyte.symm ▸ hhigh), hcontinued,
      List.append_assoc, List.singleton_append]

end Pending

/-- What the state says of the bytes read so far. -/
inductive Reads : List UInt8 → State → Prop where
  | between (chars : List Char) :
      Reads (chars.flatMap String.utf8EncodeChar) ⟨none, (chars.map .char).reverse⟩
  | within (chars : List Char) {part : List UInt8} {p : Partial} (h : Awaits part p) :
      Reads (chars.flatMap String.utf8EncodeChar ++ part) ⟨some p, (chars.map .char).reverse⟩
  /-- Some byte is part of no character. -/
  | invalid (bytes : List UInt8) {state : State} (h : .invalid ∈ state.pieces) :
      Reads bytes state

/-- The characters read so far and one more. -/
theorem reads_char (chars : List Char) {c : Char} {bytes : List UInt8}
    (h : String.utf8EncodeChar c = bytes) :
    Reads (chars.flatMap String.utf8EncodeChar ++ bytes)
      ⟨none, .char c :: (chars.map .char).reverse⟩ := by
  have hreads := Reads.between (chars ++ [c])
  simpa [h] using hreads

/-- A small byte is all of its character. -/
theorem encode_char_of_lt (h : byte.toNat < 0x80) :
    String.utf8EncodeChar (Char.ofNat byte.toNat) = [byte] := by
  have hvalue : (Char.ofNat byte.toNat).toNat = byte.toNat := to_nat_of_nat (.inl (by omega))
  have htakes : Takes 0 (Char.ofNat byte.toNat).toNat := by
    rw [hvalue]
    exact ⟨by decide, Nat.zero_le _, h⟩
  rw [encode_char_eq htakes, hvalue]
  simp [leading, mark, continuations]

/-- A byte between characters is one, begins one, or is part of none. -/
theorem reads_start (chars : List Char) (byte : UInt8) :
    Reads (chars.flatMap String.utf8EncodeChar ++ [byte])
      (start (chars.map .char).reverse byte) := by
  by_cases hsmall : byte.toNat < 0x80
  · rw [start_of_lt hsmall]
    exact reads_char chars (encode_char_of_lt hsmall)
  · cases hshape : shape? byte with
    | some s =>
        rw [start_of_shape hshape]
        exact .within chars (awaits_lead hshape)
    | none =>
        rw [start, if_neg fun hlt => hsmall (UInt8.lt_iff_toNat_lt.mp hlt), hshape]
        exact .invalid _ List.mem_cons_self

/-- What is invalid stays so at a byte between characters. -/
theorem mem_start {pieces : List Piece} (h : .invalid ∈ pieces) :
    .invalid ∈ (start pieces byte).pieces := by
  unfold start
  repeat' split
  all_goals simp [h]

/-- What is invalid stays so. -/
theorem mem_step {state : State} (h : .invalid ∈ state.pieces) :
    .invalid ∈ (step state byte).pieces := by
  unfold step
  split
  · exact mem_start h
  · dsimp only
    split
    · split
      · exact List.mem_cons_of_mem _ h
      · exact h
    · exact mem_start (List.mem_cons_of_mem _ h)

/-- One more byte keeps the state true to the bytes. -/
theorem reads_step {bytes : List UInt8} {state : State} (h : Reads bytes state) (byte : UInt8) :
    Reads (bytes ++ [byte]) (step state byte) := by
  cases h with
  | between chars => exact reads_start chars byte
  | invalid _ h => exact .invalid _ (mem_step h)
  | within chars h =>
      rw [step]
      dsimp only
      split
      · case isTrue hrange =>
        simp only [Bool.and_eq_true, decide_eq_true_eq] at hrange
        obtain ⟨hlow, hhigh⟩ := hrange
        rw [List.append_assoc]
        split
        · case isTrue hlast => exact reads_char chars (h.last hlow hhigh hlast)
        · case isFalse hmore => exact .within chars (h.next hlow hhigh hmore)
      · -- The byte ends the pending character and is read again from the start.
        exact .invalid _ (mem_start List.mem_cons_self)

/-- The state after all bytes is true to them. -/
theorem reads_run (bytes : List UInt8) : Reads bytes (bytes.foldl step ⟨none, []⟩) := by
  induction bytes using List.reverseRecOn with
  | nil => exact .between []
  | append_singleton bytes byte ih =>
      rw [List.foldl_append]
      exact reads_step ih byte

/-- The pieces of bytes are the characters that the bytes encode, or one is invalid. -/
theorem pieces_cases (bytes : List UInt8) :
    (∃ chars : List Char, chars.flatMap String.utf8EncodeChar = bytes ∧
        pieces bytes = chars.map .char) ∨
      .invalid ∈ pieces bytes := by
  have hreads := reads_run bytes
  unfold pieces
  dsimp only
  generalize bytes.foldl step ⟨none, []⟩ = last at hreads ⊢
  cases hreads with
  | between chars => exact .inl ⟨chars, rfl, by simp⟩
  | within chars h =>
      -- The end of the bytes cuts a character short.
      exact .inr (by simp)
  | invalid bytes h =>
      refine .inr (List.mem_reverse.mpr ?_)
      split
      · exact List.mem_cons_self
      · exact h

/-! ## Texts -/

/-- Listing bytes from an index on puts them behind those listed before. -/
theorem to_list_loop_eq (bytes : ByteArray) (i : Nat) (before : List UInt8) :
    ByteArray.toList.loop bytes i before = before.reverse ++ bytes.data.toList.drop i := by
  fun_induction ByteArray.toList.loop bytes i before with
  | case1 i before hlt ih =>
      have hget : bytes.get! i = bytes.data.toList[i] := by
        simp [ByteArray.get!, hlt]
      rw [ih, List.drop_eq_getElem_cons (i := i) hlt, List.reverse_cons, hget]
      simp
  | case2 i before hle =>
      rw [List.drop_eq_nil_of_le (Nat.le_of_not_lt hle), List.append_nil]

/-- The bytes of a text are those of its characters. -/
theorem encode_eq (text : String) : encode text = text.toList.flatMap String.utf8EncodeChar := by
  rw [encode, String.toUTF8_eq_toByteArray, ← String.utf8Encode_toList, ByteArray.toList,
    to_list_loop_eq, List.utf8Encode, List.toList_data_toByteArray]
  rfl

/-- Characters are valid. -/
theorem mapM_char (chars : List Char) : (chars.map Piece.char).mapM Piece.char? = some chars := by
  induction chars with
  | nil => rfl
  | cons c chars ih => simp [Piece.char?, ih]

/-- An invalid piece is no character. -/
theorem mapM_invalid {pieces : List Piece} (h : .invalid ∈ pieces) :
    pieces.mapM Piece.char? = none := by
  induction pieces with
  | nil => cases h
  | cons piece pieces ih =>
      cases h with
      | head => rfl
      | tail _ h =>
          rw [List.mapM_cons, ih h]
          cases piece <;> rfl

/-- The bytes that are decoded to a text are its own. -/
theorem decode_eq_some_iff {bytes : List UInt8} {text : String} :
    decode? bytes = some text ↔ encode text = bytes := by
  constructor
  · intro h
    rw [decode?] at h
    rcases pieces_cases bytes with ⟨chars, hbytes, hpieces⟩ | hinvalid
    · rw [hpieces, mapM_char, Option.map_some, Option.some.injEq] at h
      rw [← h, encode_eq, String.toList_ofList, hbytes]
    · rw [mapM_invalid hinvalid] at h
      cases h
  · rintro rfl
    rw [decode?, encode_eq, pieces_encode, mapM_char, Option.map_some, String.ofList_toList]

/-- In the bytes of a text nothing is replaced. -/
theorem decode_lossy_encode (text : String) : decodeLossy (encode text) = text := by
  have hshown : Piece.shown ∘ Piece.char = id := rfl
  rw [decodeLossy, encode_eq, pieces_encode, List.map_map, hshown, List.map_id,
    String.ofList_toList]

end CallProfile.Text.Utf8
