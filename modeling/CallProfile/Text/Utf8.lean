/-!
# Decoding UTF-8

Bytes become text in two ways. `decode?` refuses bytes that are not UTF-8. `decodeLossy` always
succeeds: each maximal part of the bytes that no character can continue becomes one U+FFFD.
-/

namespace CallProfile.Text.Utf8

/-- The bytes that may follow a leading byte: how many there are, and the range of the first. -/
structure Shape where
  following : Nat
  low : UInt8
  high : UInt8
  bits : Nat

/-- What a leading byte of a longer form announces, or nothing for a byte that leads none. The
ranges leave out overlong forms, surrogates and values above U+10FFFF. -/
def shape? (byte : UInt8) : Option Shape :=
  if byte < 0xC2 then none
  else if byte ≤ 0xDF then some ⟨1, 0x80, 0xBF, byte.toNat - 0xC0⟩
  else if byte = 0xE0 then some ⟨2, 0xA0, 0xBF, 0⟩
  else if byte = 0xED then some ⟨2, 0x80, 0x9F, 0xD⟩
  else if byte ≤ 0xEF then some ⟨2, 0x80, 0xBF, byte.toNat - 0xE0⟩
  else if byte = 0xF0 then some ⟨3, 0x90, 0xBF, 0⟩
  else if byte ≤ 0xF3 then some ⟨3, 0x80, 0xBF, byte.toNat - 0xF0⟩
  else if byte = 0xF4 then some ⟨3, 0x80, 0x8F, 4⟩
  else none

/-- A character being decoded: how many bytes it still needs, the range of the next one, and the
bits read so far. -/
structure Partial where
  missing : Nat
  low : UInt8
  high : UInt8
  bits : Nat

/-- One decoded item: a character, or bytes that are part of none. -/
inductive Piece where
  | char (c : Char)
  | invalid

/-- The state between bytes: what is being decoded, and the pieces so far, the last one first. -/
structure State where
  pending : Option Partial
  pieces : List Piece

/-- Begin a character with a byte, outside any other character. -/
def start (pieces : List Piece) (byte : UInt8) : State :=
  if byte < 0x80 then ⟨none, .char (Char.ofNat byte.toNat) :: pieces⟩
  else
    match shape? byte with
    | some s => ⟨some ⟨s.following, s.low, s.high, s.bits⟩, pieces⟩
    | none => ⟨none, .invalid :: pieces⟩

/-- Read one byte. A byte that cannot continue the pending character ends it as invalid and is read
again from the start. -/
def step (state : State) (byte : UInt8) : State :=
  match state.pending with
  | none => start state.pieces byte
  | some p =>
    if p.low ≤ byte && byte ≤ p.high then
      let bits := p.bits * 64 + (byte.toNat - 0x80)
      if p.missing ≤ 1 then ⟨none, .char (Char.ofNat bits) :: state.pieces⟩
      else ⟨some ⟨p.missing - 1, 0x80, 0xBF, bits⟩, state.pieces⟩
    else start (.invalid :: state.pieces) byte

/-- All pieces of a byte sequence. A character cut short by the end is invalid. -/
def pieces (bytes : List UInt8) : List Piece :=
  let last := bytes.foldl step ⟨none, []⟩
  (if last.pending.isSome then .invalid :: last.pieces else last.pieces).reverse

/-- The character shown for a piece. -/
def Piece.shown : Piece → Char
  | .char c => c
  | .invalid => Char.ofNat 0xFFFD

/-- The text of a byte sequence, with U+FFFD for what is not UTF-8. -/
def decodeLossy (bytes : List UInt8) : String :=
  String.ofList ((pieces bytes).map Piece.shown)

/-- The character of a valid piece. -/
def Piece.char? : Piece → Option Char
  | .char c => some c
  | .invalid => none

/-- The text of a byte sequence that is UTF-8 throughout. -/
def decode? (bytes : List UInt8) : Option String :=
  ((pieces bytes).mapM Piece.char?).map String.ofList

/-- The bytes of a text. -/
def encode (text : String) : List UInt8 :=
  text.toUTF8.toList

end CallProfile.Text.Utf8
