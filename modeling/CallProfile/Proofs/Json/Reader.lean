import CallProfile.Json.Reader
import CallProfile.Proofs.Json.Grammar
import Mathlib.Data.List.DropRight

/-!
# Reading what the grammar spells

The reader accepts every document of the grammar and gives its value (`read_of_document`), so that a
text spells at most one value.
-/

namespace CallProfile.Json

/-! ## Texts -/

/-- A digit of base sixteen is read as its value. -/
theorem hex_value_of_mem {c : Char} {n : Nat} (h : (c, n) ∈ hexDigits) : hexValue? c = some n := by
  have hall : ∀ digit ∈ hexDigits, hexValue? digit.1 = some digit.2 := by decide
  exact hall (c, n) h

/-- Four digits of base sixteen are read as their value. -/
theorem hex_unit_of_spelled {digits : List Char} {n : Nat} (h : HexUnit digits n) :
    ∃ a b c d, digits = [a, b, c, d] ∧ hexUnit? a b c d = some n := by
  obtain ⟨a, b, c, d, i, j, k, l, ha, hb, hc, hd⟩ := h
  refine ⟨a, b, c, d, rfl, ?_⟩
  simp only [hexUnit?, hex_value_of_mem ha, hex_value_of_mem hb, hex_value_of_mem hc,
    hex_value_of_mem hd, bind, Option.bind_some, pure, Option.some.injEq]
  omega

/-- A quote ends the text. -/
theorem read_text_quote (rest : List Char) : readText ('"' :: rest) = some ([], rest) := by
  rw [readText]

/-- A character that needs no escape stands for itself. -/
theorem read_text_plain {c : Char} (hc : 0x20 ≤ c.toNat) (hquote : c ≠ '"') (hslash : c ≠ '\\')
    (rest : List Char) : readText (c :: rest) = prepend c (readText rest) := by
  rw [readText]
  · rw [if_neg (by omega)]
  all_goals simp [hquote, hslash]

/-- An escape of one letter stands for its character. -/
theorem read_text_letter {letter c : Char} (h : (letter, c) ∈ letters) (rest : List Char) :
    readText ('\\' :: letter :: rest) = prepend c (readText rest) := by
  have hall : ∀ pair ∈ letters, simpleEscape? pair.1 = some pair.2 ∧ pair.1 ≠ 'u' := by decide
  obtain ⟨hescape, hne⟩ := hall (letter, c) h
  rw [readText]
  · simp only at hescape
    rw [hescape]
  all_goals simp [hne]

/-- Where an escape by number begins, four digits of base sixteen follow. The reader looks that far
ahead for the second half of a pair. -/
def UnitsWhole (chars : List Char) : Prop :=
  ∀ a b c d rest, chars = '\\' :: 'u' :: a :: b :: c :: d :: rest → (hexUnit? a b c d).isSome = true

/-- An escape by number stands for its character, whatever escape follows it. -/
theorem read_text_unit {a b c d : Char} {unit : Nat} (h : hexUnit? a b c d = some unit)
    (hscalar : unit < 0xD800 ∨ 0xE000 ≤ unit) {rest : List Char} (hrest : UnitsWhole rest) :
    readText ('\\' :: 'u' :: a :: b :: c :: d :: rest) =
      prepend (Char.ofNat unit) (readText rest) := by
  by_cases hnext : ∃ e f g h tail, rest = '\\' :: 'u' :: e :: f :: g :: h :: tail
  · obtain ⟨e, f, g, h', tail, rfl⟩ := hnext
    obtain ⟨low, hlow⟩ := Option.isSome_iff_exists.mp (hrest e f g h' tail rfl)
    rw [readText, h, hlow]
    have hhigh : ¬ (0xD800 ≤ unit ∧ unit < 0xDC00) := by omega
    have hhalf : ¬ (0xDC00 ≤ unit ∧ unit < 0xE000) := by omega
    simp [hhigh, hhalf]
  · rw [readText]
    · rw [h]
      have hsurrogate : ¬ (0xD800 ≤ unit ∧ unit < 0xE000) := by omega
      simp [hsurrogate]
    · intro e f g h' tail htail
      exact hnext ⟨e, f, g, h', tail, htail⟩

/-- Two escapes by number that are the halves of a pair stand for one character. -/
theorem read_text_pair {a b c d e f g h : Char} {high low : Nat}
    (hfirst : hexUnit? a b c d = some (0xD800 + high))
    (hsecond : hexUnit? e f g h = some (0xDC00 + low)) (hhigh : high < 0x400) (hlow : low < 0x400)
    (rest : List Char) :
    readText ('\\' :: 'u' :: a :: b :: c :: d :: '\\' :: 'u' :: e :: f :: g :: h :: rest) =
      prepend (Char.ofNat (0x10000 + high * 0x400 + low)) (readText rest) := by
  rw [readText, hfirst, hsecond]
  have hone : 0xD800 ≤ 0xD800 + high ∧ 0xD800 + high < 0xDC00 := by omega
  have htwo : 0xDC00 ≤ 0xDC00 + low ∧ 0xDC00 + low < 0xE000 := by omega
  simp [hone, htwo, paired]

/-- In the spelling of a text, every escape by number is whole. -/
theorem units_whole_of_spelled {text chars : List Char} (h : SpellsText text chars)
    (rest : List Char) : UnitsWhole (chars ++ '"' :: rest) := by
  intro a b c d tail hshape
  cases h with
  | nil => simp at hshape
  | plain first text chars _ _ hslash _ => exact absurd (List.cons.inj hshape).1 hslash
  | letter letter first text chars hletter _ =>
      have hall : ∀ pair ∈ letters, pair.1 ≠ 'u' := by decide
      simp only [List.cons_append, List.cons.injEq, true_and] at hshape
      exact absurd hshape.1 (hall _ hletter)
  | unit first digits text chars hunit _ =>
      obtain ⟨i, j, k, l, rfl, hvalue⟩ := hex_unit_of_spelled hunit
      simp only [List.cons_append, List.cons.injEq, true_and] at hshape
      obtain ⟨rfl, rfl, rfl, rfl, -⟩ := hshape
      simp [hvalue]
  | pair first high low halves second text chars hfirst =>
      obtain ⟨i, j, k, l, rfl, hvalue⟩ := hex_unit_of_spelled hfirst
      simp only [List.cons_append, List.cons.injEq, true_and] at hshape
      obtain ⟨rfl, rfl, rfl, rfl, -⟩ := hshape
      simp [hvalue]

/-- The spelling of a text up to its quote is read as the text. -/
theorem read_text_of_spelled {text chars : List Char} (h : SpellsText text chars)
    (rest : List Char) : readText (chars ++ '"' :: rest) = some (text, rest) := by
  induction h with
  | nil => exact read_text_quote rest
  | plain c text chars hc hquote hslash _ ih =>
      rw [List.cons_append, read_text_plain hc hquote hslash, ih, prepend]
  | letter letter c text chars hletter _ ih =>
      rw [List.cons_append, List.cons_append, read_text_letter hletter, ih, prepend]
  | unit c digits text chars hunit htext ih =>
      obtain ⟨i, j, k, l, rfl, hvalue⟩ := hex_unit_of_spelled hunit
      -- A character is no half of a pair, so the escape behind this one stands for itself.
      have hscalar : c.toNat < 0xD800 ∨ 0xE000 ≤ c.toNat := by
        have hvalid : c.toNat < 0xD800 ∨ 0xDFFF < c.toNat ∧ c.toNat < 0x110000 := c.valid
        omega
      simp only [List.cons_append, List.nil_append]
      rw [read_text_unit hvalue hscalar (units_whole_of_spelled htext rest), ih, prepend,
        Char.ofNat_toNat]
  | pair c high low first second text chars hfirst hsecond hhigh hlow hc _ ih =>
      obtain ⟨i, j, k, l, rfl, hvalue⟩ := hex_unit_of_spelled hfirst
      obtain ⟨m, n, o, p, rfl, hother⟩ := hex_unit_of_spelled hsecond
      simp only [List.cons_append, List.nil_append]
      rw [read_text_pair hvalue hother hhigh hlow, ih, prepend, ← hc, Char.ofNat_toNat]

/-! ## White space -/

/-- White space is skipped up to what is none. -/
theorem skip_space_of_gap {gap rest : List Char} (hgap : Gap gap)
    (hrest : ∀ c ∈ rest.head?, isSpace c = false) : skipSpace (gap ++ rest) = rest := by
  have hspace : ∀ c ∈ gap, isSpace c = true := by
    intro c hc
    simpa [isSpace, or_assoc] using hgap c hc
  rw [skipSpace, List.dropWhile_append_of_pos hspace]
  cases rest with
  | nil => rfl
  | cons c rest => rw [List.dropWhile_cons_of_neg (by simpa using hrest c rfl)]

/-! ## Numbers -/

/-- What follows the literal of a number and cannot belong to it. -/
def Stops (rest : List Char) : Prop :=
  ∀ c ∈ rest.head?, c.isDigit = false ∧ c ∉ ['.', 'e', 'E']

/-- Digits are taken up to what is none. -/
theorem take_digits_append {digits rest : List Char} (hdigits : Digits digits)
    (hrest : ∀ c ∈ rest.head?, c.isDigit = false) :
    takeDigits (digits ++ rest) = (digits, rest) := by
  rw [takeDigits, List.takeWhile_append_of_pos hdigits.2, List.dropWhile_append_of_pos hdigits.2]
  cases rest with
  | nil => simp
  | cons c rest => simp [hrest c rfl]

/-- The whole part of a number is taken up to what is no digit. -/
theorem take_whole_append {whole rest : List Char} (hwhole : Whole whole)
    (hrest : ∀ c ∈ rest.head?, c.isDigit = false) :
    takeWhole (whole ++ rest) = some (whole, rest) := by
  rcases hwhole with rfl | ⟨hdigits, hzero⟩
  · rfl
  · obtain ⟨first, tail, rfl⟩ := List.exists_cons_of_ne_nil hdigits.1
    rw [takeWhole, take_digits_append hdigits hrest]
    intro other hother
    exact hzero (by simpa using (List.cons.inj hother).1)

/-- The fraction of a number is taken up to what is neither a digit nor a point. -/
theorem take_fraction_append {fraction rest : List Char} (hfraction : Fraction fraction)
    (hrest : ∀ c ∈ rest.head?, c.isDigit = false ∧ c ≠ '.') :
    takeFraction (fraction ++ rest) = some (fraction, rest) := by
  rcases hfraction with rfl | ⟨digits, rfl, hdigits⟩
  · rw [List.nil_append, takeFraction]
    intro other hother
    exact (hrest '.' (by simp [hother])).2 rfl
  · rw [List.cons_append, takeFraction, take_digits_append hdigits fun c hc => (hrest c hc).1]
    obtain ⟨first, tail, rfl⟩ := List.exists_cons_of_ne_nil hdigits.1
    rfl

/-- The sign of an exponent is taken up to its digits. -/
theorem take_sign_append {sign digits : List Char} (hsign : sign ∈ [[], ['+'], ['-']])
    (hdigits : Digits digits) (rest : List Char) :
    takeSign (sign ++ digits ++ rest) = (sign, digits ++ rest) := by
  obtain ⟨first, tail, rfl⟩ := List.exists_cons_of_ne_nil hdigits.1
  simp only [List.mem_cons, List.not_mem_nil, or_false] at hsign
  rcases hsign with rfl | rfl | rfl
  · have hfirst : first.isDigit = true := hdigits.2 first List.mem_cons_self
    rw [List.nil_append, List.cons_append, takeSign]
    all_goals
      intro other hother
      rw [(List.cons.inj hother).1] at hfirst
      exact absurd hfirst (by decide)
  · rfl
  · rfl

/-- The power of ten of a number is taken up to what cannot belong to a number. -/
theorem take_exponent_append {power rest : List Char} (hpower : Power power) (hrest : Stops rest) :
    takeExponent (power ++ rest) = some (power, rest) := by
  rcases hpower with rfl | ⟨mark, sign, digits, rfl, hmark, hsign, hdigits⟩
  · cases rest with
    | nil => rfl
    | cons c rest =>
        have hc := (hrest c rfl).2
        simp only [List.mem_cons, List.not_mem_nil, or_false, not_or] at hc
        simp [takeExponent, hc.2]
  · have hmark' : (mark = 'e' || mark = 'E') = true := by simpa using hmark
    have htaken := take_digits_append hdigits fun c hc => (hrest c hc).1
    rw [List.cons_append, List.cons_append, takeExponent, if_pos hmark',
      take_sign_append hsign hdigits]
    simp only [htaken]
    obtain ⟨first, tail, rfl⟩ := List.exists_cons_of_ne_nil hdigits.1
    rfl

/-- What follows the fraction of a number is neither a digit nor a point. -/
theorem head_power_append {power rest : List Char} (hpower : Power power) (hrest : Stops rest) :
    ∀ c ∈ (power ++ rest).head?, c.isDigit = false ∧ c ≠ '.' := by
  intro c hc
  rcases hpower with rfl | ⟨mark, sign, digits, rfl, hmark, -, -⟩
  · have hstop := hrest c hc
    exact ⟨hstop.1, fun hpoint => hstop.2 (by simp [hpoint])⟩
  · obtain rfl : mark = c := by simpa using hc
    have hall : ∀ mark ∈ ['e', 'E'], mark.isDigit = false ∧ mark ≠ '.' := by simp
    exact hall mark hmark

/-- What follows the whole part of a number is no digit. -/
theorem head_fraction_append {fraction power rest : List Char} (hfraction : Fraction fraction)
    (hpower : Power power) (hrest : Stops rest) :
    ∀ c ∈ (fraction ++ (power ++ rest)).head?, c.isDigit = false := by
  intro c hc
  rcases hfraction with rfl | ⟨digits, rfl, -⟩
  · exact (head_power_append hpower hrest c hc).1
  · obtain rfl : '.' = c := by simpa using hc
    decide

/-- The whole part of a number begins with a digit. -/
theorem whole_head {whole : List Char} (h : Whole whole) :
    ∃ c tail, whole = c :: tail ∧ c.isDigit = true := by
  rcases h with rfl | ⟨hdigits, -⟩
  · exact ⟨'0', [], rfl, by decide⟩
  · obtain ⟨c, tail, rfl⟩ := List.exists_cons_of_ne_nil hdigits.1
    exact ⟨c, tail, rfl, hdigits.2 c List.mem_cons_self⟩

/-- The first character of a number is a digit or the sign. -/
theorem literal_head {literal : List Char} (h : Literal literal) :
    ∃ c tail, literal = c :: tail ∧ (c = '-' ∨ c.isDigit = true) := by
  obtain ⟨sign, whole, fraction, power, hsign, hwhole, -, -⟩ := h
  obtain ⟨c, tail, rfl, hc⟩ := whole_head hwhole
  simp only [List.mem_cons, List.not_mem_nil, or_false] at hsign
  rcases hsign with rfl | rfl
  · exact ⟨c, tail ++ fraction ++ power, by simp, Or.inr hc⟩
  · exact ⟨'-', c :: tail ++ fraction ++ power, by simp, Or.inl rfl⟩

/-- The literal of a number is read as it stands. -/
theorem read_number_of_literal {literal rest : List Char} (h : Literal literal)
    (hrest : Stops rest) : readNumber (literal ++ rest) = some (literal, rest) := by
  obtain ⟨sign, whole, fraction, power, hsign, hwhole, hfraction, hpower⟩ := h
  have hone := take_whole_append hwhole (head_fraction_append hfraction hpower hrest)
  have htwo := take_fraction_append hfraction (head_power_append hpower hrest)
  have hthree := take_exponent_append hpower hrest
  simp only [List.mem_cons, List.not_mem_nil, or_false] at hsign
  rcases hsign with rfl | rfl
  · simp only [List.nil_append, List.append_assoc]
    rw [readNumber]
    · simp [hone, htwo, hthree]
    · intro tail hminus
      obtain ⟨c, behind, rfl, hc⟩ := whole_head hwhole
      rw [(List.cons.inj hminus).1] at hc
      exact absurd hc (by decide)
  · simp [readNumber, hone, htwo, hthree]

/-! ## Values

Every bracket and every comma is a character, and reading one takes at most two steps of fuel. So
fuel for twice the length of a value is enough to read it, whatever follows.
-/

/-- What may stand behind a value: white space, and what ends an item. -/
def marks : List Char :=
  [' ', '\t', '\n', '\r', ',', ':', ']', '\x7d']

/-- The first character of a value is no white space and ends no item. -/
theorem spelled_head {value : Json} {chars : List Char} (h : Spells value chars) :
    ∃ c tail, chars = c :: tail ∧ c ∉ marks := by
  cases h with
  | number literal hliteral =>
      obtain ⟨c, tail, hchars, hc⟩ := literal_head hliteral
      have hall : ∀ mark ∈ marks, ¬ (mark = '-' ∨ mark.isDigit = true) := by simp [marks]
      exact ⟨c, tail, hchars, fun hmem => hall c hmem hc⟩
  | string text chars hstring =>
      cases hstring with
      | intro inner hinner => exact ⟨'"', inner ++ ['"'], rfl, by decide⟩
  | null | true | false | emptyArray | array | emptyObject | object =>
      exact ⟨_, _, rfl, by decide⟩

/-- A literal is read as a number, since no other value begins with a digit or a sign. -/
theorem read_value_of_literal {literal rest : List Char} (h : Literal literal) (hrest : Stops rest)
    (fuel : Nat) :
    readValue (fuel + 1) (literal ++ rest) = some (.number (String.ofList literal), rest) := by
  have hread := read_number_of_literal h hrest
  obtain ⟨c, tail, rfl, hc⟩ := literal_head h
  have hall : ∀ mark ∈ ['"', '[', '\x7b', 'n', 't', 'f'], ¬ (mark = '-' ∨ mark.isDigit = true) := by
    simp
  rw [List.cons_append] at hread ⊢
  rw [readValue]
  · rw [hread, Option.map_some]
  all_goals
    intro other hother
    rw [(List.cons.inj hother).1] at hc
    exact hall _ (by decide) hc

/-- White space is skipped up to a character that is none. -/
theorem skip_space_of_mark {gap : List Char} (hgap : Gap gap) {c : Char} (hc : isSpace c = false)
    (rest : List Char) : skipSpace (gap ++ c :: rest) = c :: rest :=
  skip_space_of_gap hgap fun first hfirst => by
    obtain rfl : c = first := by simpa using hfirst
    exact hc

/-- White space is skipped once. -/
theorem skip_space_idempotent (chars : List Char) :
    skipSpace (skipSpace chars) = skipSpace chars :=
  List.dropWhile_idempotent isSpace chars

/-- A number ends before white space and before what ends an item. -/
theorem stops_of_marks {rest : List Char} (h : ∀ c ∈ rest.head?, c ∈ marks) : Stops rest := by
  have hall : ∀ mark ∈ marks, mark.isDigit = false ∧ mark ∉ ['.', 'e', 'E'] := by simp [marks]
  exact fun c hc => hall c (h c hc)

/-- White space is among the marks. -/
theorem mem_marks_of_gap {gap : List Char} (hgap : Gap gap) {c : Char} (hc : c ∈ gap) :
    c ∈ marks :=
  List.mem_append_left [',', ':', ']', '\x7d'] (hgap c hc)

/-- A number ends before a mark, with white space between them or not. -/
theorem stops_of_gap {gap : List Char} (hgap : Gap gap) {c : Char} (hc : c ∈ marks)
    (rest : List Char) : Stops (gap ++ c :: rest) := by
  refine stops_of_marks fun first hfirst => ?_
  cases gap with
  | nil =>
      obtain rfl : c = first := by simpa using hfirst
      exact hc
  | cons space gap =>
      obtain rfl : space = first := by simpa using hfirst
      exact mem_marks_of_gap hgap List.mem_cons_self

/-- White space in front of a value is skipped. -/
theorem skip_space_of_spells {gap : List Char} (hgap : Gap gap) {value : Json} {chars : List Char}
    (h : Spells value chars) (rest : List Char) :
    skipSpace (gap ++ (chars ++ rest)) = chars ++ rest := by
  obtain ⟨c, tail, rfl, hc⟩ := spelled_head h
  have hspace : isSpace c = false := by
    simp only [marks, List.mem_cons, not_or] at hc
    simp [isSpace, hc]
  exact skip_space_of_mark hgap hspace (tail ++ rest)

/-- A text between quotes begins with a quote and is read from there. -/
theorem read_text_of_string {text : String} {chars : List Char} (h : SpellsString text chars)
    (rest : List Char) : ∃ tail, chars ++ rest = '"' :: tail ∧
      readText tail = some (text.toList, rest) := by
  cases h with
  | intro inner hinner =>
      refine ⟨inner ++ '"' :: rest, by simp, read_text_of_spelled hinner rest⟩

/-- Items are read from their first character on. -/
theorem read_items_skip_space (fuel : Nat) (chars : List Char) :
    readItems fuel (skipSpace chars) = readItems fuel chars := by
  cases fuel with
  | zero => rfl
  | succ fuel => rw [readItems, readItems, skip_space_idempotent]

/-- Fields are read from their first character on. -/
theorem read_fields_skip_space (fuel : Nat) (chars : List Char) :
    readFields fuel (skipSpace chars) = readFields fuel chars := by
  cases fuel with
  | zero => rfl
  | succ fuel => rw [readFields, readFields, skip_space_idempotent]

/-- The first item of an array is no closing bracket. -/
theorem items_head {items : List Json} {chars : List Char} (h : SpellsItems items chars)
    (rest : List Char) : ∃ c tail, skipSpace (chars ++ rest) = c :: tail ∧ c ≠ ']' := by
  have hall : ∀ {gap chars : List Char} {item : Json}, Gap gap → Spells item chars →
      ∀ rest, ∃ c tail, skipSpace (gap ++ (chars ++ rest)) = c :: tail ∧ c ≠ ']' := by
    intro gap chars item hgap hitem rest
    have hskip := skip_space_of_spells hgap hitem rest
    obtain ⟨c, tail, rfl, hc⟩ := spelled_head hitem
    refine ⟨c, tail ++ rest, hskip, ?_⟩
    rintro rfl
    exact hc (by decide)
  cases h with
  | last before item chars after hbefore hitem =>
      simpa only [List.append_assoc] using hall hbefore hitem (after ++ rest)
  | more before item chars after items tail hbefore hitem =>
      simpa only [List.append_assoc] using hall hbefore hitem (after ++ (',' :: tail ++ rest))

/-- The first field of an object begins with a quote. -/
theorem fields_head {fields : List (String × Json)} {chars : List Char}
    (h : SpellsFields fields chars) (rest : List Char) :
    ∃ tail, skipSpace (chars ++ rest) = '"' :: tail := by
  have hall : ∀ {field : String × Json} {chars : List Char}, SpellsField field chars →
      ∀ rest, ∃ tail, skipSpace (chars ++ rest) = '"' :: tail := by
    intro field chars hfield rest
    cases hfield with
    | intro before key name behind ahead value chars after hbefore hname =>
        obtain ⟨tail, htail, -⟩ :=
          read_text_of_string hname (behind ++ ':' :: ahead ++ chars ++ after ++ rest)
        refine ⟨tail, ?_⟩
        simp only [List.append_assoc, List.cons_append] at htail ⊢
        rw [htail, skip_space_of_mark hbefore (by decide)]
  cases h with
  | last field chars hfield => exact hall hfield rest
  | more field chars fields tail hfield =>
      simpa only [List.append_assoc] using hall hfield (',' :: tail ++ rest)

/-- What is read behind the value of a field: more fields after a comma, or the end of the
object. -/
def readFurther (fuel : Nat) (field : String × Json) :
    List Char → Option (List (String × Json) × List Char)
  | ',' :: rest => (readFields fuel rest).map fun (fields, rest) => (field :: fields, rest)
  | '\x7d' :: rest => some ([field], rest)
  | _ => none

/-- The fields of an object are read over the first of them, up to what stands behind its value. -/
theorem read_fields_of_field {before name behind ahead chars after : List Char} {key : String}
    {value : Json} (hbefore : Gap before) (hname : SpellsString key name) (hbehind : Gap behind)
    (hahead : Gap ahead) (hvalue : Spells value chars) (hafter : Gap after) {c : Char}
    (hc : isSpace c = false) (fuel : Nat) (rest : List Char)
    (hread : readValue fuel (chars ++ (after ++ c :: rest)) = some (value, after ++ c :: rest)) :
    readFields (fuel + 1)
        (before ++ name ++ behind ++ ':' :: ahead ++ chars ++ after ++ c :: rest) =
      readFurther fuel (key, value) (c :: rest) := by
  obtain ⟨tail, hquote, htext⟩ :=
    read_text_of_string hname (behind ++ ':' :: (ahead ++ (chars ++ (after ++ c :: rest))))
  simp only [List.append_assoc, List.cons_append]
  rw [hquote, readFields, skip_space_of_mark hbefore (by decide)]
  simp only [htext, skip_space_of_mark hbehind (show isSpace ':' = false by decide),
    skip_space_of_spells hahead hvalue, hread, skip_space_of_mark hafter hc, String.ofList_toList]
  rfl

mutual

/-- A spelled value is read with fuel for twice its length. -/
theorem read_value_of_spells {value : Json} {chars : List Char} (h : Spells value chars)
    (fuel : Nat) (rest : List Char) (hfuel : 2 * chars.length < fuel) (hrest : Stops rest) :
    readValue fuel (chars ++ rest) = some (value, rest) := by
  obtain ⟨fuel, rfl⟩ := Nat.exists_eq_succ_of_ne_zero (Nat.ne_of_gt (Nat.zero_lt_of_lt hfuel))
  cases h with
  | null => rfl
  | true => rfl
  | false => rfl
  | number literal hliteral =>
      rw [Nat.succ_eq_add_one, read_value_of_literal hliteral hrest, String.ofList_toList]
  | string text chars hstring =>
      obtain ⟨tail, htail, hread⟩ := read_text_of_string hstring rest
      rw [htail, readValue, hread]
      simp
  | emptyArray gap hgap =>
      simp only [List.cons_append, List.append_assoc, List.nil_append]
      rw [readValue, skip_space_of_mark hgap (by decide)]
      rfl
  | emptyObject gap hgap =>
      simp only [List.cons_append, List.append_assoc, List.nil_append]
      rw [readValue, skip_space_of_mark hgap (by decide)]
      rfl
  | array items chars hitems =>
      simp only [List.cons_append, List.append_assoc, List.nil_append]
      have hread := read_items_of_spells hitems fuel rest (by simp at hfuel; omega)
      -- White space is skipped to look for the closing bracket, before the items are read.
      obtain ⟨c, tail, hskip, hc⟩ := items_head hitems (']' :: rest)
      rw [← read_items_skip_space, hskip] at hread
      rw [readValue, hskip]
      split
      · rename_i other hother
        exact absurd (List.cons.inj hother).1 hc
      · rw [hread, Option.map_some]
  | object fields chars hfields =>
      simp only [List.cons_append, List.append_assoc, List.nil_append]
      have hread := read_fields_of_spells hfields fuel rest (by simp at hfuel; omega)
      obtain ⟨tail, hskip⟩ := fields_head hfields ('\x7d' :: rest)
      rw [← read_fields_skip_space, hskip] at hread
      rw [readValue, hskip]
      simp [hread]

/-- The spelled items of an array are read with fuel for twice their length and one more. -/
theorem read_items_of_spells {items : List Json} {chars : List Char} (h : SpellsItems items chars)
    (fuel : Nat) (rest : List Char) (hfuel : 2 * chars.length + 1 < fuel) :
    readItems fuel (chars ++ ']' :: rest) = some (items, rest) := by
  obtain ⟨fuel, rfl⟩ := Nat.exists_eq_succ_of_ne_zero (Nat.ne_of_gt (Nat.zero_lt_of_lt hfuel))
  cases h with
  | last before item chars after hbefore hitem hafter =>
      have hread := read_value_of_spells hitem fuel (after ++ ']' :: rest)
        (by simp at hfuel; omega) (stops_of_gap hafter (by decide) rest)
      simp only [List.append_assoc]
      rw [readItems, skip_space_of_spells hbefore hitem, hread]
      simp only [skip_space_of_mark hafter (show isSpace ']' = false by decide)]
  | more before item chars after items tail hbefore hitem hafter hitems =>
      have hread := read_value_of_spells hitem fuel (after ++ ',' :: (tail ++ ']' :: rest))
        (by simp at hfuel; omega) (stops_of_gap hafter (by decide) (tail ++ ']' :: rest))
      have hmore := read_items_of_spells hitems fuel rest (by simp at hfuel; omega)
      simp only [List.append_assoc, List.cons_append]
      rw [readItems, skip_space_of_spells hbefore hitem, hread]
      simp only [skip_space_of_mark hafter (show isSpace ',' = false by decide), hmore,
        Option.map_some]

/-- The spelled fields of an object are read with fuel for twice their length and one more. -/
theorem read_fields_of_spells {fields : List (String × Json)} {chars : List Char}
    (h : SpellsFields fields chars) (fuel : Nat) (rest : List Char)
    (hfuel : 2 * chars.length + 1 < fuel) :
    readFields fuel (chars ++ '\x7d' :: rest) = some (fields, rest) := by
  obtain ⟨fuel, rfl⟩ := Nat.exists_eq_succ_of_ne_zero (Nat.ne_of_gt (Nat.zero_lt_of_lt hfuel))
  cases h with
  | last field chars hfield =>
      obtain ⟨before, key, name, behind, ahead, value, chars, after, hbefore, hname, hbehind,
        hahead, hvalue, hafter⟩ := hfield
      have hread := read_value_of_spells hvalue fuel (after ++ '\x7d' :: rest)
        (by simp at hfuel; omega) (stops_of_gap hafter (by decide) rest)
      exact read_fields_of_field hbefore hname hbehind hahead hvalue hafter (by decide) fuel rest
        hread
  | more field chars fields tail hfield hfields =>
      obtain ⟨before, key, name, behind, ahead, value, chars, after, hbefore, hname, hbehind,
        hahead, hvalue, hafter⟩ := hfield
      have hread := read_value_of_spells hvalue fuel (after ++ ',' :: (tail ++ '\x7d' :: rest))
        (by simp at hfuel; omega) (stops_of_gap hafter (by decide) (tail ++ '\x7d' :: rest))
      have hmore := read_fields_of_spells hfields fuel rest (by simp at hfuel; omega)
      rw [List.append_assoc _ (',' :: tail), List.cons_append,
        read_fields_of_field hbefore hname hbehind hahead hvalue hafter (by decide) fuel
          (tail ++ '\x7d' :: rest) hread, readFurther, hmore, Option.map_some]

end

/-- A document is read as its value. -/
theorem read_of_document {text : String} {value : Json} (h : Document text value) :
    read? text = some value := by
  obtain ⟨before, chars, after, hbefore, hvalue, hafter, htext⟩ := h
  have hskip : skipSpace text.toList = chars ++ after := by
    rw [htext, List.append_assoc, skip_space_of_spells hbefore hvalue]
  have hstops : Stops after :=
    stops_of_marks fun c hc => mem_marks_of_gap hafter (List.mem_of_mem_head? hc)
  have hread := read_value_of_spells hvalue (2 * text.toList.length + 2) after
    (by simp only [htext, List.length_append]; omega) hstops
  have hend : skipSpace (after ++ []) = [] := skip_space_of_gap hafter (by simp)
  rw [List.append_nil] at hend
  simp [read?, hskip, hread, hend]

/-- A text is the document of at most one value. -/
theorem document_unique {text : String} {value other : Json} (h : Document text value)
    (hother : Document text other) : other = value :=
  Option.some.inj ((read_of_document hother).symm.trans (read_of_document h))

end CallProfile.Json
