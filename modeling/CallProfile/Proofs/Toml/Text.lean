import CallProfile.Toml.Printer
import CallProfile.Toml.Text
import Mathlib.Tactic.Common

/-!
# Texts in TOML are read back

A text is read back from the quotes that it was given, whichever these are, up to what follows
(`read_text_quoted`). Only a quote may not follow, which would be taken for a part of the closing
ones.
-/

namespace CallProfile.Toml

open Json (prepend)

/-! ## Escapes -/

/-- The characters that stand for a character between double quotes. -/
inductive StandsFor (c : Char) : List Char → Prop where
  | plain (htext : isTextChar c = true) (hquote : c ≠ '"') (hslash : c ≠ '\\') : StandsFor c [c]
  | letter (letter : Char) (h : simpleEscape? letter = some c) : StandsFor c ['\\', letter]
  | code (i j k l : Char) (h : (hexNumber? [i, j, k, l]).bind charOf? = some c) :
      StandsFor c ['\\', 'u', i, j, k, l]

/-- A backslash and the letter u stand for the character whose code point the four digits behind
them give. -/
theorem stands_for_code {c : Char} {chars : List Char} (hstart : chars.take 2 = ['\\', 'u'])
    (hlength : chars.length = 6) (hvalue : (hexNumber? (chars.drop 2)).bind charOf? = some c) :
    StandsFor c chars := by
  rw [← List.take_append_drop 2 chars, hstart]
  have hdigits : (chars.drop 2).length = 4 := by rw [List.length_drop, hlength]
  generalize chars.drop 2 = digits at hdigits hvalue
  match digits, hdigits with
  | [i, j, k, l], _ => exact .code i j k l hvalue

/-- The characters that are written by their code point. -/
theorem code_escape_control {c : Char} (h : c.toNat < 0x20 ∨ c.toNat = 0x7F) :
    StandsFor c (codeEscape c) := by
  have hall : ∀ n ∈ 0x7F :: List.range 0x20,
      (codeEscape (Char.ofNat n)).take 2 = ['\\', 'u'] ∧ (codeEscape (Char.ofNat n)).length = 6 ∧
        (hexNumber? ((codeEscape (Char.ofNat n)).drop 2)).bind charOf? = some (Char.ofNat n) := by
    decide +kernel
  have hmem : c.toNat ∈ 0x7F :: List.range 0x20 := by
    rw [List.mem_cons, List.mem_range]
    exact h.symm
  obtain ⟨hstart, hlength, hvalue⟩ := hall c.toNat hmem
  rw [Char.ofNat_toNat] at hstart hlength hvalue
  exact stands_for_code hstart hlength hvalue

/-- Every character is written as something that stands for it. -/
theorem stands_for_basic (c : Char) : StandsFor c (basicChar c) := by
  unfold basicChar
  split
  · next h => exact h ▸ .letter '"' rfl
  split
  · next h => exact h ▸ .letter '\\' rfl
  split
  · next h => exact h ▸ .letter 'b' rfl
  split
  · next h => exact h ▸ .letter 't' rfl
  split
  · next h => exact h ▸ .letter 'n' rfl
  split
  · next h => exact h ▸ .letter 'f' rfl
  split
  · next h => exact h ▸ .letter 'r' rfl
  split
  · next h => exact code_escape_control (by simpa using h)
  · next hquote hslash _ _ _ _ _ h =>
      have hbounds : 0x20 ≤ c.toNat ∧ c.toNat ≠ 0x7F := by simpa using h
      exact .plain (by simp [isTextChar, hbounds]) hquote hslash

/-- The letter of an escape begins no escape by number and is not blank. -/
theorem letter_cases {c letter : Char} (h : simpleEscape? letter = some c) :
    letter ≠ 'x' ∧ letter ≠ 'u' ∧ letter ≠ 'U' ∧ ∀ rest, breaksHere (letter :: rest) = false := by
  unfold simpleEscape? at h
  split at h
  case h_9 => cases h
  all_goals exact ⟨by decide, by decide, by decide, fun _ => rfl⟩

/-- An escape that is read puts its character in front of the text. -/
theorem with_escaped_some (c : Char) (rest : Option (List Char × List Char)) :
    withEscaped (some c) rest = prepend c rest := by
  cases rest <;> rfl

/-- What stands for a character begins neither with a quote nor with a line break. -/
theorem head_stands {c : Char} {chars : List Char} (h : StandsFor c chars) (rest : List Char) :
    ∃ first more, chars ++ rest = first :: more ∧ first ≠ '"' ∧ first ≠ '\n' ∧ first ≠ '\r' := by
  cases h with
  | plain htext hquote hslash =>
      refine ⟨c, rest, rfl, hquote, ?_, ?_⟩
      · rintro rfl
        simp [isTextChar] at htext
      · rintro rfl
        simp [isTextChar] at htext
  | letter letter h => exact ⟨'\\', letter :: rest, rfl, by decide, by decide, by decide⟩
  | code i j k l h =>
      exact ⟨'\\', 'u' :: i :: j :: k :: l :: rest, rfl, by decide, by decide, by decide⟩

/-! ## Between single and double quotes -/

section OneLine

variable {c : Char} {chars rest : List Char}

/-- What stands for a character is read as the character. -/
theorem read_basic_stands (h : StandsFor c chars) (rest : List Char) :
    readBasic (chars ++ rest) = prepend c (readBasic rest) := by
  cases h with
  | plain htext hquote hslash =>
      rw [List.singleton_append, readBasic]
      · rw [if_pos htext]
      all_goals simp [hquote, hslash]
  | letter letter h =>
      obtain ⟨hx, hu, hU, -⟩ := letter_cases h
      show readBasic ('\\' :: letter :: rest) = _
      rw [readBasic]
      · rw [h, with_escaped_some]
      all_goals simp [hx, hu, hU]
  | code i j k l h =>
      show readBasic ('\\' :: 'u' :: i :: j :: k :: l :: rest) = _
      rw [readBasic, h, with_escaped_some]

/-- Characters are read back up to the double quote. -/
theorem read_basic_chars (chars rest : List Char) :
    readBasic (chars.flatMap basicChar ++ '"' :: rest) = some (chars, rest) := by
  induction chars with
  | nil => rw [List.flatMap_nil, List.nil_append, readBasic]
  | cons c chars ih =>
      rw [List.flatMap_cons, List.append_assoc, read_basic_stands (stands_for_basic c), ih]
      rfl

/-- Characters that need no escapes are read back up to the single quote. -/
theorem read_literal_chars (h : ∀ c ∈ chars, isTextChar c = true ∧ c ≠ '\'') (rest : List Char) :
    readLiteral (chars ++ '\'' :: rest) = some (chars, rest) := by
  induction chars with
  | nil => rw [List.nil_append, readLiteral]
  | cons c chars ih =>
      obtain ⟨htext, hquote⟩ := h c List.mem_cons_self
      rw [List.cons_append, readLiteral]
      · rw [if_pos htext, ih fun d hd => h d (List.mem_cons_of_mem c hd)]
        rfl
      · simp [hquote]

end OneLine

/-! ## Between three quotes -/

section Long

variable {c : Char} {chars rest : List Char}

/-- Whether characters begin with two of a mark. -/
def BeginsTwice (mark : Char) (chars : List Char) : Prop :=
  ∃ rest, chars = mark :: mark :: rest

/-- What stands for a character is read as the character. -/
theorem read_long_stands (h : StandsFor c chars) (rest : List Char) :
    readLongBasic false (chars ++ rest) = prepend c (readLongBasic false rest) := by
  cases h with
  | plain htext hquote hslash =>
      have hreturn : c ≠ '\r' := by
        rintro rfl
        simp [isTextChar] at htext
      rw [List.singleton_append, readLongBasic]
      · simp [htext]
      all_goals simp [hquote, hslash, hreturn]
  | letter letter h =>
      obtain ⟨hx, hu, hU, hblank⟩ := letter_cases h
      show readLongBasic false ('\\' :: letter :: rest) = _
      rw [readLongBasic]
      · rw [hblank, h, with_escaped_some]
        rfl
      all_goals simp [hx, hu, hU]
  | code i j k l h =>
      show readLongBasic false ('\\' :: 'u' :: i :: j :: k :: l :: rest) = _
      rw [readLongBasic, h, with_escaped_some]

/-- A line break stands for itself. -/
theorem read_long_break (rest : List Char) :
    readLongBasic false ('\n' :: rest) = prepend '\n' (readLongBasic false rest) := by
  rw [readLongBasic]
  · simp
  all_goals simp

/-- A quote that does not belong to three of them stands for itself. -/
theorem read_long_quote (h : ¬BeginsTwice '"' rest) :
    readLongBasic false ('"' :: rest) = prepend '"' (readLongBasic false rest) := by
  rw [readLongBasic]
  · simp [isTextChar]
  all_goals simp
  all_goals
    rintro more rfl
    exact h ⟨_, rfl⟩

/-- The closing quotes may have up to two quotes in front of them. -/
theorem read_long_end {n : Nat} (hn : n ≤ 2) (hrest : rest.head? ≠ some '"') :
    readLongBasic false (List.replicate n '"' ++ '"' :: '"' :: '"' :: rest) =
      some (List.replicate n '"', rest) := by
  have hnext : ∀ more, rest ≠ '"' :: more := by
    rintro more rfl
    exact hrest rfl
  obtain rfl | rfl | rfl : n = 0 ∨ n = 1 ∨ n = 2 := by omega
  · show readLongBasic false ('"' :: '"' :: '"' :: rest) = _
    rw [readLongBasic]
    · rfl
    all_goals simp [hnext]
  · show readLongBasic false ('"' :: '"' :: '"' :: '"' :: rest) = _
    rw [readLongBasic]
    · rfl
    all_goals simp [hnext]
  · show readLongBasic false ('"' :: '"' :: '"' :: '"' :: '"' :: rest) = _
    rw [readLongBasic]
    rfl

/-- Between three quotes, the third quote in a row is not written as a quote, nor is any other
character. -/
theorem head_long_basic {run : Nat} (hc : c ≠ '"' ∨ run = 2) (chars rest : List Char) :
    ∃ first more, longBasicChars run (c :: chars) ++ rest = first :: more ∧ first ≠ '"' := by
  unfold longBasicChars
  by_cases hquote : c = '"'
  · rw [if_pos hquote, if_pos (hc.resolve_left (not_not_intro hquote))]
    exact ⟨'\\', _, rfl, by decide⟩
  · rw [if_neg hquote]
    split
    · exact ⟨'\n', _, rfl, by decide⟩
    · rw [List.append_assoc]
      obtain ⟨first, more, heq, hne, -⟩ :=
        head_stands (stands_for_basic c) (longBasicChars 0 chars ++ rest)
      exact ⟨first, more, heq, hne⟩

/-- Characters are read back up to the three double quotes, with some quotes in a row in front of
them. -/
theorem read_long_basic_chars {run : Nat} (hrun : run ≤ 2) (chars : List Char)
    (hrest : rest.head? ≠ some '"') :
    readLongBasic false (longBasicChars run chars ++ '"' :: '"' :: '"' :: rest) =
      some (chars, rest) := by
  induction chars generalizing run with
  | nil => exact read_long_end (Nat.zero_le 2) hrest
  | cons c chars ih =>
      rw [longBasicChars]
      by_cases hquote : c = '"'
      · subst hquote
        rw [if_pos rfl]
        by_cases htwo : run = 2
        · rw [if_pos htwo]
          show readLongBasic false (['\\', '"'] ++ (longBasicChars 0 chars ++ _)) = _
          rw [read_long_stands (.letter '"' rfl), ih (Nat.zero_le 2)]
          rfl
        · -- The quote is read by itself unless only quotes are left, which close the text.
          rw [if_neg htwo]
          have hread := @ih (run + 1) (by omega)
          cases chars with
          | nil => exact read_long_end (n := 1) (by decide) hrest
          | cons d chars =>
              by_cases hlast : d = '"' ∧ run = 0 ∧ chars = []
              · obtain ⟨rfl, rfl, rfl⟩ := hlast
                exact read_long_end (n := 2) (by decide) hrest
              · rw [List.cons_append, read_long_quote ?_, hread]
                · rfl
                · rintro ⟨more, hmore⟩
                  by_cases hhead : d ≠ '"' ∨ run + 1 = 2
                  · obtain ⟨first, after, hshape, hne⟩ := head_long_basic hhead chars _
                    exact hne (List.cons.inj (hshape.symm.trans hmore)).1
                  · obtain ⟨rfl, hzero⟩ : d = '"' ∧ run = 0 :=
                      ⟨by_contra fun h => hhead (Or.inl h), by omega⟩
                    subst hzero
                    obtain ⟨e, tail, rfl⟩ :=
                      List.exists_cons_of_ne_nil fun h => hlast ⟨rfl, rfl, h⟩
                    obtain ⟨first, after, hshape, hne⟩ :=
                      head_long_basic (show e ≠ '"' ∨ 2 = 2 from Or.inr rfl) tail _
                    exact hne (List.cons.inj (hshape.symm.trans (List.cons.inj hmore).2)).1
      · rw [if_neg hquote]
        by_cases hbreak : c = '\n'
        · subst hbreak
          rw [if_pos rfl, List.cons_append, read_long_break, ih (Nat.zero_le 2)]
          rfl
        · rw [if_neg hbreak, List.append_assoc, read_long_stands (stands_for_basic c),
            ih (Nat.zero_le 2)]
          rfl

/-- The closing quotes may have up to two quotes in front of them. -/
theorem read_long_literal_end {n : Nat} (hn : n ≤ 2) (hrest : rest.head? ≠ some '\'') :
    readLongLiteral (List.replicate n '\'' ++ '\'' :: '\'' :: '\'' :: rest) =
      some (List.replicate n '\'', rest) := by
  have hnext : ∀ more, rest ≠ '\'' :: more := by
    rintro more rfl
    exact hrest rfl
  obtain rfl | rfl | rfl : n = 0 ∨ n = 1 ∨ n = 2 := by omega
  · show readLongLiteral ('\'' :: '\'' :: '\'' :: rest) = _
    rw [readLongLiteral]
    · rfl
    all_goals simp [hnext]
  · show readLongLiteral ('\'' :: '\'' :: '\'' :: '\'' :: rest) = _
    rw [readLongLiteral]
    · rfl
    all_goals simp [hnext]
  · show readLongLiteral ('\'' :: '\'' :: '\'' :: '\'' :: '\'' :: rest) = _
    rw [readLongLiteral]
    rfl

/-- The longest run is no shorter than the one at the beginning. -/
theorem le_longest_run (mark : Char) (current : Nat) (chars : List Char) :
    current ≤ longestRun mark current chars := by
  induction chars generalizing current with
  | nil => exact Nat.le_refl _
  | cons c chars ih =>
      unfold longestRun
      split
      · exact Nat.le_trans (Nat.le_succ current) (ih (current + 1))
      · exact Nat.le_max_left _ _

/-- A run that is not longer behind its first character. -/
theorem longest_run_tail {mark : Char} {current limit : Nat}
    (h : longestRun mark current (c :: chars) ≤ limit) :
    longestRun mark (if c = mark then current + 1 else 0) chars ≤ limit := by
  unfold longestRun at h
  split
  · next heq => rwa [if_pos heq] at h
  · next hne =>
      rw [if_neg hne] at h
      exact Nat.le_trans (Nat.le_max_right _ _) h

/-- A character that stands for itself and is no part of three quotes is read. -/
theorem read_long_literal_char (htext : isTextChar c = true ∨ c = '\n')
    (hquote : c = '\'' → ¬BeginsTwice '\'' rest) :
    readLongLiteral (c :: rest) = prepend c (readLongLiteral rest) := by
  have hreturn : c ≠ '\r' := by
    rintro rfl
    simp [isTextChar] at htext
  rw [readLongLiteral]
  · simp [htext]
  all_goals simp [hreturn]
  all_goals
    rintro more heq rfl
    exact hquote heq ⟨_, rfl⟩

/-- Characters without long runs of single quotes are read back up to three of them. -/
theorem read_long_literal_chars {run : Nat} (h : ∀ c ∈ chars, isTextChar c = true ∨ c = '\n')
    (hrun : longestRun '\'' run chars ≤ 2) (hrest : rest.head? ≠ some '\'') :
    readLongLiteral (chars ++ '\'' :: '\'' :: '\'' :: rest) = some (chars, rest) := by
  induction chars generalizing run with
  | nil => exact read_long_literal_end (Nat.zero_le 2) hrest
  | cons c chars ih =>
      have htail := longest_run_tail hrun
      have hread := ih (fun d hd => h d (List.mem_cons_of_mem c hd)) htail
      by_cases hlast : c = '\'' ∧ (chars = [] ∨ chars = ['\''])
      · obtain ⟨rfl, rfl | rfl⟩ := hlast
        · exact read_long_literal_end (n := 1) (by decide) hrest
        · exact read_long_literal_end (n := 2) (by decide) hrest
      · rw [List.cons_append, read_long_literal_char (h c List.mem_cons_self) ?_, hread]
        · rfl
        · -- Two quotes behind this one would make three in a row.
          rintro rfl ⟨more, hmore⟩
          rw [if_pos rfl] at htail
          cases chars with
          | nil => exact hlast ⟨rfl, Or.inl rfl⟩
          | cons d chars =>
              obtain ⟨rfl, hnext⟩ := List.cons.inj hmore
              have htail := longest_run_tail htail
              rw [if_pos rfl] at htail
              cases chars with
              | nil => exact hlast ⟨rfl, Or.inr rfl⟩
              | cons e chars =>
                  obtain ⟨rfl, -⟩ := List.cons.inj hnext
                  have htail := longest_run_tail htail
                  rw [if_pos rfl] at htail
                  have hlong := le_longest_run '\'' (run + 1 + 1 + 1) chars
                  omega

end Long

/-! ## Texts -/

section Texts

variable {chars rest : List Char}

/-- A character that needs no escape stands for itself or breaks the line. -/
theorem is_text_of_not_control {c : Char} (h : isControl c = false) :
    isTextChar c = true ∨ c = '\n' := by
  simp only [isControl, isTextChar, Bool.or_eq_false_iff, Bool.and_eq_false_iff, Bool.or_eq_true,
    Bool.and_eq_true, decide_eq_true_eq, decide_eq_false_iff_not] at h ⊢
  by_cases htab : c = '\t'
  · exact Or.inl (Or.inl htab)
  · by_cases hbreak : c = '\n'
    · exact Or.inr hbreak
    · refine Or.inl (Or.inr ⟨?_, h.2⟩)
      simp_all

/-- Single quotes are given to texts in one line that need no escapes. -/
theorem quotes_for_literal (h : quotesFor chars = .literal) :
    chars ≠ [] ∧ ∀ c ∈ chars, isTextChar c = true ∧ c ≠ '\'' := by
  refine ⟨by rintro rfl; exact absurd h (by decide), ?_⟩
  unfold quotesFor at h
  simp only at h
  split at h
  · cases h
  split at h
  · next hsuit =>
      simp only [Bool.and_eq_true, Bool.not_eq_true', List.any_eq_false, List.contains_eq_mem,
        decide_eq_false_iff_not] at hsuit
      obtain ⟨⟨hcontrol, hbreak⟩, hquote⟩ := hsuit
      intro c hc
      refine ⟨?_, fun heq => hquote (heq ▸ hc)⟩
      exact (is_text_of_not_control (Bool.eq_false_iff.mpr (hcontrol c hc))).resolve_right
        fun heq => hbreak (heq ▸ hc)
  split at h
  · cases h
  split at h
  · cases h
  split at h <;> cases h

/-- Three single quotes are given to texts that need no escapes and have no three of them in a
row. -/
theorem quotes_for_long_literal (h : quotesFor chars = .longLiteral) :
    (∀ c ∈ chars, isTextChar c = true ∨ c = '\n') ∧ longestRun '\'' 0 chars ≤ 2 := by
  unfold quotesFor at h
  simp only at h
  split at h
  · cases h
  split at h
  · cases h
  split at h
  · cases h
  split at h
  · next hsuit =>
      simp only [Bool.and_eq_true, Bool.not_eq_true', List.any_eq_false,
        decide_eq_true_eq] at hsuit
      exact ⟨fun c hc => is_text_of_not_control (Bool.eq_false_iff.mpr (hsuit.1 c hc)), hsuit.2⟩
  split at h <;> cases h

/-- The line break that is put in front of a text with line breaks is taken off again. -/
theorem without_first_break {body : List Char}
    (h : '\n' ∉ chars → ∀ first more, body = first :: more → first ≠ '\n' ∧ first ≠ '\r') :
    withoutFirstBreak (firstBreak chars ++ body) = body := by
  unfold firstBreak
  split
  · rfl
  · next hbreak =>
      have hmem : '\n' ∉ chars := by simpa using hbreak
      rw [List.nil_append]
      unfold withoutFirstBreak
      split
      · exact absurd rfl (h hmem _ _ rfl).1
      · exact absurd rfl (h hmem _ _ rfl).2
      · rfl

/-- Between three double quotes, a text without line breaks does not begin with one. -/
theorem head_long_basic_chars (h : '\n' ∉ chars) {first : Char} {more : List Char}
    (hshape : longBasicChars 0 chars ++ '"' :: '"' :: '"' :: rest = first :: more) :
    first ≠ '\n' ∧ first ≠ '\r' := by
  cases chars with
  | nil =>
      obtain ⟨rfl, -⟩ := List.cons.inj hshape
      exact ⟨by decide, by decide⟩
  | cons c chars =>
      unfold longBasicChars at hshape
      split at hshape
      · obtain ⟨rfl, -⟩ := List.cons.inj hshape
        exact ⟨by decide, by decide⟩
      · have hbreak : c ≠ '\n' := fun heq => h (heq ▸ List.mem_cons_self)
        rw [if_neg hbreak, List.append_assoc] at hshape
        obtain ⟨other, after, heq, -, hne⟩ := head_stands (stands_for_basic c) _
        obtain ⟨rfl, -⟩ := List.cons.inj (heq.symm.trans hshape)
        exact hne

/-- A text is read back from its quotes, up to what follows it, which is no quote. -/
theorem read_text_quoted (chars : List Char) (hdouble : rest.head? ≠ some '"')
    (hsingle : rest.head? ≠ some '\'') :
    readText (quotedText chars ++ rest) = some (chars, rest) := by
  unfold quotedText
  cases hquotes : quotesFor chars with
  | basic =>
      have hbody : ¬BeginsTwice '"' (chars.flatMap basicChar ++ '"' :: rest) := by
        rintro ⟨tail, htail⟩
        cases chars with
        | nil =>
            obtain ⟨-, rfl⟩ := List.cons.inj htail
            exact hdouble rfl
        | cons c chars =>
            rw [List.flatMap_cons, List.append_assoc] at htail
            obtain ⟨first, more, hshape, hne, -⟩ := head_stands (stands_for_basic c) _
            exact hne (List.cons.inj (hshape.symm.trans htail)).1
      simp only [List.cons_append, List.append_assoc]
      rw [readText]
      · exact read_basic_chars chars rest
      · intro more hmore
        exact hbody ⟨more, hmore⟩
  | literal =>
      obtain ⟨hne, hplain⟩ := quotes_for_literal hquotes
      have hbody : ¬BeginsTwice '\'' (chars ++ '\'' :: rest) := by
        obtain ⟨c, more, rfl⟩ := List.exists_cons_of_ne_nil hne
        rintro ⟨tail, htail⟩
        exact (hplain c List.mem_cons_self).2 (List.cons.inj htail).1
      simp only [List.cons_append, List.append_assoc]
      rw [readText]
      · exact read_literal_chars hplain rest
      · intro more hmore
        exact hbody ⟨more, hmore⟩
  | longBasic =>
      simp only [List.cons_append, List.append_assoc, List.nil_append]
      rw [readText, without_first_break fun h first more => head_long_basic_chars h]
      exact read_long_basic_chars (Nat.zero_le 2) chars hdouble
  | longLiteral =>
      obtain ⟨hplain, hrun⟩ := quotes_for_long_literal hquotes
      simp only [List.cons_append, List.append_assoc, List.nil_append]
      rw [readText, without_first_break ?_]
      · exact read_long_literal_chars hplain hrun hsingle
      · intro hbreak first more hshape
        cases chars with
        | nil =>
            obtain ⟨rfl, -⟩ := List.cons.inj hshape
            exact ⟨by decide, by decide⟩
        | cons c chars =>
            obtain ⟨rfl, -⟩ := List.cons.inj hshape
            refine ⟨fun heq => hbreak (heq ▸ List.mem_cons_self), ?_⟩
            rintro rfl
            exact absurd (hplain '\r' List.mem_cons_self) (by decide)

end Texts

end CallProfile.Toml
