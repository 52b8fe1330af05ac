import CallProfile.Proofs.Record.Line
import CallProfile.Proofs.Text.Spacing

/-!
# Lines of the same words

A line is read word by word, but for the mark of a transactional call, which is searched in the
line as it stands. The mark holds no white space, so it stands in the line exactly if it stands in
one of its words (`is_marked_iff_words`), and lines of the same words are read alike, whatever white
space is between, before and behind the words (`of_line_of_same_words`).
-/

namespace CallProfile.Record

/-- A line holds the mark of a transactional call exactly if one of its words does. -/
theorem is_marked_iff_words {line : String} {words : List String} (h : Text.Spells line words) :
    isMarked line = true ↔ ∃ word ∈ words, "(tx)".toList <:+: word.toList := by
  have hsolid : ("(tx)".toList.all fun c => !Text.isBlank c) = true := by
    decide
  simp only [List.all_eq_true, Bool.not_eq_true'] at hsolid
  rw [is_marked_iff, Text.infix_iff_words (by simp) hsolid, ← Text.spells_iff.mp h]

/-- What is read of a line is read of its words: the mark is one of two things, and the words say
which. -/
theorem of_line_of_spells {line : String} {words : List String} (h : Text.Spells line words)
    {marked : Bool}
    (hmarked : marked = true ↔ ∃ word ∈ words, "(tx)".toList <:+: word.toList) :
    ofLine line = ofWords marked words := by
  have hmark : isMarked line = marked := by
    rw [Bool.eq_iff_iff, is_marked_iff_words h, hmarked]
  rw [ofLine, hmark, ← Text.spells_iff.mp h]

/-- Two lines of the same words give the same result: the same record, or the same error with the
same value. A record read from them is transactional exactly if one of the words holds the mark. -/
theorem of_line_of_same_words {first second : String} {words : List String}
    (hfirst : Text.Spells first words) (hsecond : Text.Spells second words) :
    ofLine first = ofLine second ∧
      ∀ r, ofLine first = .ok r →
        (r.transactional = true ↔ ∃ word ∈ words, "(tx)".toList <:+: word.toList) := by
  have hmarked := is_marked_iff_words hfirst
  refine ⟨?_, fun r hr => ?_⟩
  · rw [of_line_of_spells hfirst hmarked, of_line_of_spells hsecond hmarked]
  · rcases of_line_cases first with ⟨hempty, -⟩ | ⟨other, hother, -, hflag⟩ | ⟨e, hfault, -⟩
    · cases hempty.symm.trans hr
    · cases hother.symm.trans hr
      rw [hflag, hmarked]
    · cases hfault.symm.trans hr

/-- The words of a line with a duration that is no number. -/
def flawedWords : List String :=
  ["7", "1", "|", "access(tx)", "[dur]", "15ms"]

/-- A line of the words with single spaces. -/
def plainLine : String :=
  "7 1 | access(tx) [dur] 15ms"

/-- A line of the words with other white space, also in front and behind. -/
def spaciousLine : String :=
  "\t7\u30001\r|\u00a0 access(tx)\u2028[dur]\x0b\x0c15ms\u2003\r"

/-- Both lines are refused for the same value. -/
theorem spacious_line_alike :
    Text.Spells plainLine flawedWords ∧ Text.Spells spaciousLine flawedWords ∧
      ofLine plainLine = ofLine spaciousLine ∧
      ofLine spaciousLine = .error (.invalid .duration "15ms") := by
  have hplain : Text.Spells plainLine flawedWords := Text.spells_iff.mpr (by decide +kernel)
  have hspacious : Text.Spells spaciousLine flawedWords := Text.spells_iff.mpr (by decide +kernel)
  exact ⟨hplain, hspacious, (of_line_of_same_words hplain hspacious).1, by decide +kernel⟩

end CallProfile.Record
