import CallProfile.Failure
import CallProfile.Terminal.Plain

/-!
# What is told, in plain words

A text with styles is some words with style codes among them (`Styled`). Where no styles are wanted
the codes are dropped and nothing else: text that a terminal shows is kept (`plain_of_visible`), and
of a text with styles the words are left (`plain_of_styled`). Of any text some characters are left
in their order, all visible (`plain_leaves`). What is told of a failure is its wording with styles
(`Failure.styled_message`).
-/

namespace CallProfile

namespace Terminal

/-! ## Visible text -/

/-- Whether a terminal shows the character, white space included. All other controls are orders to
the terminal. -/
def isVisible (c : Char) : Bool :=
  c = '\t' || c = '\n' || c = '\x0c' || c = '\r' || (0x20 ≤ c.toNat && c.toNat ≠ 0x7F)

/-- Whether a terminal shows all of the text. -/
def IsVisible (text : String) : Prop :=
  text.toList.all isVisible = true

/-- Each character can be looked at. -/
instance (text : String) : Decidable (IsVisible text) :=
  inferInstanceAs (Decidable (_ = true))

/-- Two texts are visible together if both are. -/
theorem is_visible_append {text further : String} :
    IsVisible (text ++ further) ↔ IsVisible text ∧ IsVisible further := by
  simp [IsVisible]

/-- A visible character is shown, and no escape sequence begins with it. -/
theorem step_visible {c : Char} (h : isVisible c = true) :
    EscapeState.text.step c = (true, .text) := by
  simp only [isVisible, Bool.or_eq_true, Bool.and_eq_true, decide_eq_true_eq] at h
  rcases h with (((rfl | rfl) | rfl) | rfl) | ⟨hleast, hdelete⟩
  · rfl
  · rfl
  · rfl
  · rfl
  · have hescape : c.toNat ≠ 0x1B ∧ c.toNat ≠ 0x18 ∧ c.toNat ≠ 0x1A := by omega
    simp [EscapeState.step, hescape, hleast, hdelete]

/-- A visible text is visible as a line with a sign in front of it. -/
theorem is_visible_line {sign text : String} (hsign : IsVisible sign) (h : IsVisible text) :
    IsVisible (sign ++ text ++ "\n") := by
  have hend : IsVisible "\n" := by decide
  exact is_visible_append.mpr ⟨is_visible_append.mpr ⟨hsign, h⟩, hend⟩

/-- A character that is shown is visible. -/
theorem visible_of_step {state : EscapeState} {c : Char} (h : (state.step c).1 = true) :
    isVisible c = true := by
  have hvisible : isVisible c = (isKeptControl c || (0x20 ≤ c.toNat && c.toNat ≠ 0x7F)) := rfl
  have hescape : c.toNat ≠ 0x1B := fun hc => by simp [EscapeState.step, hc] at h
  have hcancel : ¬(c.toNat = 0x18 ∨ c.toNat = 0x1A) := fun hc => by
    simp [EscapeState.step, hescape, hc] at h
  cases state with
  | text =>
      rw [hvisible, Bool.or_comm]
      simpa [EscapeState.step, hescape, hcancel] using h
  | begun | intermediate | control =>
      by_cases hkept : isKeptControl c = true
      · rw [hvisible, hkept, Bool.true_or]
      · simp [EscapeState.step, hescape, hcancel, hkept] at h
  | command | device => simp [EscapeState.step, hescape, hcancel] at h

/-- What is shown of a character and those behind it. -/
theorem shown_cons (state : EscapeState) (c : Char) (rest : List Char) :
    shown state (c :: rest) =
      if (state.step c).1 then c :: shown (state.step c).2 rest
      else shown (state.step c).2 rest :=
  rfl

/-- What is shown of characters is some of them, in their order. -/
theorem sublist_shown (state : EscapeState) (chars : List Char) :
    (shown state chars).Sublist chars := by
  induction chars generalizing state with
  | nil => exact .slnil
  | cons c rest ih =>
      rw [shown_cons]
      split
      · exact (ih _).cons_cons c
      · exact (ih _).cons c

/-- What is shown of characters is visible. -/
theorem all_visible_shown (state : EscapeState) (chars : List Char) :
    (shown state chars).all isVisible = true := by
  induction chars generalizing state with
  | nil => rfl
  | cons c rest ih =>
      rw [shown_cons]
      split
      · next hshown => rw [List.all_cons, visible_of_step hshown, ih, Bool.and_self]
      · exact ih _

/-- Without styles, some characters of a text are left in their order, and all of them are
visible. -/
theorem plain_leaves (text : String) :
    (plain text).toList.Sublist text.toList ∧ IsVisible (plain text) := by
  rw [IsVisible, plain, String.toList_ofList]
  exact ⟨sublist_shown .text text.toList, all_visible_shown .text text.toList⟩

/-- Visible characters in front of others are shown. -/
theorem shown_visible {front rest : List Char} (h : front.all isVisible = true) :
    shown .text (front ++ rest) = front ++ shown .text rest := by
  induction front with
  | nil => rfl
  | cons c front ih =>
      rw [List.all_cons, Bool.and_eq_true] at h
      rw [List.cons_append, shown_cons, step_visible h.1, if_pos rfl, ih h.2, List.cons_append]

/-! ## Text with styles -/

/-- The text is the words with style codes among them. -/
inductive Styled : String → String → Prop where
  | words (words : String) : Styled words words
  | code (n : Nat) : Styled ("\x1b[" ++ toString n ++ "m") ""
  | append {text further words others : String} (h : Styled text words)
      (hfurther : Styled further others) : Styled (text ++ further) (words ++ others)

/-- The codes of the digits. -/
theorem code_digit {c : Char} (h : c.isDigit = true) : 48 ≤ c.toNat ∧ c.toNat ≤ 57 := by
  simpa [Char.isDigit, UInt32.le_iff_toNat_le] using h

/-- A number is written in digits. -/
theorem digit_of_mem_to_string {n : Nat} {c : Char} (h : c ∈ (toString n).toList) :
    c.isDigit = true := by
  rw [Nat.toString_eq_repr, Nat.toList_repr] at h
  exact Nat.isDigit_of_mem_toDigits (by decide) (by decide) h

/-- A number is visible. -/
theorem is_visible_to_string (n : Nat) : IsVisible (toString n) := by
  refine List.all_eq_true.mpr fun c hc => ?_
  have hrange := code_digit (digit_of_mem_to_string hc)
  have hshown : 0x20 ≤ c.toNat ∧ c.toNat ≠ 0x7F := by omega
  simp [isVisible, hshown]

/-- A digit is a parameter of a control sequence. -/
theorem step_digit {c : Char} (h : c.isDigit = true) :
    EscapeState.control.step c = (false, .control) := by
  have hrange := code_digit h
  have hcontrols : c.toNat ≠ 0x1B ∧ c.toNat ≠ 0x18 ∧ c.toNat ≠ 0x1A := by omega
  have hkept : isKeptControl c = false := by
    refine Bool.eq_false_iff.mpr fun hc => ?_
    simp only [isKeptControl, Bool.or_eq_true, decide_eq_true_eq] at hc
    rcases hc with ((rfl | rfl) | rfl) | rfl <;> exact absurd h (by decide)
  have hfinal : ¬0x40 ≤ c.toNat := by omega
  simp [EscapeState.step, hcontrols, hkept, hfinal]

/-- Digits are skipped in a control sequence. -/
theorem shown_digits {digits rest : List Char} (h : ∀ c ∈ digits, c.isDigit = true) :
    shown .control (digits ++ rest) = shown .control rest := by
  induction digits with
  | nil => rfl
  | cons c digits ih =>
      obtain ⟨hfirst, hdigits⟩ := List.forall_mem_cons.mp h
      rw [List.cons_append, shown_cons, step_digit hfirst]
      exact ih hdigits

/-- A style code is not shown. -/
theorem shown_code (n : Nat) (rest : List Char) :
    shown .text (("\x1b[" ++ toString n ++ "m").toList ++ rest) = shown .text rest := by
  have hchars : ("\x1b[" ++ toString n ++ "m").toList ++ rest =
      '\x1b' :: '[' :: ((toString n).toList ++ 'm' :: rest) := by
    simp
  calc shown .text (("\x1b[" ++ toString n ++ "m").toList ++ rest)
    _ = shown .text ('\x1b' :: '[' :: ((toString n).toList ++ 'm' :: rest)) := by rw [hchars]
    _ = shown .control ((toString n).toList ++ 'm' :: rest) := rfl
    _ = shown .control ('m' :: rest) := shown_digits fun _ hc => digit_of_mem_to_string hc
    _ = shown .text rest := rfl

/-- Of a text with visible words the words are shown. -/
theorem shown_styled {text words : String} (h : Styled text words) (hwords : IsVisible words)
    (rest : List Char) :
    shown .text (text.toList ++ rest) = words.toList ++ shown .text rest := by
  induction h generalizing rest with
  | words words => exact shown_visible hwords
  | code n => exact shown_code n rest
  | append _ _ ih ihfurther =>
      obtain ⟨hfirst, hsecond⟩ := is_visible_append.mp hwords
      rw [String.toList_append, List.append_assoc, ih hfirst, ihfurther hsecond,
        String.toList_append, List.append_assoc]

/-- Without styles the words are left of a text, if these are visible. -/
theorem plain_of_styled {text words : String} (h : Styled text words) (hwords : IsVisible words) :
    plain text = words := by
  have hshown := shown_styled h hwords []
  rw [List.append_nil, shown, List.append_nil] at hshown
  rw [plain, hshown, String.ofList_toList]

/-- A visible text stays as it is. -/
theorem plain_of_visible {text : String} (h : IsVisible text) : plain text = text :=
  plain_of_styled (.words text) h

/-- A text between two style codes is styled. -/
theorem Styled.between {text words : String} (h : Styled text words) (first last : Nat) :
    Styled (Terminal.code first ++ text ++ Terminal.code last) words := by
  have hall := ((Styled.code first).append h).append (Styled.code last)
  rwa [String.empty_append, String.append_empty] at hall

/-- A failure in styled words has its sign in front. -/
theorem styled_failure {text words : String} (h : Styled text words) :
    Styled (failure text) ("❌ " ++ words) :=
  (Styled.words "❌ ").append (h.between 31 39)

/-- Red words that end in bold. -/
theorem styled_red_ending_bold (text strong : String) :
    Styled (redEndingBold text strong) (text ++ strong) := by
  have hall := (((((Styled.code 31).append (.words text)).append (.code 1)).append
    (.words strong)).append (.code 39)).append (.code 22)
  simp only [String.empty_append, String.append_empty] at hall
  exact hall

/-- A hint in styled words. -/
theorem styled_hint {text words : String} (h : Styled text words) :
    Styled (Failure.hint text) ("\n\n💡 " ++ words) :=
  (Styled.words "\n\n💡 ").append h

end Terminal

/-! ## Failures -/

namespace Failure

open Terminal (IsVisible Styled)

/-- What is said of a failure behind its sign. -/
def wording : Failure → String
  | inaccessible path error => "Cannot access " ++ path ++ ": " ++ error
  | noRecords source skipped =>
    "No profiler records found in " ++ source ++ " (" ++ toString skipped ++ " malformed lines)" ++
      ("\n\n💡 " ++ "Lines should look like 1524272351029000000 17 | Seq [dur] 15000")
  | emptyChart chart => "Nothing to plot for " ++ chart
  | missingTableId chart =>
    chart ++ " needs a table ID" ++
      ("\n\n💡 " ++ "Pass --table-id or set table-id in the config file")
  | noDirectory path error => "Failed to create output directory " ++ path ++ ": " ++ error
  | notDrawn path message => "Failed to draw " ++ path ++ ": " ++ message
  | chartsFailed failed total => toString failed ++ " of " ++ toString total ++ " charts failed"
  | invalidConfig message => "Invalid configuration: " ++ message

/-- What is told of a failure is its sign and its wording with styles. -/
theorem styled_message (failure : Failure) :
    Styled failure.message ("❌ " ++ failure.wording) := by
  have hbold (text : String) : Styled (Terminal.boldSpan text) text :=
    (Styled.words text).between 1 22
  have hdim (text : String) : Styled (Terminal.dimSpan text) text :=
    (Styled.words text).between 2 22
  cases failure with
  | inaccessible path error =>
      exact Terminal.styled_failure
        ((((Styled.words "Cannot access ").append (hbold path)).append (.words ": ")).append
          (.words error))
  | noRecords source skipped =>
      have hlook : Styled (Terminal.dimSpan "Lines should look like " ++
          "1524272351029000000 17 | Seq [dur] 15000")
          "Lines should look like 1524272351029000000 17 | Seq [dur] 15000" :=
        (hdim "Lines should look like ").append (.words "1524272351029000000 17 | Seq [dur] 15000")
      have hfound := (Styled.words "❌ ").append
        (Terminal.styled_red_ending_bold "No profiler records found in " source)
      have hall := (((hfound.append (.words " (")).append (.words (toString skipped))).append
        (.words " malformed lines)")).append (Terminal.styled_hint hlook)
      unfold wording
      simp only [← String.append_assoc] at hall ⊢
      exact hall
  | emptyChart chart =>
      exact (Styled.words "❌ ").append
        (Terminal.styled_red_ending_bold "Nothing to plot for " chart)
  | missingTableId chart =>
      have hpass : Styled (Terminal.dimSpan "Pass " ++ "--table-id" ++
          Terminal.dimSpan " or set " ++ "table-id" ++ Terminal.dimSpan " in the config file")
          "Pass --table-id or set table-id in the config file" :=
        ((((hdim "Pass ").append (.words "--table-id")).append (hdim " or set ")).append
          (.words "table-id")).append (hdim " in the config file")
      have hall := (Terminal.styled_failure
        ((hbold chart).append (.words " needs a table ID"))).append (Terminal.styled_hint hpass)
      unfold wording
      simp only [← String.append_assoc] at hall ⊢
      exact hall
  | noDirectory path error => exact Terminal.styled_failure (.words _)
  | notDrawn path message =>
      exact Terminal.styled_failure
        ((((Styled.words "Failed to draw ").append (hbold path)).append (.words ": ")).append
          (.words message))
  | chartsFailed failed total => exact Terminal.styled_failure (.words _)
  | invalidConfig message => exact Terminal.styled_failure (.words _)

/-- The wording of a number of failures is visible. -/
theorem is_visible_charts_failed (failed total : Nat) :
    IsVisible (wording (.chartsFailed failed total)) := by
  have hof : IsVisible " of " ∧ IsVisible " charts failed" := by decide
  have hfailed := Terminal.is_visible_append.mpr ⟨Terminal.is_visible_to_string failed, hof.1⟩
  have htotal := Terminal.is_visible_append.mpr ⟨hfailed, Terminal.is_visible_to_string total⟩
  exact Terminal.is_visible_append.mpr ⟨htotal, hof.2⟩

end Failure

end CallProfile
