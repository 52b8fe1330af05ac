import CallProfile.Record.Line
import CallProfile.Proofs.Text.Words
import Mathlib.Data.List.Basic

/-!
# What the lines of a text hold

A report is read off the lines one by one: each holds a record, is malformed, or is blank and says
nothing (`outcome`). Which of these depends on the words of the line alone, so that neither a
carriage return at its end nor the end of the text matters (`outcomes_eq_pieces`). Hence reports on
texts add up when the texts are joined by line feeds (`outcomes_intercalate`).
-/

namespace CallProfile

/-- A carriage return at the end of a line is white space behind its last word. -/
theorem Record.of_line_return (line : List Char) :
    ofLine (String.ofList (line ++ ['\r'])) = ofLine (String.ofList line) := by
  have hwords : Text.wordsOf (line ++ ['\r']) = Text.wordsOf line := by
    rw [Text.wordsOf, List.splitOnP_append_cons line [] (by decide)]
    simp [Text.wordsOf]
  have hmarked : isMarked (String.ofList (line ++ ['\r'])) = isMarked (String.ofList line) := by
    rw [Bool.eq_iff_iff, isMarked, isMarked, Text.has_part_iff, Text.has_part_iff,
      String.toList_ofList, String.toList_ofList, List.infix_concat_iff]
    -- The mark ends in no carriage return, so it cannot reach into what was added.
    refine ⟨fun h => ?_, Or.inr⟩
    rcases h with ⟨front, hend⟩ | hinfix
    · have hlast := congrArg List.getLast? hend
      simp [transactionMark] at hlast
    · exact hinfix
  rw [ofLine, ofLine, hmarked, Text.words, Text.words, String.toList_ofList, String.toList_ofList,
    hwords]

namespace LineReport

/-- What a line says in a report: nothing if it is blank, else a record or an error. -/
def outcome (line : String) : List (Except LineError Record) :=
  match Record.ofLine line with
  | .error .empty => []
  | reading => [reading]

/-- What the lines of a text say, in their order. -/
def outcomes (text : String) : List (Except LineError Record) :=
  (Text.lines text).flatMap outcome

/-- The report on numbered lines is that on the later ones with the first line added. -/
theorem of_lines_cons (line : String × Nat) (lines : List (String × Nat)) :
    ofLines (line :: lines) = (ofLines lines).add (line.2 + 1) (Record.ofLine line.1) :=
  rfl

/-- The report on numbered lines holds the records among what they say. -/
theorem records_of_lines (lines : List (String × Nat)) :
    (ofLines lines).records =
      (lines.flatMap fun line => outcome line.1).filterMap Except.toOption := by
  induction lines with
  | nil => rfl
  | cons line lines ih =>
      rw [of_lines_cons, List.flatMap_cons, List.filterMap_append, ← ih, outcome]
      cases Record.ofLine line.1 with
      | ok r => rfl
      | error e => cases e <;> rfl

/-- The report on numbered lines drops as many lines as are malformed. -/
theorem skipped_of_lines (lines : List (String × Nat)) :
    (ofLines lines).skipped = (lines.flatMap fun line => outcome line.1).countP (!·.isOk) := by
  induction lines with
  | nil => rfl
  | cons line lines ih =>
      rw [of_lines_cons, List.flatMap_cons, List.countP_append, ← ih, outcome]
      cases Record.ofLine line.1 with
      | ok r => simp [add, skipped, Except.isOk, Except.toBool]
      | error e => cases e <;> simp [add, skipped, Except.isOk, Except.toBool, Nat.add_comm]

/-- The numbers of lines do not matter for what the lines say. -/
theorem outcomes_eq (text : String) :
    ((Text.lines text).zipIdx.flatMap fun line => outcome line.1) = outcomes text := by
  rw [outcomes, ← List.zipIdx_map_fst 0 (Text.lines text), List.flatMap_map, List.zipIdx_map_fst]

/-- The report on a text holds the records of its lines. -/
theorem records_of_text (text : String) :
    (ofText text).records = (outcomes text).filterMap Except.toOption := by
  rw [ofText, records_of_lines, outcomes_eq]

/-- The report on a text drops its malformed lines. -/
theorem skipped_of_text (text : String) :
    (ofText text).skipped = (outcomes text).countP (!·.isOk) := by
  rw [ofText, skipped_of_lines, outcomes_eq]

/-- The records of lines are those of what the lines say. -/
theorem filter_map_outcomes (lines : List String) :
    (lines.flatMap outcome).filterMap Except.toOption =
      lines.filterMap fun line => (Record.ofLine line).toOption := by
  induction lines with
  | nil => rfl
  | cons line lines ih =>
      rw [List.flatMap_cons, List.filterMap_append, ih, outcome, List.filterMap_cons]
      cases Record.ofLine line with
      | ok r => rfl
      | error e => cases e <;> rfl

/-! ## Texts joined by a line feed -/

/-- The pieces between line feeds say what the lines do: the last piece says nothing if it is empty,
and a carriage return at the end of another says nothing more. -/
theorem flat_map_terminated (pieces : List (List Char)) :
    (Text.terminated pieces).flatMap (fun piece => outcome (String.ofList piece)) =
      pieces.flatMap fun piece => outcome (String.ofList piece) := by
  induction pieces with
  | nil => rfl
  | cons piece rest ih =>
      cases rest with
      | nil =>
          cases piece with
          | nil => rfl
          | cons c piece => rfl
      | cons next rest =>
          -- This piece is not the last, so a line feed ends it and takes a carriage return along.
          have hreturn : outcome (String.ofList (Text.withoutReturn piece)) =
              outcome (String.ofList piece) := by
            unfold Text.withoutReturn
            split
            · next hlast =>
                obtain ⟨line, rfl⟩ := List.getLast?_eq_some_iff.mp hlast
                rw [List.dropLast_concat, outcome, outcome, Record.of_line_return]
            · rfl
          rw [Text.terminated, List.flatMap_cons, List.flatMap_cons, hreturn, ih]
          simp

/-- What the lines of a text say is what its pieces between line feeds say. -/
theorem outcomes_eq_pieces (text : String) :
    outcomes text =
      (text.toList.splitOnP (· == '\n')).flatMap fun piece => outcome (String.ofList piece) := by
  rw [outcomes, Text.lines, List.flatMap_map, Text.linesOf, flat_map_terminated]

/-- A text behind a line feed says what it says by itself. -/
theorem outcomes_append (text other : String) :
    outcomes (text ++ "\n" ++ other) = outcomes text ++ outcomes other := by
  have hchars : (text ++ "\n" ++ other).toList = text.toList ++ '\n' :: other.toList := by simp
  rw [outcomes_eq_pieces, outcomes_eq_pieces, outcomes_eq_pieces, hchars,
    List.splitOnP_append_cons _ _ (by decide), List.flatMap_append]

/-- Texts joined by line feeds say what they say by themselves, one after the other. -/
theorem outcomes_intercalate (texts : List String) :
    outcomes ("\n".intercalate texts) = texts.flatMap outcomes := by
  induction texts with
  | nil => rfl
  | cons text texts ih =>
      cases texts with
      | nil => simp
      | cons other texts =>
          rw [List.flatMap_cons, ← ih, String.intercalate_cons_cons, outcomes_append]

end LineReport

end CallProfile
