import CallProfile.Text.Blank
import CallProfile.Text.Lines
import Mathlib.Data.List.DropRight

/-!
# Lines and the ends of texts

Texts that can be lines, each behind the other with a line feed at its end, are read back as the
lines of the whole (`lines_of_join`). A text that ends in a character that is not white space is
trimmed to itself (`EndsSolid.trim_right`), and can be a line if it has no line feed.
-/

namespace CallProfile.Text

/-- A text that can be a line: it holds no line feed and does not end in a carriage return. -/
def IsLine (text : String) : Prop :=
  '\n' ∉ text.toList ∧ text.toList.getLast? ≠ some '\r'

/-- The text ends in a character that is not white space. -/
def EndsSolid (text : String) : Prop :=
  ∃ c, text.toList.getLast? = some c ∧ isBlank c = false

/-! ## Lines -/

/-- A line in front of a text. -/
theorem lines_cons {line : String} (h : IsLine line) (rest : String) :
    lines (line ++ "\n" ++ rest) = line :: lines rest := by
  obtain ⟨hfeed, hreturn⟩ := h
  have hchars : (line ++ "\n" ++ rest).toList = line.toList ++ '\n' :: rest.toList := by simp
  have hnone : ∀ c ∈ line.toList, (c == '\n') = false := by
    intro c hc
    exact beq_eq_false_iff_ne.mpr fun heq => hfeed (heq ▸ hc)
  have hsplit : (line.toList ++ '\n' :: rest.toList).splitOnP (· == '\n') =
      line.toList :: rest.toList.splitOnP (· == '\n') :=
    List.splitOnP_append_cons_of_forall_mem hnone '\n' (by decide) rest.toList
  have hrest : rest.toList.splitOnP (· == '\n') ≠ [] := List.splitOnP_ne_nil _ _
  obtain ⟨piece, pieces, hpieces⟩ := List.exists_cons_of_ne_nil hrest
  rw [lines, lines, linesOf, linesOf, hchars, hsplit, hpieces]
  -- The line is not the last piece, so a carriage return at its end would be dropped.
  rw [terminated, withoutReturn, if_neg hreturn, List.map_cons, String.ofList_toList]
  simp

/-- Lines that each end in a line feed are read back. -/
theorem lines_of_join {texts : List String} (h : ∀ text ∈ texts, IsLine text) :
    lines (String.join (texts.map (· ++ "\n"))) = texts := by
  induction texts with
  | nil => rfl
  | cons text texts ih =>
      have hrest : ∀ other ∈ texts, IsLine other := by
        intro other hother
        exact h other (List.mem_cons_of_mem text hother)
      rw [List.map_cons, String.join_cons, lines_cons (h text List.mem_cons_self), ih hrest]

/-! ## Ends -/

/-- What stands in front does not matter for the end of a text. -/
theorem EndsSolid.append {text : String} (h : EndsSolid text) (front : String) :
    EndsSolid (front ++ text) := by
  obtain ⟨c, hlast, hsolid⟩ := h
  exact ⟨c, by rw [String.toList_append, List.getLast?_append, hlast, Option.some_or], hsolid⟩

/-- Nothing is trimmed from a text that does not end in white space. -/
theorem EndsSolid.trim_right {text : String} (h : EndsSolid text) : trimRight text = text := by
  obtain ⟨c, hlast, hsolid⟩ := h
  obtain ⟨front, hchars⟩ := List.getLast?_eq_some_iff.mp hlast
  have htrim := List.rdropWhile_concat_neg isBlank front c (by simp [hsolid])
  rw [trimRight, ← List.rdropWhile, hchars, htrim, ← hchars, String.ofList_toList]

/-- A text that ends solid is a line if it has no line feed. -/
theorem EndsSolid.is_line {text : String} (h : EndsSolid text) (hfeed : '\n' ∉ text.toList) :
    IsLine text := by
  obtain ⟨c, hlast, hsolid⟩ := h
  refine ⟨hfeed, fun hreturn => ?_⟩
  obtain rfl : c = '\r' := Option.some.inj (hlast.symm.trans hreturn)
  exact absurd hsolid (by decide)

end CallProfile.Text
