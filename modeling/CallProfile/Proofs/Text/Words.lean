import CallProfile.Text.Blank
import Mathlib.Data.List.Infix

/-!
# The words of a line

`Layout` is the reverse of reading words: it lays words out with white space around them, in any
amount, but with some between each two. Reading words finds exactly the words of a layout
(`words_of_eq_iff`), so the words of a line are determined by it and white space never matters.
-/

namespace CallProfile.Text

/-- The characters are the words in order with white space around them. A word is not empty and
holds no white space, and what follows it begins with white space or is empty. -/
inductive Layout : List (List Char) → List Char → Prop where
  | blank (gap : List Char) :
      (∀ c ∈ gap, isBlank c = true) → Layout [] gap
  | word (gap word : List Char) (words : List (List Char)) (rest : List Char) :
      (∀ c ∈ gap, isBlank c = true) → word ≠ [] → (∀ c ∈ word, isBlank c = false) →
      (∀ c ∈ rest.head?, isBlank c = true) → Layout words rest →
      Layout (word :: words) (gap ++ word ++ rest)

/-- White space in front is not read. -/
theorem words_of_blank {gap : List Char} (hgap : ∀ c ∈ gap, isBlank c = true) (rest : List Char) :
    wordsOf (gap ++ rest) = wordsOf rest := by
  induction gap with
  | nil => rfl
  | cons c gap ih =>
      have hc : isBlank c = true := hgap c List.mem_cons_self
      have hrest := ih fun other hother => hgap other (List.mem_cons_of_mem c hother)
      simpa [wordsOf, List.splitOnP_cons_eq_if_modifyHead, hc] using hrest

/-- A word that ends where white space begins is read as it stands. -/
theorem words_of_word {word rest : List Char} (hword : word ≠ [])
    (hsolid : ∀ c ∈ word, isBlank c = false) (hend : ∀ c ∈ rest.head?, isBlank c = true) :
    wordsOf (word ++ rest) = word :: wordsOf rest := by
  cases rest with
  | nil => simp [wordsOf, List.splitOnP_eq_singleton hsolid, hword]
  | cons c rest =>
      have hc : isBlank c = true := hend c rfl
      have hblank : wordsOf (c :: rest) = wordsOf rest :=
        words_of_blank (show ∀ d ∈ [c], isBlank d = true by simpa using hc) rest
      rw [hblank, wordsOf, List.splitOnP_append_cons_of_forall_mem hsolid c hc]
      simp [wordsOf, hword]

/-- Reading a layout gives its words. -/
theorem words_of_layout {words : List (List Char)} {chars : List Char} (h : Layout words chars) :
    wordsOf chars = words := by
  induction h with
  | blank gap hgap => simpa [wordsOf] using words_of_blank hgap []
  | word gap word words rest hgap hword hsolid hend _ ih =>
      rw [List.append_assoc, words_of_blank hgap, words_of_word hword hsolid hend, ih]

/-- Every sequence of characters is a layout: a new character in front widens the first gap, begins
a word of its own or joins the first word. -/
theorem exists_layout (chars : List Char) : ∃ words, Layout words chars := by
  induction chars with
  | nil => exact ⟨[], .blank [] (by simp)⟩
  | cons c chars ih =>
      obtain ⟨words, hlayout⟩ := ih
      by_cases hc : isBlank c = true
      · cases hlayout with
        | blank _ hgap => exact ⟨[], .blank (c :: chars) (by simpa [hc] using hgap)⟩
        | word gap word words rest hgap hword hsolid hend hrest =>
            exact ⟨word :: words,
              .word (c :: gap) word words rest (by simpa [hc] using hgap) hword hsolid hend hrest⟩
      · have hsolid : isBlank c = false := by simpa using hc
        cases hlayout with
        | blank _ hgap =>
            refine ⟨[[c]], .word [] [c] [] chars (by simp) (by simp) (by simpa using hsolid) ?_
              (.blank chars hgap)⟩
            exact fun d hd => hgap d (List.mem_of_mem_head? hd)
        | word gap word words rest hgap hword hwsolid hend hrest =>
            cases gap with
            | nil =>
                exact ⟨(c :: word) :: words,
                  .word [] (c :: word) words rest (by simp) (by simp)
                    (by simpa [hsolid] using hwsolid) hend hrest⟩
            | cons d gap =>
                have hd : isBlank d = true := hgap d List.mem_cons_self
                exact ⟨[c] :: word :: words,
                  .word [] [c] (word :: words) (d :: gap ++ word ++ rest) (by simp) (by simp)
                    (by simpa using hsolid) (by simpa using hd)
                    (.word (d :: gap) word words rest hgap hword hwsolid hend hrest)⟩

/-- The words read are exactly those that the characters lay out. -/
theorem words_of_eq_iff {words : List (List Char)} {chars : List Char} :
    wordsOf chars = words ↔ Layout words chars := by
  refine ⟨?_, words_of_layout⟩
  rintro rfl
  obtain ⟨words, hlayout⟩ := exists_layout chars
  rwa [words_of_layout hlayout]

/-- The text is the words in order with white space around them. -/
def Spells (text : String) (words : List String) : Prop :=
  Layout (words.map String.toList) text.toList

/-- A text spells exactly the words that are read from it. -/
theorem spells_iff {text : String} {expected : List String} :
    Spells text expected ↔ expected = words text := by
  rw [Spells, ← words_of_eq_iff, words]
  constructor
  · intro h
    simp [h]
  · rintro rfl
    simp [Function.comp_def]

/-- A part is found exactly where the characters hold it as one unbroken piece. -/
theorem has_part_iff {part chars : List Char} : hasPart part chars = true ↔ part <:+: chars := by
  induction chars with
  | nil => simp [hasPart]
  | cons c chars ih =>
      rw [hasPart, Bool.or_eq_true, ih, List.isPrefixOf_iff_prefix, List.infix_cons_iff]

end CallProfile.Text
