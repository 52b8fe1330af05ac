import CallProfile.Proofs.Text.Words

/-!
# Words with gaps between them

Words are written one after the other with white space of any kind and amount between each two
(`spaced`), and reading gives them back (`words_of_spaced`). A piece without white space stands in a
text exactly where it stands in one of the words of the text (`infix_iff_words`).
-/

namespace CallProfile.Text

/-- White space that keeps two words apart. -/
def IsGap (text : String) : Prop :=
  text ≠ "" ∧ ∀ c ∈ text.toList, isBlank c = true

/-- A text that can be a word: it is not empty and holds no white space. -/
def IsWord (text : String) : Prop :=
  text ≠ "" ∧ ∀ c ∈ text.toList, isBlank c = false

/-- Words, each behind its gap. -/
def spaced (pieces : List (String × String)) : String :=
  String.join (pieces.map fun piece => piece.1 ++ piece.2)

/-! ## Reading spaced words -/

/-- The first of spaced words stands behind its gap. -/
theorem spaced_cons (gap word : String) (pieces : List (String × String)) :
    (spaced ((gap, word) :: pieces)).toList =
      gap.toList ++ word.toList ++ (spaced pieces).toList := by
  simp [spaced]

/-- Spaced words begin with white space. -/
theorem head_spaced {pieces : List (String × String)} (h : ∀ piece ∈ pieces, IsGap piece.1) :
    ∀ c ∈ (spaced pieces).toList.head?, isBlank c = true := by
  cases pieces with
  | nil => simp [spaced]
  | cons piece pieces =>
      obtain ⟨gap, word⟩ := piece
      obtain ⟨hne, hblank⟩ := h (gap, word) List.mem_cons_self
      have hchars : gap.toList ≠ [] := fun hnil => hne (String.toList_eq_nil_iff.mp hnil)
      rw [spaced_cons, List.append_assoc, List.head?_append_of_ne_nil _ hchars]
      exact fun c hc => hblank c (List.mem_of_mem_head? hc)

/-- Spaced words are a layout of the words. -/
theorem layout_spaced {pieces : List (String × String)} (hgaps : ∀ piece ∈ pieces, IsGap piece.1)
    (hwords : ∀ piece ∈ pieces, IsWord piece.2) :
    Layout (pieces.map (·.2.toList)) (spaced pieces).toList := by
  induction pieces with
  | nil => exact .blank [] (by simp)
  | cons piece pieces ih =>
      obtain ⟨gap, word⟩ := piece
      have hrest : ∀ piece ∈ pieces, IsGap piece.1 := fun piece hpiece =>
        hgaps piece (List.mem_cons_of_mem _ hpiece)
      obtain ⟨hne, hsolid⟩ := hwords (gap, word) List.mem_cons_self
      rw [spaced_cons]
      exact .word gap.toList word.toList _ _ (hgaps (gap, word) List.mem_cons_self).2
        (fun hnil => hne (String.toList_eq_nil_iff.mp hnil)) hsolid (head_spaced hrest)
        (ih hrest fun piece hpiece => hwords piece (List.mem_cons_of_mem _ hpiece))

/-- A word and spaced words behind it are read as they stand. -/
theorem words_of_spaced {first : String} {pieces : List (String × String)} (hfirst : IsWord first)
    (hgaps : ∀ piece ∈ pieces, IsGap piece.1) (hwords : ∀ piece ∈ pieces, IsWord piece.2) :
    words (first ++ spaced pieces) = first :: pieces.map (·.2) := by
  have hlayout : Layout (first.toList :: pieces.map (·.2.toList))
      ([] ++ first.toList ++ (spaced pieces).toList) :=
    .word [] first.toList _ _ (by simp) (fun hnil => hfirst.1 (String.toList_eq_nil_iff.mp hnil))
      hfirst.2 (head_spaced hgaps) (layout_spaced hgaps hwords)
  refine (spells_iff.mp ?_).symm
  simpa [Spells, Function.comp_def] using hlayout

/-! ## Pieces of words -/

section Pieces

variable {part : List Char}

/-- A piece that does not hold a character stands on one side of it. -/
theorem infix_append_cons_iff {c : Char} (hc : c ∉ part) (before after : List Char) :
    part <:+: before ++ c :: after ↔ part <:+: before ∨ part <:+: after := by
  constructor
  · intro h
    induction before with
    | nil =>
        rcases List.infix_cons_iff.mp h with hprefix | hinfix
        · rcases List.prefix_cons_iff.mp hprefix with rfl | ⟨rest, rfl, -⟩
          · exact Or.inl List.nil_infix
          · exact absurd List.mem_cons_self hc
        · exact Or.inr hinfix
    | cons b before ih =>
        rcases List.infix_cons_iff.mp h with hprefix | hinfix
        · -- A piece that reached the character would hold it.
          have hupto : b :: before ++ [c] <+: b :: before ++ c :: after := ⟨after, by simp⟩
          rcases List.prefix_or_prefix_of_prefix hprefix hupto with hshort | hlong
          · rcases List.prefix_concat_iff.mp hshort with rfl | hbefore
            · exact absurd (by simp) hc
            · exact Or.inl hbefore.isInfix
          · exact absurd (hlong.subset (by simp)) hc
        · exact (ih hinfix).imp_left List.infix_cons
  · rintro (h | h)
    · exact h.trans (List.prefix_append _ _).isInfix
    · exact h.trans ((List.suffix_cons c after).trans (List.suffix_append _ _)).isInfix

/-- A piece without white space does not stand in white space in front. -/
theorem infix_gap_append_iff (hne : part ≠ []) (hsolid : ∀ c ∈ part, isBlank c = false)
    {gap : List Char} (hgap : ∀ c ∈ gap, isBlank c = true) (rest : List Char) :
    part <:+: gap ++ rest ↔ part <:+: rest := by
  induction gap with
  | nil => rfl
  | cons c gap ih =>
      have hc : c ∉ part := fun hmem => by
        simpa [hsolid c hmem] using hgap c List.mem_cons_self
      have hsides := infix_append_cons_iff hc [] (gap ++ rest)
      rw [ih fun d hd => hgap d (List.mem_cons_of_mem c hd), List.infix_nil] at hsides
      simpa [hne] using hsides

/-- A piece without white space stands in a layout exactly where it stands in a word. -/
theorem infix_iff_of_layout (hne : part ≠ []) (hsolid : ∀ c ∈ part, isBlank c = false)
    {words : List (List Char)} {chars : List Char} (h : Layout words chars) :
    part <:+: chars ↔ ∃ word ∈ words, part <:+: word := by
  induction h with
  | blank gap hgap =>
      have hskip := infix_gap_append_iff hne hsolid hgap []
      rw [List.append_nil, List.infix_nil] at hskip
      simpa [hne] using hskip
  | word gap word words rest hgap _ _ hend _ ih =>
      have hsplit : part <:+: word ++ rest ↔ part <:+: word ∨ part <:+: rest := by
        cases rest with
        | nil => simp [hne]
        | cons c rest =>
            have hc : isBlank c = true := hend c rfl
            have hmem : c ∉ part := fun hmem => by simp [hsolid c hmem] at hc
            have hspace : ∀ d ∈ [c], isBlank d = true := by simpa using hc
            have hskip := infix_gap_append_iff hne hsolid hspace rest
            rw [infix_append_cons_iff hmem, ← hskip, List.singleton_append]
      rw [List.append_assoc, infix_gap_append_iff hne hsolid hgap, hsplit, ih,
        List.exists_mem_cons_iff]

/-- A piece without white space stands in a text exactly where it stands in a word of the text. -/
theorem infix_iff_words (hne : part ≠ []) (hsolid : ∀ c ∈ part, isBlank c = false) (text : String) :
    part <:+: text.toList ↔ ∃ word ∈ words text, part <:+: word.toList := by
  have hlayout : Layout ((words text).map String.toList) text.toList := spells_iff.mpr rfl
  rw [infix_iff_of_layout hne hsolid hlayout]
  simp

end Pieces

end CallProfile.Text
