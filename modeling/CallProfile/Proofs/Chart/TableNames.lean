import CallProfile.Chart.Bars
import Mathlib.Data.List.Forall2
import Mathlib.Data.List.Nodup
import Mathlib.Data.List.TakeWhile

/-!
# Labels of tables

Tables are labelled with what stands in front of the first hyphen of their identifiers, or with the
whole identifiers. One scan over the short forms decides for all of them, with the texts that it has
seen, and stops at the first one that comes again. It gets through exactly if no two short forms are
equal (`all_new_iff`), so labels are as distinct as the identifiers (`nodup_table_names_iff`), also
where a table is named like the first group of another one. The main result is
`table_names_tell_apart`.
-/

namespace CallProfile.Chart

variable {ids : List String}

/-! ## Short identifiers -/

/-- A text is what stands in front of the first hyphen of an identifier, which is all of it if it
has none. -/
structure IsShort (id short : String) : Prop where
  unbroken : '-' ∉ short.toList
  front : id = short ∨ ∃ rest, id = short ++ "-" ++ rest

/-- Nothing else stands in front of the first hyphen than the short identifier. -/
theorem short_id_of_is_short {id short : String} (h : IsShort id short) : shortId id = short := by
  have hunbroken : ∀ c ∈ short.toList, (c != '-') = true := by
    intro c hc
    rw [bne_iff_ne]
    rintro rfl
    exact h.unbroken hc
  rw [shortId, ← String.toList_inj, String.toList_ofList]
  rcases h.front with rfl | ⟨rest, rfl⟩
  · exact List.takeWhile_eq_self_iff.mpr hunbroken
  · rw [String.toList_append, String.toList_append, List.append_assoc,
      List.takeWhile_append_of_pos hunbroken]
    exact List.append_nil _

/-- The short identifier stands in front of the first hyphen. -/
theorem is_short_short_id (id : String) : IsShort id (shortId id) where
  unbroken := by
    rw [shortId, String.toList_ofList]
    intro hmem
    simpa using List.mem_takeWhile_imp hmem
  front := by
    have hparts := List.takeWhile_append_dropWhile (p := (· != '-')) (l := id.toList)
    have hstop := List.head?_dropWhile_not (· != '-') id.toList
    cases hrest : id.toList.dropWhile (· != '-') with
    | nil =>
        rw [hrest, List.append_nil] at hparts
        exact Or.inl (by rw [shortId, hparts, String.ofList_toList])
    | cons c rest =>
        -- the scan for a hyphen stops at one
        rw [hrest, List.head?_cons] at hstop
        obtain rfl : c = '-' := by simpa using hstop
        refine Or.inr ⟨String.ofList rest, ?_⟩
        rw [← String.toList_inj, String.toList_append, String.toList_append, shortId,
          String.toList_ofList, String.toList_ofList, String.toList_ofList, List.append_assoc]
        exact hparts.symm.trans (congrArg _ hrest)

/-- The short identifier is the only text in front of the first hyphen. -/
theorem is_short_iff {id short : String} : IsShort id short ↔ short = shortId id :=
  ⟨fun h => (short_id_of_is_short h).symm, fun h => h ▸ is_short_short_id id⟩

/-- Texts that stand in front of the first hyphens are the short identifiers. -/
theorem forall₂_is_short_iff {labels : List String} :
    List.Forall₂ IsShort ids labels ↔ labels = ids.map shortId := by
  constructor
  · intro h
    induction h with
    | nil => rfl
    | cons hshort _ ih => rw [List.map_cons, is_short_iff.mp hshort, ih]
  · rintro rfl
    exact List.forall₂_map_right_iff.mpr (List.forall₂_same.mpr fun id _ => is_short_short_id id)

/-- No two identifiers have the same text in front of their first hyphens. -/
def ShortsDiffer (ids : List String) : Prop :=
  ids.Pairwise fun id other => ∀ short, IsShort id short → ¬ IsShort other short

/-- Short forms differ if the short identifiers are distinct. -/
theorem shorts_differ_iff : ShortsDiffer ids ↔ (ids.map shortId).Nodup := by
  simp only [ShortsDiffer, is_short_iff, forall_eq, List.Nodup, List.pairwise_map, Ne]

/-! ## The scan -/

section Scan

variable {seen texts : List String}

/-- The scan passes a text that it has not seen, and goes on with that text seen. -/
theorem all_new_cons {text : String} :
    allNew seen (text :: texts) = true ↔ text ∉ seen ∧ allNew (text :: seen) texts = true := by
  simp only [allNew, Bool.and_eq_true, Bool.not_eq_true', List.contains_eq_mem,
    decide_eq_false_iff_not]

/-- The scan gets through exactly if no text comes twice and none was seen at the start. -/
theorem all_new_iff : allNew seen texts = true ↔ texts.Nodup ∧ seen.Disjoint texts := by
  induction texts generalizing seen with
  | nil => simp [allNew]
  | cons text rest ih =>
      -- a text behind the first one must differ from it, as from those seen before
      rw [all_new_cons, ih, List.nodup_cons, List.disjoint_cons_left, List.disjoint_cons_right]
      tauto

end Scan

/-! ## Labels -/

/-- The labels are the short identifiers where these are distinct, and the whole ones elsewhere. -/
theorem table_names_eq_if_nodup (ids : List String) :
    tableNames ids = if (ids.map shortId).Nodup then ids.map shortId else ids := by
  have hscan : allNew [] (ids.map shortId) = true ↔ (ids.map shortId).Nodup := by
    rw [all_new_iff, and_iff_left (List.disjoint_nil_left _)]
  simp only [tableNames, hscan]

-- an empty label is as good as any other
example : tableNames ["7c4f2940-7893", "-9a1b", "plain"] = ["7c4f2940", "", "plain"] := by
  decide

/-- There is one label for each table. -/
theorem length_table_names (ids : List String) : (tableNames ids).length = ids.length := by
  rw [table_names_eq_if_nodup]
  split
  · exact List.length_map _
  · rfl

/-- No two labels are equal exactly if no two identifiers are. -/
theorem nodup_table_names_iff : (tableNames ids).Nodup ↔ ids.Nodup := by
  rw [table_names_eq_if_nodup]
  split
  case isTrue hshorts => exact iff_of_true hshorts hshorts.of_map
  case isFalse => exact Iff.rfl

/-- Labels tell tables apart: there is one for each table, no two are equal, and they are all short
or all whole. Short they are exactly if the short forms differ. -/
structure TellsApart (ids labels : List String) : Prop where
  length : labels.length = ids.length
  distinct : labels.Nodup
  uniform : List.Forall₂ IsShort ids labels ∨ labels = ids
  short_iff : List.Forall₂ IsShort ids labels ↔ ShortsDiffer ids

/-- Tables of different identifiers have labels that tell them apart. -/
theorem table_names_tell_apart (hids : ids.Nodup) : TellsApart ids (tableNames ids) where
  length := length_table_names ids
  distinct := nodup_table_names_iff.mpr hids
  uniform := by
    rw [forall₂_is_short_iff, table_names_eq_if_nodup]
    split
    · exact Or.inl rfl
    · exact Or.inr rfl
  short_iff := by
    rw [forall₂_is_short_iff, shorts_differ_iff]
    constructor
    · -- short identifiers that serve as labels are distinct, as all labels are
      intro hshort
      rw [← hshort]
      exact nodup_table_names_iff.mpr hids
    · intro hshorts
      rw [table_names_eq_if_nodup, if_pos hshorts]

/-- Identifiers of which one is the first group of another, and two have an empty first group. -/
def entangledIds : List String :=
  ["7c4f2940", "7c4f2940-7893-3334", "-", "-9a1b", "plain"]

/-- Each of these tables is labelled with its whole identifier. -/
theorem entangled_ids_told_apart :
    entangledIds.Nodup ∧ entangledIds.map shortId = ["7c4f2940", "7c4f2940", "", "", "plain"] ∧
      tableNames entangledIds = entangledIds ∧
      TellsApart entangledIds (tableNames entangledIds) := by
  have hids : entangledIds.Nodup := by decide
  exact ⟨hids, by decide, by decide, table_names_tell_apart hids⟩

end CallProfile.Chart
