import CallProfile.Proofs.Lookup
import CallProfile.Toml.Document

/-!
# No key stands twice

A document whose keys repeat is refused, so its settings have one entry for each key
(`nodup_read`). Every statement either adds an entry under a free key or puts one in place of
another (`Keeps`), whatever it changes further inside.
-/

namespace CallProfile.Toml

/-- No key stands twice among the entries. -/
def Distinct (entries : Entries) : Prop :=
  (entries.map (·.1)).Nodup

/-- A change that leaves no key twice where none stood twice. -/
def Keeps (change : Entries → Option Entries) : Prop :=
  ∀ entries result, Distinct entries → change entries = some result → Distinct result

/-- A change that places one node under a key, which is free or whose node it replaces. -/
def Places (key : String) (change : Entries → Option Entries) : Prop :=
  ∀ entries result, change entries = some result →
    ∃ node, (entries.lookup key = none ∧ result = entries ++ [(key, node)]) ∨
      result = putNode entries key node

/-- An entry under a new key leaves keys apart. -/
theorem Distinct.concat {entries : Entries} {key : String} (h : Distinct entries)
    (hfree : key ∉ entries.map (·.1)) (node : Node) : Distinct (entries ++ [(key, node)]) := by
  rw [Distinct, List.map_append, List.map_singleton, ← List.concat_eq_append]
  exact List.Nodup.concat hfree h

/-- Placing one node keeps keys apart. -/
theorem Places.keeps (key : String) {change : Entries → Option Entries} (h : Places key change) :
    Keeps change := by
  intro entries result hentries hresult
  obtain ⟨node, ⟨hfree, rfl⟩ | rfl⟩ := h entries result hresult
  · exact hentries.concat (not_mem_of_lookup hfree) node
  · have hothers : Distinct (entries.filter (·.1 != key)) :=
      hentries.sublist (List.filter_sublist.map _)
    exact hothers.concat (not_mem_of_lookup lookup_filter_self) node

/-- Adding a node keeps keys apart. -/
theorem keeps_add_node (key : String) (node : Node) : Keeps (addNode key node) := by
  refine Places.keeps key fun entries result hresult => ?_
  unfold addNode at hresult
  split at hresult
  · cases hresult
  · next hfree =>
      cases hresult
      exact ⟨node, Or.inl ⟨Option.not_isSome_iff_eq_none.mp hfree, rfl⟩⟩

/-- A change further inside keeps keys apart. -/
theorem Keeps.within (enter : Enter) {change : Entries → Option Entries} (hchange : Keeps change)
    (path : List String) : Keeps (within enter change path) := by
  cases path with
  | nil => exact hchange
  | cons key path =>
      refine Places.keeps key fun entries result hresult => ?_
      simp only [Toml.within, Option.bind_eq_bind, Option.bind_eq_some_iff, Option.pure_def,
        Option.some.injEq] at hresult
      obtain ⟨⟨inner, rebuild⟩, -, changed, -, rfl⟩ := hresult
      exact ⟨_, Or.inr rfl⟩

/-- An assignment keeps keys apart. -/
theorem keeps_assign (key : List String) (value : Setting) : Keeps (assign key value) := by
  intro entries result h hresult
  unfold assign at hresult
  split at hresult
  · cases hresult
  · exact keeps_add_node _ _ entries result h hresult
  · exact ((keeps_add_node _ _).within enterOwner _).within enterDotted _ entries result h hresult

/-- Opening a table keeps keys apart. -/
theorem keeps_open_table (path : List String) : Keeps (openTable path) := by
  intro entries result h hresult
  unfold openTable at hresult
  split at hresult
  · cases hresult
  · next name above _ =>
      refine Keeps.within enterHeader (Places.keeps name ?_) _ entries result h hresult
      intro inner opened hopened
      dsimp only at hopened
      split at hopened
      · next hfree =>
          cases hopened
          exact ⟨_, Or.inl ⟨hfree, rfl⟩⟩
      · cases hopened
        exact ⟨_, Or.inr rfl⟩
      · cases hopened

/-- Opening one more table keeps keys apart. -/
theorem keeps_open_element (path : List String) : Keeps (openElement path) := by
  intro entries result h hresult
  unfold openElement at hresult
  split at hresult
  · cases hresult
  · next name above _ =>
      refine Keeps.within enterHeader (Places.keeps name ?_) _ entries result h hresult
      intro inner opened hopened
      dsimp only at hopened
      split at hopened
      · next hfree =>
          cases hopened
          exact ⟨_, Or.inl ⟨hfree, rfl⟩⟩
      · cases hopened
        exact ⟨_, Or.inr rfl⟩
      · cases hopened

/-! ## Statements -/

variable {fuel : Nat} {draft next : Draft} {chars rest : List Char}

/-- Reading an assignment keeps keys apart. -/
theorem distinct_read_assignment (h : Distinct draft.root)
    (hread : readAssignment fuel draft chars = some (next, rest)) : Distinct next.root := by
  unfold readAssignment at hread
  simp only [Option.bind_eq_bind, Option.bind_eq_some_iff] at hread
  obtain ⟨⟨key, behind⟩, -, hread⟩ := hread
  split at hread
  · simp only [Option.bind_eq_some_iff, Option.pure_def, Option.some.injEq, Prod.mk.injEq] at hread
    obtain ⟨value, -, root, hroot, rfl, -⟩ := hread
    exact (keeps_assign key value.1).within enterHeader _ _ _ h hroot
  · cases hread

/-- Reading a header keeps keys apart. -/
theorem distinct_read_header (h : Distinct draft.root)
    (hread : readHeader fuel draft chars = some (next, rest)) : Distinct next.root := by
  unfold readHeader at hread
  split at hread
  · simp only [Option.bind_eq_bind, Option.bind_eq_some_iff] at hread
    obtain ⟨⟨path, behind⟩, -, hread⟩ := hread
    split at hread
    · simp only [Option.bind_eq_some_iff, Option.pure_def, Option.some.injEq, Prod.mk.injEq]
        at hread
      obtain ⟨root, hroot, rfl, -⟩ := hread
      exact keeps_open_element _ _ _ h hroot
    · cases hread
  · simp only [Option.bind_eq_bind, Option.bind_eq_some_iff] at hread
    obtain ⟨⟨path, behind⟩, -, hread⟩ := hread
    split at hread
    · simp only [Option.bind_eq_some_iff, Option.pure_def, Option.some.injEq, Prod.mk.injEq]
        at hread
      obtain ⟨root, hroot, rfl, -⟩ := hread
      exact keeps_open_table _ _ _ h hroot
    · cases hread

/-- Reading statements keeps keys apart. -/
theorem distinct_read_statements (h : Distinct draft.root)
    (hread : readStatements fuel draft chars = some next) : Distinct next.root := by
  induction fuel generalizing draft chars with
  | zero => cases hread
  | succ fuel ih =>
      unfold readStatements at hread
      simp only [Option.bind_eq_bind, Option.bind_eq_some_iff] at hread
      obtain ⟨shown, -, hread⟩ := hread
      split at hread
      · cases hread
        exact h
      · -- a header or an assignment, then the end of its line
        have hstep : ∃ changed behind, Distinct changed.root ∧
            (if endsLine behind then readStatements fuel changed behind else none) = some next := by
          split at hread
          · obtain ⟨⟨changed, behind⟩, hheader, hread⟩ := Option.bind_eq_some_iff.mp hread
            exact ⟨changed, behind, distinct_read_header h hheader, hread⟩
          · obtain ⟨⟨changed, behind⟩, hassigned, hread⟩ := Option.bind_eq_some_iff.mp hread
            exact ⟨changed, behind, distinct_read_assignment h hassigned, hread⟩
        obtain ⟨changed, behind, hchanged, hread⟩ := hstep
        split at hread
        · exact ih hchanged hread
        · cases hread

/-- Settings stand under the keys of their nodes. -/
theorem keys_entry_settings (entries : Entries) :
    (entrySettings entries).map (·.1) = entries.map (·.1) := by
  induction entries with
  | nil => rfl
  | cons entry entries ih =>
      obtain ⟨key, node⟩ := entry
      rw [entrySettings, List.map_cons, List.map_cons, ih]

/-- No key stands twice in the settings of a document. -/
theorem nodup_read {text : String} {settings : List (String × Setting)}
    (h : read? text = some settings) : (settings.map (·.1)).Nodup := by
  unfold read? at h
  obtain ⟨draft, hdraft, rfl⟩ := Option.map_eq_some_iff.mp h
  rw [keys_entry_settings]
  have hempty : Distinct (⟨[], []⟩ : Draft).root := List.nodup_nil
  exact distinct_read_statements hempty hdraft

end CallProfile.Toml
