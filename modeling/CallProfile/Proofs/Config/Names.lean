import CallProfile.Proofs.Config.Fields
import CallProfile.Proofs.Config.Variables

/-!
# Names of variables

A variable is for the key that its name stands for, in upper and lower case
(`key_of_variable_name`). The environment has the settings of its variables under their keys
(`under_environment`), and a name without the marks of paths stands for a key without them
(`plain_of_variable`).
-/

namespace CallProfile.Config

/-- The key whose setting a variable holds, if it holds one. -/
def keyOfVariable? (name : String) : Option String :=
  (variableStart.toList.isPrefixOf? (name.toList.map Char.toLower)).map keyOfName

/-- The setting of a variable is told by its key. -/
theorem of_variable_eq (name value : String) : ofVariable? name value =
    (keyOfVariable? name).map fun key => (key, settingOfVariable key value) := by
  rw [ofVariable?, keyOfVariable?, Option.map_map]
  rfl

/-- The value of a variable, if it is for the key. -/
def valueFor? (key : String) (binding : String × String) : Option String :=
  if keyOfVariable? binding.1 = some key then some binding.2 else none

/-- The values of the variables for a key. -/
def valuesFor (env : Environment) (key : String) : List String :=
  env.bindings.filterMap (valueFor? key)

/-- The environment has the settings of its variables under a key. -/
theorem under_environment (env : Environment) (key : String) :
    Setting.under (ofEnvironment env) key =
      (valuesFor env key).map (settingOfVariable key) := by
  rw [Setting.under, ofEnvironment, valuesFor, List.filterMap_filterMap, List.map_filterMap]
  refine List.filterMap_congr fun binding _ => ?_
  show (ofVariable? binding.1 binding.2).bind _ = _
  rw [of_variable_eq, valueFor?]
  cases keyOfVariable? binding.1 with
  | none => rfl
  | some other =>
      by_cases hsame : other = key
      · simp [hsame]
      · simp [hsame]

/-- The pieces of a text hold only its characters. -/
theorem mem_of_mem_split {p : Char → Bool} {word chars : List Char} {c : Char}
    (hword : word ∈ chars.splitOnP p) (hc : c ∈ word) : c ∈ chars := by
  induction chars generalizing word with
  | nil => simp_all
  | cons first rest ih =>
      rw [List.splitOnP_cons_eq_if_modifyHead] at hword
      split at hword
      · rcases List.mem_cons.mp hword with rfl | hword
        · cases hc
        · exact List.mem_cons_of_mem _ (ih hword hc)
      · cases hpieces : rest.splitOnP p with
        | nil => exact absurd hpieces (List.splitOnP_ne_nil _ _)
        | cons piece pieces =>
            rw [hpieces, List.modifyHead_cons] at hword
            rcases List.mem_cons.mp hword with rfl | hword
            · rcases List.mem_cons.mp hc with rfl | hc
              · exact List.mem_cons_self
              · exact List.mem_cons_of_mem _ (ih (hpieces ▸ List.mem_cons_self) hc)
            · exact List.mem_cons_of_mem _
                (ih (hpieces ▸ List.mem_cons_of_mem _ hword) hc)

/-- Between words stand hyphens, and nothing else is new. -/
theorem mem_of_mem_hyphenated {chars : List Char} {c : Char} (h : c ∈ hyphenated chars) :
    c ∈ chars ∨ c = '-' := by
  fun_induction hyphenated chars with
  | case1 a b rest hends ih => grind
  | case2 a b rest hends ih => grind
  | case3 chars hshort => exact Or.inl h

/-- Words that are joined with hyphens are followed by those only. -/
theorem mem_of_mem_joined {words : List String} {c : Char}
    (h : c ∈ ("-".intercalate words).toList) : c = '-' ∨ ∃ word ∈ words, c ∈ word.toList := by
  induction words with
  | nil => simp at h
  | cons word words ih =>
      cases words with
      | nil => exact Or.inr ⟨word, List.mem_cons_self, by simpa using h⟩
      | cons next words =>
          rw [String.intercalate_cons_cons, String.toList_append, String.toList_append,
            List.mem_append, List.mem_append] at h
          rcases h with (h | h) | h
          · exact Or.inr ⟨word, List.mem_cons_self, h⟩
          · exact Or.inl (by simpa using h)
          · rcases ih h with h | ⟨other, hother, h⟩
            · exact Or.inl h
            · exact Or.inr ⟨other, List.mem_cons_of_mem _ hother, h⟩

/-- A key has the characters of its name and hyphens. -/
theorem mem_of_mem_key {name : List Char} {c : Char} (h : c ∈ (keyOfName name).toList) :
    c ∈ name ∨ c = '-' := by
  rcases mem_of_mem_joined h with h | ⟨word, hword, h⟩
  · exact Or.inr h
  · obtain ⟨chars, hchars, rfl⟩ := List.mem_map.mp hword
    rw [String.toList_ofList] at h
    exact mem_of_mem_hyphenated (mem_of_mem_split (List.mem_of_mem_filter hchars) h)

/-- Letters in lower case are new only behind all the marks of paths. -/
theorem eq_of_to_lower {c mark : Char} (hmark : mark.toNat < 'a'.toNat) (h : c.toLower = mark) :
    c = mark := by
  unfold Char.toLower at h
  split at h
  · next hupper =>
      -- the letter is moved behind the mark
      subst h
      have hlow : 65 ≤ c.val.toNat := hupper.1
      have hhigh : c.val.toNat ≤ 90 := hupper.2
      have hmoved : (c.val.toNat + 32) % 2 ^ 32 < 97 := hmark
      omega
  · exact h

/-- A variable whose name has no marks of paths is for a plain key. -/
theorem plain_of_variable {name key : String} (h : KeyStep.IsPlain name)
    (hkey : keyOfVariable? name = some key) : KeyStep.IsPlain key := by
  obtain ⟨rest, hrest, rfl⟩ := Option.map_eq_some_iff.mp hkey
  have hname := List.isPrefixOf?_eq_some_iff_append_eq.mp hrest
  intro c hc
  rcases mem_of_mem_key hc with hc | rfl
  · have hlower : c ∈ name.toList.map Char.toLower := hname ▸ List.mem_append_right _ hc
    obtain ⟨written, hwritten, hcase⟩ := List.mem_map.mp hlower
    constructor
    · rintro rfl
      exact (h written hwritten).1 (eq_of_to_lower (by decide) hcase)
    · rintro rfl
      exact (h written hwritten).2 (eq_of_to_lower (by decide) hcase)
  · decide

/-- A variable for a key holds a setting. -/
theorem holds_setting_of_key {name key : String} (h : keyOfVariable? name = some key) :
    holdsSetting name = true := by
  obtain ⟨rest, hrest, -⟩ := Option.map_eq_some_iff.mp h
  rw [holdsSetting, ← List.isSome_isPrefixOf?_eq_isPrefixOf, hrest]
  rfl

/-- The variable of a field counts in upper and lower case. -/
theorem key_of_variable_name (field : Field) {name : String}
    (h : name.toList.map Char.toLower = field.variableName.toList.map Char.toLower) :
    keyOfVariable? name = some field.key := by
  rw [keyOfVariable?, h]
  cases field <;> rfl

end CallProfile.Config
