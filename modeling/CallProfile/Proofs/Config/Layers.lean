import CallProfile.Config.Layer
import CallProfile.Proofs.Lookup
import Mathlib.Data.List.TakeWhile

/-!
# What counts in layered settings

Under a key that is a plain name lie, one over another, the settings that the layers have for it
(`lookup_layer_plain`). Only tables let something through: where a layer has a list or a single
value, that replaces what lies below (`lookup_layer`).
-/

namespace CallProfile

namespace KeyStep

/-- A key without the marks of paths. -/
def IsPlain (key : String) : Prop :=
  ∀ c ∈ key.toList, c ≠ '.' ∧ c ≠ '['

/-- Without the marks of paths, nothing goes on behind a name. -/
theorem read_steps_plain {c : Char} {rest : List Char} (hdot : c ≠ '.') (hbracket : c ≠ '[')
    (fuel : Nat) : readSteps? fuel (c :: rest) = none := by
  cases fuel with
  | zero => rfl
  | succ fuel =>
      unfold readSteps?
      split
      · rfl
      · next hnil _ => cases hnil
      · next hcons => exact absurd (List.cons.inj hcons).1 hdot
      · next hcons => exact absurd (List.cons.inj hcons).1 hbracket
      · rfl

/-- A plain key is a path of one step. -/
theorem path_plain {key : String} (h : IsPlain key) : path key = [.key key] := by
  have hparts := List.takeWhile_append_dropWhile (p := isNameChar) (l := key.toList)
  unfold path readName?
  dsimp only
  split
  · rfl
  · cases hdrop : key.toList.dropWhile isNameChar with
    | nil =>
        -- the key is one name
        rw [hdrop, List.append_nil] at hparts
        rw [hparts, String.ofList_toList]
        rfl
    | cons c rest =>
        have hmem : c ∈ key.toList := by
          rw [← hparts, hdrop]
          exact List.mem_append_right _ List.mem_cons_self
        simp only [Option.bind_eq_bind, Option.bind_some,
          read_steps_plain (h c hmem).1 (h c hmem).2]
        rfl

/-- A key that is one name. -/
structure IsName (key : String) : Prop where
  named : key.toList ≠ []
  plain : ∀ c ∈ key.toList, isNameChar c = true

/-- A name is plain. -/
theorem IsName.is_plain {key : String} (h : IsName key) : IsPlain key := by
  intro c hc
  have hname := h.plain c hc
  constructor
  · rintro rfl
    revert hname
    decide
  · rintro rfl
    revert hname
    decide

end KeyStep

namespace Setting

/-- Whether the setting is one value or a list, which replaces what lies below it. -/
def Replaces : Setting → Prop
  | table _ => False
  | _ => True

/-- Such a setting counts alone. -/
theorem Replaces.atop_eq {setting : Setting} (h : setting.Replaces) (below : Setting) :
    setting.atop below = setting := by
  cases setting with
  | table entries => exact h.elim
  | _ => rfl

/-- What converts no tables converts a setting without regard to what lies below it. -/
theorem convert_atop {α : Type} {convert : Setting → Option α}
    (htable : ∀ entries, convert (table entries) = none) (setting below : Setting) :
    convert (setting.atop below) = convert setting := by
  cases setting with
  | table entries => rw [atop, htable, htable]
  | _ => rfl

/-- The settings that a layer has under a key, in their order. -/
def under (layer : List (String × Setting)) (key : String) : List Setting :=
  layer.filterMap fun (name, setting) => if name = key then some setting else none

/-- The settings under a key with one more setting in front. -/
theorem under_cons (name : String) (setting : Setting) (layer : List (String × Setting))
    (key : String) : under ((name, setting) :: layer) key =
      if name = key then setting :: under layer key else under layer key := by
  by_cases h : name = key
  · simp [under, h]
  · simp [under, h]

/-- Where no key is repeated, a layer has one setting under a key or none. -/
theorem under_of_nodup {layer : List (String × Setting)} (hnodup : (layer.map (·.1)).Nodup)
    (key : String) : under layer key = (layer.lookup key).toList := by
  induction layer with
  | nil => rfl
  | cons entry layer ih =>
      obtain ⟨name, setting⟩ := entry
      obtain ⟨habsent, hrest⟩ := List.nodup_cons.mp hnodup
      rw [under_cons, List.lookup_cons]
      by_cases hsame : name = key
      · -- no later entry of the layer has the name
        have hlater : under layer key = [] := by
          rw [ih hrest, lookup_of_not_mem (hsame ▸ habsent)]
          rfl
        rw [if_pos hsame, hlater, beq_iff_eq.mpr hsame.symm]
        rfl
      · rw [if_neg hsame, ih hrest, beq_false_of_ne (Ne.symm hsame)]

/-- A setting under a plain key is laid over the one there. -/
theorem lookup_update_plain {name : String} (hplain : KeyStep.IsPlain name)
    (below setting : Setting) (key : String) :
    (below.update setting.atop (KeyStep.path name)).entries.lookup key =
      if key = name then some (setting.atop ((below.entries.lookup name).getD absent))
      else below.entries.lookup key := by
  rw [KeyStep.path_plain hplain]
  exact lookup_replaced below.entries name _ key

/-- Under a plain key, the settings of a layer are laid one after another over what was there. -/
theorem lookup_layer_plain {layer : List (String × Setting)}
    (hplain : ∀ entry ∈ layer, KeyStep.IsPlain entry.1) (below : Setting) (key : String) :
    (below.layer layer).entries.lookup key =
      (under layer key).foldl (fun found setting => some (setting.atop (found.getD absent)))
        (below.entries.lookup key) := by
  induction layer generalizing below with
  | nil => rfl
  | cons entry layer ih =>
      obtain ⟨name, setting⟩ := entry
      have hname : KeyStep.IsPlain name := hplain (name, setting) List.mem_cons_self
      have hstep := ih (fun entry hentry => hplain entry (List.mem_cons_of_mem _ hentry))
        (below.update setting.atop (KeyStep.path name))
      show ((below.update setting.atop (KeyStep.path name)).layer layer).entries.lookup key = _
      rw [hstep, lookup_update_plain hname, under_cons]
      by_cases hsame : name = key
      · rw [if_pos hsame, if_pos hsame.symm, hsame, List.foldl_cons]
      · rw [if_neg hsame, if_neg (Ne.symm hsame)]

/-- A layer with at most one setting under a plain key lays that over what was there. -/
theorem lookup_layer_single {layer : List (String × Setting)} {key : String}
    {given : Option Setting} (hplain : ∀ entry ∈ layer, KeyStep.IsPlain entry.1)
    (hgiven : under layer key = given.toList) (below : Setting) :
    (below.layer layer).entries.lookup key =
      (given.map fun setting => setting.atop ((below.entries.lookup key).getD absent)).or
        (below.entries.lookup key) := by
  rw [lookup_layer_plain hplain, hgiven]
  cases given with
  | none => rfl
  | some setting => rfl

/-- An empty layer changes nothing. -/
@[simp]
theorem layer_nil (below : Setting) : below.layer [] = below :=
  rfl

/-- Under a name stands what a layer has for it, or else what was there below. -/
theorem lookup_layer {layer : List (String × Setting)}
    (hlayer : ∀ entry ∈ layer, KeyStep.IsName entry.1 ∧ entry.2.Replaces)
    (hnodup : (layer.map (·.1)).Nodup) (below : Setting) (key : String) :
    (below.layer layer).entries.lookup key = (layer.lookup key).or (below.entries.lookup key) := by
  rw [lookup_layer_single (fun entry hentry => (hlayer entry hentry).1.is_plain)
    (under_of_nodup hnodup key)]
  cases hfound : layer.lookup key with
  | none => rfl
  | some setting =>
      obtain ⟨_, _, rfl, _⟩ := List.lookup_eq_some_iff.mp hfound
      have hreplaces := (hlayer (key, setting) (by simp)).2
      rw [Option.map_some, hreplaces.atop_eq]

end Setting

end CallProfile
