import CallProfile.Proofs.Config.Names
import CallProfile.Proofs.Config.Printed
import CallProfile.Proofs.Number.Arithmetic
import CallProfile.Proofs.Toml.Keys

/-!
# Where each field is from

Every field is taken by itself from the first source that has something for it: its variable, its
key in the file, or else the default (`Field.value?`). Laying the sources over one another comes to
the same (`read_layers`), if no key is a path. So a file is loaded field by field
(`load_field_by_field`): a variable concerns no field but its own, and what is loaded is usable.
-/

namespace CallProfile.Config

/-! ## Layers -/

namespace Field

/-- The setting that counts for the field: that of its variable, or else that of its key in the
file. -/
def source? (field : Field) (file : List (String × Setting)) (env : Environment) :
    Option Setting :=
  ((valuesFor env field.key).head?.map (settingOfVariable field.key)).or (file.lookup field.key)

/-- What the field holds, if the setting that counts for it fits: without a setting, the default. -/
def value? (field : Field) (file : List (String × Setting)) (env : Environment) :
    Option field.Value :=
  (field.source? file env).elim (some (field.get default)) field.convert?

/-- No field is a table. -/
theorem convert_table (field : Field) (entries : List (String × Setting)) :
    field.convert? (.table entries) = none := by
  cases field <;> rfl

/-- A layer with a setting for a field gives it, and leaves the field alone otherwise. -/
theorem read_layer (field : Field) {layer : List (String × Setting)} {given : Option Setting}
    (hplain : ∀ entry ∈ layer, KeyStep.IsPlain entry.1)
    (hgiven : Setting.under layer field.key = given.toList) (below : Setting) :
    field.read? (below.layer layer) = given.elim (field.read? below) field.convert? := by
  rw [read?, Setting.lookup_layer_single hplain hgiven]
  cases given with
  | none => rfl
  | some setting => exact Setting.convert_atop field.convert_table setting _

/-- Under everything else each field has its default. -/
theorem read_base (field : Field) : field.read? base = some (field.get default) := by
  rw [read?, lookup_base]
  cases field <;> rfl

end Field

/-- The variables that hold settings are named without marks of paths, and each field has one of
them at most. -/
structure Unambiguous (env : Environment) : Prop where
  plain : ∀ binding ∈ env.bindings, holdsSetting binding.1 = true → KeyStep.IsPlain binding.1
  single : ∀ field : Field, (valuesFor env field.key).length ≤ 1

/-- The environment has plain keys. -/
theorem Unambiguous.plain_keys {env : Environment} (h : Unambiguous env) :
    ∀ entry ∈ ofEnvironment env, KeyStep.IsPlain entry.1 := by
  intro entry hentry
  obtain ⟨⟨name, value⟩, hbinding, hentry⟩ := List.mem_filterMap.mp hentry
  dsimp only at hentry
  rw [of_variable_eq] at hentry
  obtain ⟨key, hkey, rfl⟩ := Option.map_eq_some_iff.mp hentry
  exact plain_of_variable (h.plain _ hbinding (holds_setting_of_key hkey)) hkey

/-- The environment has the setting of a field's variable, if there is one. -/
theorem Unambiguous.under_field {env : Environment} (h : Unambiguous env) (field : Field) :
    Setting.under (ofEnvironment env) field.key =
      ((valuesFor env field.key).head?.map (settingOfVariable field.key)).toList := by
  rw [under_environment]
  have hsingle := h.single field
  cases hvalues : valuesFor env field.key with
  | nil => rfl
  | cons value values =>
      rw [hvalues, List.length_cons] at hsingle
      have hnil : values = [] := List.length_eq_zero_iff.mp (by omega)
      rw [hnil]
      rfl

/-- The layers hold for each field what its sources give. -/
theorem read_layers {file : List (String × Setting)} {env : Environment}
    (hkeys : ∀ entry ∈ file, KeyStep.IsPlain entry.1) (hnodup : (file.map (·.1)).Nodup)
    (henv : Unambiguous env) (field : Field) :
    field.read? ((base.layer file).layer (ofEnvironment env)) = field.value? file env := by
  rw [field.read_layer henv.plain_keys (henv.under_field field),
    field.read_layer hkeys (Setting.under_of_nodup hnodup field.key), field.read_base,
    Field.value?, Field.source?]
  cases (valuesFor env field.key).head? with
  | none => rfl
  | some value => rfl

/-! ## Usable configurations -/

/-- A number that is not negative is not undefined. -/
theorem not_nan_of_nonneg {x : Float} (h : 0 ≤ x) : x.isNaN = false := by
  have hle := Number.Binary64.le_parts.mp h
  show (Number.Binary64.parts x).isNaN = false
  cases hparts : Number.Binary64.parts x with
  | notANumber =>
      rw [hparts] at hle
      cases hle
  | _ => rfl

/-- The share below which slices are folded together is a fraction. -/
def InRange (c : Config) : Prop :=
  0 ≤ c.otherThreshold ∧ c.otherThreshold < 1

/-- What every configuration meets that is loaded. -/
structure Usable (c : Config) : Prop where
  inRange : c.InRange
  number : c.otherThreshold.isNaN = false
  width : 1 ≤ c.width
  height : 1 ≤ c.height
  outputDir : c.outputDir ≠ ""

/-- There is no configuration but a problem, with this wording. -/
def FailsWith (text : String) (result : Except Problem Config) : Prop :=
  ∃ problem, result = .error problem ∧ problem.message = text

/-- The result of loading is the configuration if that is usable, and tells the first condition that
it does not meet otherwise. -/
structure Judged (c : Config) (result : Except Problem Config) : Prop where
  usable : c.Usable → result = .ok c
  threshold : ¬c.InRange →
    FailsWith ("other-threshold must be in [0, 1), got " ++ plainStyle.text c.otherThreshold) result
  size : c.InRange → c.width = 0 ∨ c.height = 0 →
    FailsWith "width and height must be non-zero" result
  directory : c.InRange → 1 ≤ c.width → 1 ≤ c.height → c.outputDir = "" →
    FailsWith "output-dir cannot be empty" result

variable {c : Config}

/-- A threshold is refused if it is out of range. -/
theorem refused_iff :
    (!(decide (0 ≤ c.otherThreshold) && decide (c.otherThreshold < 1))) = true ↔ ¬c.InRange := by
  rw [Bool.not_eq_true', ← Bool.not_eq_true, Bool.and_eq_true, decide_eq_true_iff,
    decide_eq_true_iff, InRange]

/-- Checking a configuration judges it. -/
theorem judged_validated (c : Config) : Judged c c.validated where
  usable h := by
    have hrange := mt refused_iff.mp (not_not_intro h.inRange)
    have hwidth := Nat.ne_of_gt h.width
    have hheight := Nat.ne_of_gt h.height
    have hnone : c.problem? = none := by
      rw [problem?, if_neg hrange, if_neg (by simp [hwidth, hheight]), if_neg h.outputDir]
    rw [validated, hnone]
  threshold h := by
    have hproblem :
        c.problem? = some (.thresholdOutOfRange (plainStyle.text c.otherThreshold)) := by
      rw [problem?, if_pos (refused_iff.mpr h)]
    exact ⟨_, by rw [validated, hproblem], rfl⟩
  size hrange hsize := by
    have hproblem : c.problem? = some .emptySize := by
      rw [problem?, if_neg (mt refused_iff.mp (not_not_intro hrange)),
        if_pos (by simpa using hsize)]
    exact ⟨_, by rw [validated, hproblem], rfl⟩
  directory hrange hwidth hheight hdirectory := by
    have hsize : ¬(c.width = 0 || c.height = 0) = true := by simp; omega
    have hproblem : c.problem? = some .noOutputDir := by
      rw [problem?, if_neg (mt refused_iff.mp (not_not_intro hrange)), if_neg hsize,
        if_pos hdirectory]
    exact ⟨_, by rw [validated, hproblem], rfl⟩

/-- Only a usable configuration passes. -/
theorem Judged.usable_of_ok {checked : Config} (h : Judged c (.ok checked)) : c.Usable := by
  have hpasses (text : String) : ¬FailsWith text (.ok checked) := by
    rintro ⟨problem, hproblem, -⟩
    cases hproblem
  have hrange : c.InRange := by_contra fun hout => hpasses _ (h.threshold hout)
  have hsize : ¬(c.width = 0 ∨ c.height = 0) := fun hempty => hpasses _ (h.size hrange hempty)
  obtain ⟨hwidth, hheight⟩ := not_or.mp hsize
  exact
    { inRange := hrange
      number := not_nan_of_nonneg hrange.1
      width := Nat.pos_of_ne_zero hwidth
      height := Nat.pos_of_ne_zero hheight
      outputDir := fun hdirectory => hpasses _
        (h.directory hrange (Nat.pos_of_ne_zero hwidth) (Nat.pos_of_ne_zero hheight) hdirectory) }

/-! ## Loading -/

variable {file : List (String × Setting)} {env : Environment}

/-- The layers make up the configuration whose fields the sources give. -/
theorem made_of_layers_iff (hkeys : ∀ entry ∈ file, KeyStep.IsPlain entry.1)
    (hnodup : (file.map (·.1)).Nodup) (henv : Unambiguous env) :
    c.MadeOf ((base.layer file).layer (ofEnvironment env)) ↔
      ∀ field : Field, field.value? file env = some (field.get c) := by
  rw [made_of_iff]
  exact forall_congr' fun field => by rw [read_layers hkeys hnodup henv field]

/-- Layers that give a configuration make it up, and it passes the check. -/
theorem made_of_layers_ok (h : ofLayers file env = .ok c) :
    c.MadeOf ((base.layer file).layer (ofEnvironment env)) ∧ c.validated = .ok c := by
  unfold ofLayers at h
  dsimp only at h
  split at h
  · next made hmade =>
      cases eq_of_validated h
      exact ⟨of_settings_iff.mp hmade, h⟩
  · cases h

/-- Layers give only usable configurations, with what the sources give in each field. -/
theorem values_of_layers_ok (hkeys : ∀ entry ∈ file, KeyStep.IsPlain entry.1)
    (hnodup : (file.map (·.1)).Nodup) (henv : Unambiguous env) (h : ofLayers file env = .ok c) :
    (∀ field : Field, field.value? file env = some (field.get c)) ∧ c.Usable := by
  obtain ⟨hmade, hvalidated⟩ := made_of_layers_ok h
  exact ⟨(made_of_layers_iff hkeys hnodup henv).mp hmade,
    (hvalidated ▸ judged_validated c).usable_of_ok⟩

/-- Where the sources give something for every field, that is what the layers give if it is
usable. -/
theorem judged_of_values (hkeys : ∀ entry ∈ file, KeyStep.IsPlain entry.1)
    (hnodup : (file.map (·.1)).Nodup) (henv : Unambiguous env)
    (h : ∀ field : Field, (field.value? file env).isSome) :
    ∃ c, (∀ field : Field, field.value? file env = some (field.get c)) ∧
      Judged c (ofLayers file env) := by
  obtain ⟨c, hc⟩ := exists_of_fields fun field => (field.value? file env).get (h field)
  have hvalue (field : Field) : field.value? file env = some (field.get c) := by
    rw [hc, Option.some_get]
  rw [of_layers_of_made ((made_of_layers_iff hkeys hnodup henv).mpr hvalue)]
  exact ⟨c, hvalue, judged_validated c⟩

/-- The file is read before it is laid over the defaults. -/
theorem load_named (console : Console) (env : Environment) {path : String} {s : Session}
    (hread : ((readNamed path : StateM Session _) s).1 = .ok file) :
    ((load console env (some path) : StateM Session (Except Problem Config)) s).1 =
      ofLayers file env := by
  have hlayer : ((readFileLayer console env (some path) : StateM Session _) s).1 = .ok file := hread
  unfold load
  rw [bind_run, hlayer]
  rfl

/-- No key stands twice in a file's settings. -/
theorem nodup_of_settings {path : String} {bytes : List UInt8}
    (h : settingsOfBytes path bytes = .ok file) : (file.map (·.1)).Nodup := by
  unfold settingsOfBytes at h
  split at h
  · next hread =>
      cases h
      exact Toml.nodup_read hread
  · cases h

/-- No key stands twice in a file that is there. -/
theorem nodup_of_read_settings {path : String} {s : Session}
    (hread : ((readSettings path : StateM Session _) s).1 = .ok file) :
    (file.map (·.1)).Nodup := by
  unfold readSettings at hread
  rw [bind_run] at hread
  cases hbytes : ((Host.readFile path : StateM Session (Except Fault (List UInt8))) s).1 with
  | ok bytes =>
      rw [hbytes] at hread
      exact nodup_of_settings hread
  | error fault =>
      rw [hbytes] at hread
      cases hread

/-- No key stands twice in a named file. -/
theorem nodup_of_read_named {path : String} {s : Session}
    (hread : ((readNamed path : StateM Session _) s).1 = .ok file) :
    (file.map (·.1)).Nodup := by
  unfold readNamed at hread
  rw [bind_run] at hread
  cases hthere : ((isFile path : StateM Session Bool) s).1 with
  | true =>
      rw [hthere, if_pos rfl] at hread
      split at hread
      · exact nodup_of_read_settings hread
      · cases hread
  | false =>
      rw [hthere, if_neg Bool.false_ne_true] at hread
      cases hextended : withExtension? path with
      | none =>
          rw [hextended] at hread
          cases hread
      | some extended =>
          rw [hextended] at hread
          dsimp only at hread
          rw [bind_run] at hread
          cases hadded : ((isFile extended : StateM Session Bool)
              ((isFile path : StateM Session Bool) s).2).1 with
          | true =>
              rw [hadded, if_pos rfl] at hread
              exact nodup_of_read_settings hread
          | false =>
              rw [hadded, if_neg Bool.false_ne_true] at hread
              cases hread

/-- Fields are told apart by their keys. -/
theorem Field.key_injective : Function.Injective Field.key := by
  intro field other
  cases field <;> cases other <;> decide

/-- The bindings of an environment without those of the variables of a field. -/
def bindingsBut (field : Field) (env : Environment) : List (String × String) :=
  env.bindings.filter fun binding => keyOfVariable? binding.1 != some field.key

/-- The variable of a field has nothing for the other fields. -/
theorem values_for_other {field another : Field} (h : another ≠ field) (env : Environment) :
    valuesFor env another.key = (bindingsBut field env).filterMap (valueFor? another.key) := by
  rw [bindingsBut, List.filterMap_filter, valuesFor]
  refine List.filterMap_congr fun binding _ => ?_
  by_cases hname : keyOfVariable? binding.1 = some field.key
  · have hkey : field.key ≠ another.key := fun hsame => h (Field.key_injective hsame.symm)
    simp [valueFor?, hname, hkey]
  · simp [hname]

/-- What the sources give for a field does not depend on the variables of the others. -/
theorem value_for_other {field another : Field} {changed : Environment} (h : another ≠ field)
    (hsame : bindingsBut field env = bindingsBut field changed) :
    another.value? file env = another.value? file changed := by
  have hvalues : valuesFor env another.key = valuesFor changed another.key := by
    rw [values_for_other h, values_for_other h, hsame]
  simp only [Field.value?, Field.source?, hvalues]

/-- How configurations are loaded from a file. -/
structure FieldByField (load : Environment → Except Problem Config)
    (file : List (String × Setting)) (env : Environment) : Prop where
  /-- The variable of a field is known by its name in upper and lower case. -/
  named : ∀ (field : Field) (name : String),
    name.toList.map Char.toLower = field.variableName.toList.map Char.toLower →
      keyOfVariable? name = some field.key
  /-- Each field of a loaded configuration is what its sources give, and it is usable. -/
  loaded : ∀ c, load env = .ok c →
    (∀ field : Field, field.value? file env = some (field.get c)) ∧ c.Usable
  /-- A variable that is added, taken away or changed concerns no field but its own. -/
  apart : ∀ (field : Field) (changed : Environment) (c d : Config), Unambiguous changed →
    bindingsBut field env = bindingsBut field changed → load env = .ok c → load changed = .ok d →
      ∀ another : Field, another ≠ field → another.get c = another.get d
  /-- What the sources give is loaded if it is usable, and the first condition that it does not
  meet is told otherwise. -/
  judged : (∀ field : Field, (field.value? file env).isSome) →
    ∃ c, (∀ field : Field, field.value? file env = some (field.get c)) ∧ Judged c (load env)

/-- A file is loaded field by field, if no key and no variable is named like a path and no field
has two variables. -/
theorem load_field_by_field (console : Console) {path : String} {s : Session}
    (hread : ((readNamed path : StateM Session _) s).1 = .ok file)
    (hkeys : ∀ entry ∈ file, KeyStep.IsPlain entry.1) (henv : Unambiguous env) :
    FieldByField (fun env => ((load console env (some path) : StateM Session _) s).1) file env := by
  have hnodup := nodup_of_read_named hread
  have hload (env : Environment) := load_named console env hread
  constructor
  · exact fun field _ => key_of_variable_name field
  · intro c hok
    rw [hload] at hok
    exact values_of_layers_ok hkeys hnodup henv hok
  · intro field changed c d hchanged hsame hok hchangedOk another hanother
    rw [hload] at hok hchangedOk
    -- both have what the sources give for the field, which is the same for both
    have hc := (values_of_layers_ok hkeys hnodup henv hok).1 another
    have hd := (values_of_layers_ok hkeys hnodup hchanged hchangedOk).1 another
    rw [value_for_other hanother hsame, hd] at hc
    exact (Option.some.inj hc).symm
  · intro hvalues
    rw [hload]
    exact judged_of_values hkeys hnodup henv hvalues

/-- A variable for the width, and the home directory. -/
def narrow : Environment :=
  ⟨[("HOME", "/home/user"), ("CORFU_Profiler_Width", "640")], none⟩

/-- The configuration is loaded as it was printed, but for the width that the variable gives. -/
theorem narrow_loaded :
    let saved : Session := .start (Disk.empty.put ["saved.toml"]
      (.file (Text.Utf8.encode unusual.toToml))) []
    let load := fun env =>
      ((load .quiet env (some "saved.toml") : StateM Session (Except Problem Config)) saved).1
    ((readNamed "saved.toml" : StateM Session _) saved).1 = .ok unusual.layer ∧
      (∀ entry ∈ unusual.layer, KeyStep.IsPlain entry.1) ∧ Unambiguous narrow ∧
        FieldByField load unusual.layer narrow ∧
          load narrow = .ok { unusual with width := 640 } := by
  intro saved load
  have hparts : Path.parts "saved.toml" = ["saved.toml"] := by decide +kernel
  have hsize : "saved.toml".utf8ByteSize = 10 := by decide +kernel
  have hplain : Path.isAbsolute "saved.toml" = false ∧ Path.endsInSlash "saved.toml" = false := by
    decide +kernel
  have hlocate : saved.disk.locate true "saved.toml" =
      .ok (.existing ["saved.toml"] (.file (Text.Utf8.encode unusual.toToml))) := by
    simp [saved, Session.start, Disk.locate, hparts, hsize, hplain, Disk.pathLimit, Disk.nameLimit,
      Disk.walk, Disk.entry?, Disk.empty, Disk.put]
  have hrange : 0 ≤ unusual.otherThreshold ∧ unusual.otherThreshold < 1 := by decide +kernel
  have hread : ((readNamed "saved.toml" : StateM Session _) saved).1 = .ok unusual.layer := by
    rw [read_named_run (by decide +kernel) hlocate]
    exact settings_of_printed _ hrange.1 hrange.2 (by decide) (by decide)
  have hkeys : ∀ entry ∈ unusual.layer, KeyStep.IsPlain entry.1 :=
    fun entry hentry => (names_of_mem_layer hentry).1.is_plain
  have hvalues (field : Field) :
      valuesFor narrow field.key = if field = .width then ["640"] else [] := by
    cases field <;> decide +kernel
  have henv : Unambiguous narrow := by
    have hplain : (narrow.bindings.all fun binding =>
        binding.1.toList.all fun c => c != '.' && c != '[') = true := by decide
    constructor
    · intro binding hbinding _ c hc
      simpa using List.all_eq_true.mp (List.all_eq_true.mp hplain binding hbinding) c hc
    · intro field
      rw [hvalues]
      split <;> decide
  have hload := load_field_by_field .quiet hread hkeys henv
  have hwidth : (settingOfVariable "width" "640").asNatural32? = some 640 := by decide +kernel
  have hgiven (field : Field) : field.value? unusual.layer narrow =
      some (field.get { unusual with width := 640 }) := by
    rw [Field.value?, Field.source?, hvalues]
    cases field with
    | width => exact hwidth
    | _ => rfl
  refine ⟨hread, hkeys, henv, hload, ?_⟩
  have hvaluesGiven (field : Field) : (field.value? unusual.layer narrow).isSome := by
    rw [hgiven, Option.isSome_some]
  obtain ⟨c, hc, hjudged⟩ := hload.judged hvaluesGiven
  have hsame : c = { unusual with width := 640 } :=
    eq_of_fields fun field => Option.some.inj ((hc field).symm.trans (hgiven field))
  rw [hsame] at hjudged
  exact hjudged.usable
    { inRange := hrange
      number := not_nan_of_nonneg hrange.1
      width := by decide
      height := by decide
      outputDir := by decide }

end CallProfile.Config
