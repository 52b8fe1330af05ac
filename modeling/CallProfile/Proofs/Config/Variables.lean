import CallProfile.Proofs.Config.Fields
import CallProfile.Proofs.Remarks

/-!
# Texts from variables

A variable for a field that is a single text is first taken for a truth value or a number if it
looks like one, and then turned into a text again. So the field is the text of the variable exactly
if that is how the truth value or the number is written (`load_text_iff`). An identifier with zeros
in front loses them (`padded_table_lost`).
-/

namespace CallProfile.Config

/-- Whether a variable of this name holds a setting. -/
def holdsSetting (name : String) : Bool :=
  variableStart.toList.isPrefixOf (name.toList.map Char.toLower)

/-- Other variables hold none. -/
theorem of_variable_none {name : String} (h : holdsSetting name = false) (value : String) :
    ofVariable? name value = none := by
  have hstart : variableStart.toList.isPrefixOf? (name.toList.map Char.toLower) = none := by
    rw [← Option.not_isSome_iff_eq_none, List.isSome_isPrefixOf?_eq_isPrefixOf]
    exact Bool.not_eq_true _ ▸ h
  simp [ofVariable?, hstart]

/-- The settings of the environment are those of the variables that hold some. -/
theorem of_environment_eq (env : Environment) :
    ofEnvironment env = (env.bindings.filter fun binding => holdsSetting binding.1).filterMap
      fun (name, value) => ofVariable? name value := by
  rw [List.filterMap_filter, ofEnvironment]
  refine List.filterMap_congr fun (name, value) _ => ?_
  by_cases h : holdsSetting name = true
  · exact (if_pos h).symm
  · exact (of_variable_none (Bool.not_eq_true _ ▸ h) value).trans (if_neg h).symm

/-- Without variables that hold settings, the layer of the environment is empty. -/
theorem of_environment_eq_nil {env : Environment}
    (h : ∀ binding ∈ env.bindings, holdsSetting binding.1 = false) : ofEnvironment env = [] :=
  List.filterMap_eq_nil_iff.mpr fun binding hbinding =>
    of_variable_none (h binding hbinding) binding.2

/-- The fields that are a single text. -/
inductive TextField where
  | input
  | outputDir
  | tableId
  deriving DecidableEq

namespace TextField

/-- The field among all fields. -/
def field : TextField → Field
  | input => .input
  | outputDir => .outputDir
  | tableId => .tableId

/-- The key of the field. -/
def key (text : TextField) : String :=
  text.field.key

/-- The variable of the field. -/
def variableName (text : TextField) : String :=
  text.field.variableName

/-- The default configuration but for the field. -/
def setTo (value : String) : TextField → Config
  | input => { default with input := some value }
  | outputDir => { default with outputDir := value }
  | tableId => { default with tableId := some value }

end TextField

/-- The variable of a field holds the setting of its key. -/
theorem of_variable_field (field : TextField) (value : String) :
    ofVariable? field.variableName value = some (field.key, settingOfVariable field.key value) := by
  cases field
  · rfl
  · rfl
  · rfl

/-! ## What a value is taken for -/

/-- Whether a value is the word for a truth value, in any case. -/
def IsWord (value : String) (b : Bool) : Prop :=
  String.ofList (value.toList.map Char.toLower) = toString b

/-- What the value of a variable is taken for: the first that it looks like. -/
inductive TakenFor (value : String) : Setting → Prop where
  | boolean (b : Bool) (h : IsWord value b) : TakenFor value (.boolean b)
  | integer (n : Int) (hword : ∀ b, ¬IsWord value b)
      (h : Number.readInteger? value.toList = some n) : TakenFor value (.integer n)
  | real (x : Float) (hword : ∀ b, ¬IsWord value b)
      (hinteger : Number.readInteger? value.toList = none)
      (h : Number.readFloat? value = some x) : TakenFor value (.real x)
  | text (hword : ∀ b, ¬IsWord value b) (hinteger : Number.readInteger? value.toList = none)
      (h : Number.readFloat? value = none) : TakenFor value (.text value)

/-- The variable of a text is taken for a truth value or a number if it looks like one. -/
theorem taken_for_field (field : TextField) (value : String) :
    TakenFor value (settingOfVariable field.key value) := by
  have hkey : listKeys.contains field.key = false := by cases field <;> decide
  unfold settingOfVariable
  rw [hkey, if_neg Bool.false_ne_true]
  dsimp only
  split
  · next htrue => exact .boolean true htrue
  · next htrue =>
      split
      · next hfalse => exact .boolean false hfalse
      · next hfalse =>
          have hword (b : Bool) : ¬IsWord value b := by
            cases b with
            | true => exact htrue
            | false => exact hfalse
          split
          · next hinteger => exact .integer _ hword hinteger
          · next hinteger hreal => exact .real _ hword hinteger hreal
          · next hinteger hreal => exact .text hword hinteger hreal

/-- The value is written the way in which the truth value or the number is written that it is taken
for. -/
structure AsWritten (value : String) : Prop where
  truth : ∀ b, IsWord value b → toString b = value
  integer : ∀ n, Number.readInteger? value.toList = some n → toString n = value
  real : Number.readInteger? value.toList = none →
    ∀ x, Number.readFloat? value = some x → plainStyle.text x = value

/-- The words for truth values are no numbers. -/
theorem as_written_truth (b : Bool) : AsWritten (toString b) := by
  have hlower : String.ofList ((toString b).toList.map Char.toLower) = toString b := by
    cases b <;> decide
  have hinteger : Number.readInteger? (toString b).toList = none := by cases b <;> decide
  have hreal : Number.readFloat? (toString b) = none := by cases b <;> decide +kernel
  refine ⟨fun other h => h.symm.trans hlower, fun n hn => ?_, fun _ x hx => ?_⟩
  · rw [hinteger] at hn
    cases hn
  · rw [hreal] at hx
    cases hx

/-- What a value is taken for has a text, which is the value if it is written that way. -/
theorem TakenFor.as_text {value : String} {setting : Setting} (h : TakenFor value setting) :
    ∃ text, setting.asText? = some text ∧ (text = value ↔ AsWritten value) := by
  cases h with
  | boolean b h =>
      refine ⟨toString b, by cases b <;> rfl, fun hsame => hsame ▸ as_written_truth b,
        fun hwritten => hwritten.truth b h⟩
  | integer n hword h =>
      refine ⟨toString n, rfl, fun hsame => ⟨fun b hb => absurd hb (hword b), fun m hm => ?_,
        fun hnone => ?_⟩, fun hwritten => hwritten.integer n h⟩
      · rw [h] at hm
        cases hm
        exact hsame
      · rw [h] at hnone
        cases hnone
  | real x hword hinteger h =>
      refine ⟨plainStyle.text x, rfl, fun hsame => ⟨fun b hb => absurd hb (hword b), fun n hn => ?_,
        fun _ y hy => ?_⟩, fun hwritten => hwritten.real hinteger x h⟩
      · rw [hinteger] at hn
        cases hn
      · rw [h] at hy
        cases hy
        exact hsame
  | text hword hinteger h =>
      refine ⟨value, rfl, fun _ => ⟨fun b hb => absurd hb (hword b), fun n hn => ?_,
        fun _ y hy => ?_⟩, fun _ => rfl⟩
      · rw [hinteger] at hn
        cases hn
      · rw [h] at hy
        cases hy

/-- What a value is taken for replaces the default. -/
theorem TakenFor.replaces {value : String} {setting : Setting} (h : TakenFor value setting) :
    setting.Replaces ∧ setting ≠ .absent := by
  cases h <;> simp [Setting.Replaces]

/-! ## Loading -/

/-- A setting for a field over the defaults sets that field. -/
theorem made_of_field (field : TextField) {setting : Setting} {text : String}
    (hreplaces : setting.Replaces) (hpresent : setting ≠ .absent)
    (htext : setting.asText? = some text) :
    (field.setTo text).MadeOf (base.layer [(field.key, setting)]) := by
  have hname : KeyStep.IsName field.key := by
    cases field
    all_goals exact ⟨by decide, List.all_eq_true.mp (by decide)⟩
  have hlayer : ∀ entry ∈ [(field.key, setting)],
      KeyStep.IsName entry.1 ∧ entry.2.Replaces := by
    simpa using ⟨hname, hreplaces⟩
  have hlookup := Setting.lookup_layer hlayer (List.nodup_singleton _) base
  have hself : (base.layer [(field.key, setting)]).entries.lookup field.key = some setting := by
    rw [hlookup, List.lookup_cons_self, Option.some_or]
  -- the other keys keep their defaults
  have hother {key : String} (h : key ≠ field.key) :
      (base.layer [(field.key, setting)]).entries.lookup key =
        (Setting.ofConfig default).lookup key := by
    rw [hlookup, lookup_base, lookup_of_not_mem (by simpa using h), Option.none_or]
  constructor
  · cases field with
    | input => exact optional_field_of_lookup hself hpresent htext
    | outputDir => exact optional_field_none (hother (by decide))
    | tableId => exact optional_field_none (hother (by decide))
  · cases field with
    | outputDir => exact field_of_lookup hself htext
    | input => exact field_of_lookup (hother (by decide)) rfl
    | tableId => exact field_of_lookup (hother (by decide)) rfl
  · cases field with
    | tableId => exact optional_field_of_lookup hself hpresent htext
    | input => exact optional_field_none (hother (by decide))
    | outputDir => exact optional_field_none (hother (by decide))
  -- the other fields are left to the defaults
  all_goals cases field
  all_goals exact field_of_lookup (hother (by decide)) rfl

/-- The default configuration with a text in a field is usable, if it names an output directory. -/
theorem validated_set_to (field : TextField) (text : String)
    (h : field = .outputDir → text ≠ "") :
    (field.setTo text).validated = .ok (field.setTo text) := by
  have hrange : 0 ≤ default.otherThreshold ∧ default.otherThreshold < 1 := by decide +kernel
  have hsize : default.width = 1024 ∧ default.height = 768 ∧ default.outputDir = "results" :=
    ⟨rfl, rfl, rfl⟩
  have husable : (field.setTo text).problem? = none := by
    cases field with
    | outputDir => simp [problem?, TextField.setTo, hrange, hsize, h rfl]
    | input => simp [problem?, TextField.setTo, hrange, hsize]
    | tableId => simp [problem?, TextField.setTo, hrange, hsize]
  rw [validated, husable]

/-- Checking a configuration does not change it. -/
theorem eq_of_validated {c checked : Config} (h : c.validated = .ok checked) : c = checked := by
  unfold validated at h
  split at h
  · cases h
  · cases h
    rfl

/-- Different texts make different configurations. -/
theorem set_to_injective {field : TextField} {text other : String}
    (h : field.setTo text = field.setTo other) : text = other := by
  cases field with
  | input => exact Option.some.inj (congrArg Config.input h)
  | outputDir => exact congrArg Config.outputDir h
  | tableId => exact Option.some.inj (congrArg Config.tableId h)

/-- Without a file, the configuration is that of the environment over the defaults. -/
theorem load_without_file (console : Console) {env : Environment} {s : Session}
    (h : ∀ path, userPath? env = some path → s.disk.isPresent path = false) :
    (load console env none : StateM Session (Except Problem Config)) s = (ofLayers [] env, s) := by
  have hlayer : (readFileLayer console env none :
      StateM Session (Except Problem (List (String × Setting)))) s = (.ok [], s) := by
    unfold readFileLayer
    cases hpath : userPath? env with
    | none => rfl
    | some path =>
        show (if s.disk.isPresent path = true then _ else
          (pure (.ok []) : StateM Session (Except Problem (List (String × Setting))))) s = _
        rw [h path hpath, if_neg Bool.false_ne_true]
        rfl
  unfold load
  rw [bind_run, hlayer]
  rfl

section Single

variable (console : Console) {env : Environment} {s : Session} {field : TextField}
  {value : String}

/-- The variable of a field alone sets the field to the text of what its value is taken for. -/
theorem load_of_variable {text : String}
    (henv : (env.bindings.filter fun binding => holdsSetting binding.1) =
      [(field.variableName, value)])
    (hfile : ∀ path, userPath? env = some path → s.disk.isPresent path = false)
    (htext : (settingOfVariable field.key value).asText? = some text) :
    (load console env none : StateM Session (Except Problem Config)) s =
      ((field.setTo text).validated, s) := by
  obtain ⟨hreplaces, hpresent⟩ := (taken_for_field field value).replaces
  have hlayer : ofEnvironment env = [(field.key, settingOfVariable field.key value)] := by
    simp [of_environment_eq, henv, of_variable_field]
  have hmade : (field.setTo text).MadeOf ((base.layer []).layer (ofEnvironment env)) := by
    rw [Setting.layer_nil, hlayer]
    exact made_of_field field hreplaces hpresent htext
  rw [load_without_file console hfile, of_layers_of_made hmade]

/-- A variable for a field that is a single text, and nothing else over the defaults, gives the
field the text of the variable exactly if that is written as what it is taken for. -/
theorem load_text_iff (hvalue : field = .outputDir → value ≠ "")
    (henv : (env.bindings.filter fun binding => holdsSetting binding.1) =
      [(field.variableName, value)])
    (hfile : ∀ path, userPath? env = some path → s.disk.isPresent path = false) :
    ((load console env none : StateM Session (Except Problem Config)) s).1 =
      .ok (field.setTo value) ↔ AsWritten value := by
  obtain ⟨text, htext, hwritten⟩ := (taken_for_field field value).as_text
  rw [load_of_variable console henv hfile htext, ← hwritten]
  constructor
  · intro h
    exact set_to_injective (eq_of_validated h)
  · rintro rfl
    exact validated_set_to _ _ hvalue

end Single

/-- The environment with a table and nothing else. -/
def tableVariable (table : String) : Environment :=
  ⟨[("CORFU_PROFILER_TABLE_ID", table)], none⟩

/-- The variable for the table is the one that holds a setting. -/
theorem table_variable_bindings (table : String) :
    ((tableVariable table).bindings.filter fun binding => holdsSetting binding.1) =
      [(TextField.tableId.variableName, table)] := by
  have hholds : holdsSetting "CORFU_PROFILER_TABLE_ID" = true := by decide +kernel
  have hname : TextField.tableId.variableName = "CORFU_PROFILER_TABLE_ID" := rfl
  simp [tableVariable, hname, hholds]

/-- An identifier that looks like no number is taken as it is, and one with zeros in front is
not. -/
theorem identifiers_from_variable :
    ((load .quiet (tableVariable "7c4f2940") none : StateM Session (Except Problem Config))
        (.start .empty [])).1 = .ok (TextField.tableId.setTo "7c4f2940") ∧
      ((load .quiet (tableVariable "007") none : StateM Session (Except Problem Config))
        (.start .empty [])).1 ≠ .ok (TextField.tableId.setTo "007") := by
  have hload (value : String) :
      ((load .quiet (tableVariable value) none : StateM Session (Except Problem Config))
        (.start .empty [])).1 = .ok (TextField.tableId.setTo value) ↔ AsWritten value :=
    load_text_iff .quiet (fun h => by cases h) (table_variable_bindings value)
      (fun path hpath => by cases hpath)
  constructor
  · have hinteger : Number.readInteger? "7c4f2940".toList = none := by decide +kernel
    have hreal : Number.readFloat? "7c4f2940" = none := by decide +kernel
    have hword : ∀ b : Bool,
        String.ofList ("7c4f2940".toList.map Char.toLower) ≠ toString b := by
      decide +kernel
    refine (hload "7c4f2940").mpr
      ⟨fun b hb => absurd hb (hword b), fun n hn => ?_, fun _ x hx => ?_⟩
    · rw [hinteger] at hn
      cases hn
    · rw [hreal] at hx
      cases hx
  · intro hkept
    have hdigits : toString (7 : Int) = "007" :=
      ((hload "007").mp hkept).integer 7 (by decide +kernel)
    exact absurd hdigits (by decide +kernel)

/-- The identifier with zeros in front loses them. -/
theorem padded_table_lost :
    ((load .quiet (tableVariable "007") none : StateM Session (Except Problem Config))
        (.start .empty [])).1 = .ok (TextField.tableId.setTo "7") := by
  have htext : (settingOfVariable TextField.tableId.key "007").asText? = some "7" := by
    decide +kernel
  rw [load_of_variable .quiet (table_variable_bindings "007") (fun path hpath => by cases hpath)
    htext]
  exact validated_set_to .tableId "7" (fun h => by cases h)

end CallProfile.Config
