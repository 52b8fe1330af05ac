import CallProfile.Config.Load
import CallProfile.Proofs.Config.Layers

/-!
# Configurations of settings

Settings make up the configuration whose fields they convert to (`of_settings_iff`), each field by
itself (`made_of_iff`). Under every other layer stand the defaults (`lookup_base`).
-/

namespace CallProfile

namespace Setting

/-- Texts convert to themselves. -/
theorem as_texts_texts (items : List String) : (list (items.map text)).asTexts? = some items := by
  rw [asTexts?, List.mapM_map]
  induction items with
  | nil => rfl
  | cons item items ih =>
      rw [List.mapM_cons, ih]
      rfl

/-- A natural number of 32 bits converts to itself. -/
theorem as_natural32_integer {n : Nat} (h : n < limit32) :
    (integer (n : Int)).asNatural32? = some n := by
  simp [asNatural32?, asNatural?, h]

end Setting

namespace Config

section Fields

variable {α : Type} {convert : Setting → Option α} {settings setting : Setting} {key : String}
  {value : α}

/-- A setting that converts gives its field. -/
theorem field_of_lookup (hlookup : settings.entries.lookup key = some setting)
    (hvalue : convert setting = some value) : field convert settings key = .ok value := by
  rw [field, hlookup, Option.bind_some, hvalue]

/-- A setting that converts gives its field, which could have been left out. -/
theorem optional_field_of_lookup (hlookup : settings.entries.lookup key = some setting)
    (hpresent : setting ≠ .absent) (hvalue : convert setting = some value) :
    optionalField convert settings key = .ok (some value) := by
  unfold optionalField
  rw [hlookup]
  cases setting with
  | absent => exact absurd rfl hpresent
  | _ => simp only [hvalue]

/-- A field without a setting is left out. -/
theorem optional_field_none (hlookup : settings.entries.lookup key = none) :
    optionalField convert settings key = .ok none := by
  rw [optionalField, hlookup]

end Fields

/-- Each field of the configuration is what its setting converts to. -/
structure MadeOf (c : Config) (settings : Setting) : Prop where
  input : optionalField Setting.asText? settings "input" = .ok c.input
  outputDir : field Setting.asText? settings "output-dir" = .ok c.outputDir
  tableId : optionalField Setting.asText? settings "table-id" = .ok c.tableId
  accessOps : field Setting.asTexts? settings "access-ops" = .ok c.accessOps
  mutateOps : field Setting.asTexts? settings "mutate-ops" = .ok c.mutateOps
  otherThreshold : field Setting.asReal? settings "other-threshold" = .ok c.otherThreshold
  width : field Setting.asNatural32? settings "width" = .ok c.width
  height : field Setting.asNatural32? settings "height" = .ok c.height

/-- The settings make up the configuration. -/
theorem MadeOf.of_settings_eq {c : Config} {settings : Setting} (h : c.MadeOf settings) :
    ofSettings settings = .ok c := by
  rw [ofSettings, h.input, h.outputDir, h.tableId, h.accessOps, h.mutateOps, h.otherThreshold,
    h.width, h.height]
  rfl

/-- Where one step follows another, both give a result. -/
theorem bind_eq_ok {α β : Type} {first : Except Problem α} {next : α → Except Problem β}
    {result : β} : (first >>= next) = .ok result ↔
      ∃ value, first = .ok value ∧ next value = .ok result := by
  cases first with
  | error problem => simp [bind, Except.bind]
  | ok value => simp [bind, Except.bind]

/-- Only settings that make it up give a configuration. -/
theorem of_settings_iff {c : Config} {settings : Setting} :
    ofSettings settings = .ok c ↔ c.MadeOf settings := by
  refine ⟨fun h => ?_, MadeOf.of_settings_eq⟩
  simp only [ofSettings, bind_eq_ok] at h
  obtain ⟨_, hinput, _, houtput, _, htable, _, haccess, _, hmutate, _, hthreshold, _, hwidth, _,
    hheight, hmade⟩ := h
  cases hmade
  exact ⟨hinput, houtput, htable, haccess, hmutate, hthreshold, hwidth, hheight⟩

/-- The settings under everything else. -/
def base : Setting :=
  (Setting.table []).layer (Setting.ofConfig default)

/-- Under everything else stand the defaults. -/
theorem lookup_base (key : String) :
    base.entries.lookup key = (Setting.ofConfig default).lookup key := by
  have hnames : ∀ entry ∈ Setting.ofConfig default,
      KeyStep.IsName entry.1 ∧ entry.2.Replaces := by
    intro entry hentry
    simp only [Setting.ofConfig, List.mem_cons, List.not_mem_nil, or_false] at hentry
    rcases hentry with rfl | rfl | rfl | rfl | rfl | rfl
    all_goals exact ⟨⟨by decide, List.all_eq_true.mp (by decide)⟩, trivial⟩
  have hlookup := Setting.lookup_layer hnames (by decide) (.table []) key
  rw [base, hlookup]
  exact Option.or_none

/-- The layers make up a configuration, which is then checked. -/
theorem of_layers_of_made {c : Config} {file : List (String × Setting)} {env : Environment}
    (h : c.MadeOf ((base.layer file).layer (ofEnvironment env))) :
    ofLayers file env = c.validated := by
  have hmade := h.of_settings_eq
  rw [base] at hmade
  simp only [ofLayers, hmade]

/-! ## Field by field -/

/-- A field of a configuration. -/
inductive Field where
  | input
  | outputDir
  | tableId
  | accessOps
  | mutateOps
  | otherThreshold
  | width
  | height
  deriving DecidableEq

namespace Field

/-- The key of the field. -/
def key : Field → String
  | input => "input"
  | outputDir => "output-dir"
  | tableId => "table-id"
  | accessOps => "access-ops"
  | mutateOps => "mutate-ops"
  | otherThreshold => "other-threshold"
  | width => "width"
  | height => "height"

/-- The variable of the field, as it is usually written. -/
def variableName : Field → String
  | input => "CORFU_PROFILER_INPUT"
  | outputDir => "CORFU_PROFILER_OUTPUT_DIR"
  | tableId => "CORFU_PROFILER_TABLE_ID"
  | accessOps => "CORFU_PROFILER_ACCESS_OPS"
  | mutateOps => "CORFU_PROFILER_MUTATE_OPS"
  | otherThreshold => "CORFU_PROFILER_OTHER_THRESHOLD"
  | width => "CORFU_PROFILER_WIDTH"
  | height => "CORFU_PROFILER_HEIGHT"

/-- What the field holds. -/
def Value : Field → Type
  | input | tableId => Option String
  | outputDir => String
  | accessOps | mutateOps => List String
  | otherThreshold => Float
  | width | height => Nat

/-- The field of a configuration. -/
def get : (field : Field) → Config → field.Value
  | input, c => c.input
  | outputDir, c => c.outputDir
  | tableId, c => c.tableId
  | accessOps, c => c.accessOps
  | mutateOps, c => c.mutateOps
  | otherThreshold, c => c.otherThreshold
  | width, c => c.width
  | height, c => c.height

/-- A text that may be left out. -/
def optionalText? : Setting → Option (Option String)
  | .absent => some none
  | setting => setting.asText?.map some

/-- What a setting means for the field, if it fits. -/
def convert? : (field : Field) → Setting → Option field.Value
  | input | tableId => optionalText?
  | outputDir => Setting.asText?
  | accessOps | mutateOps => Setting.asTexts?
  | otherThreshold => Setting.asReal?
  | width | height => Setting.asNatural32?

/-- What the field holds without any setting, if it may be left out. -/
def leftOut? : (field : Field) → Option field.Value
  | input | tableId => some none
  | _ => none

/-- The field of settings. -/
def read? (field : Field) (settings : Setting) : Option field.Value :=
  (settings.entries.lookup field.key).elim field.leftOut? field.convert?

end Field

/-- Configurations with the same fields are the same. -/
theorem eq_of_fields {c other : Config} (h : ∀ field : Field, field.get c = field.get other) :
    c = other := by
  cases c
  cases other
  rw [Config.mk.injEq]
  exact ⟨h .input, h .outputDir, h .tableId, h .accessOps, h .mutateOps, h .otherThreshold,
    h .width, h .height⟩

/-- Every choice of fields is a configuration. -/
theorem exists_of_fields (value : (field : Field) → field.Value) :
    ∃ c : Config, ∀ field : Field, field.get c = value field := by
  refine ⟨⟨value .input, value .outputDir, value .tableId, value .accessOps, value .mutateOps,
    value .otherThreshold, value .width, value .height⟩, fun field => ?_⟩
  cases field <;> rfl

/-- A field that must have a setting is what that converts to. -/
theorem field_eq_ok_iff {α : Type} {convert : Setting → Option α} {settings : Setting}
    {key : String} {value : α} : field convert settings key = .ok value ↔
      (settings.entries.lookup key).elim none convert = some value := by
  unfold field
  cases settings.entries.lookup key with
  | none => simp
  | some setting => cases hvalue : convert setting <;> simp [hvalue]

/-- A text that may be left out is read as such. -/
theorem optional_field_eq_ok_iff {settings : Setting} {key : String} {value : Option String} :
    optionalField Setting.asText? settings key = .ok value ↔
      (settings.entries.lookup key).elim (some none) Field.optionalText? = some value := by
  unfold optionalField
  cases settings.entries.lookup key with
  | none => simp
  | some setting =>
      cases setting with
      | absent => simp [Field.optionalText?]
      | _ => simp [Field.optionalText?, Setting.asText?]

/-- Settings make up the configuration whose fields can be read from them. -/
theorem made_of_iff {c : Config} {settings : Setting} :
    c.MadeOf settings ↔ ∀ field : Field, field.read? settings = some (field.get c) := by
  constructor
  · intro h field
    cases field with
    | input => exact optional_field_eq_ok_iff.mp h.input
    | outputDir => exact field_eq_ok_iff.mp h.outputDir
    | tableId => exact optional_field_eq_ok_iff.mp h.tableId
    | accessOps => exact field_eq_ok_iff.mp h.accessOps
    | mutateOps => exact field_eq_ok_iff.mp h.mutateOps
    | otherThreshold => exact field_eq_ok_iff.mp h.otherThreshold
    | width => exact field_eq_ok_iff.mp h.width
    | height => exact field_eq_ok_iff.mp h.height
  · intro h
    exact
      { input := optional_field_eq_ok_iff.mpr (h .input)
        outputDir := field_eq_ok_iff.mpr (h .outputDir)
        tableId := optional_field_eq_ok_iff.mpr (h .tableId)
        accessOps := field_eq_ok_iff.mpr (h .accessOps)
        mutateOps := field_eq_ok_iff.mpr (h .mutateOps)
        otherThreshold := field_eq_ok_iff.mpr (h .otherThreshold)
        width := field_eq_ok_iff.mpr (h .width)
        height := field_eq_ok_iff.mpr (h .height) }

end Config

end CallProfile
