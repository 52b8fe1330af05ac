import CallProfile.Proofs.Config.Variables
import CallProfile.Proofs.Disk.Writing
import CallProfile.Proofs.Text.Utf8
import CallProfile.Proofs.Toml.Document

/-!
# A printed configuration is loaded again

The document that a configuration is printed as and the layer that it is read as meet at the list of
its assignments (`lines`): the document is made of them (`to_toml_eq`), and laid over the defaults
they make up the configuration again (`of_layers_layer`). So a usable configuration that is written
to a file is loaded from there as it was (`load_printed`).
-/

namespace CallProfile.Config

open Toml (Assignment)

/-! ## The document -/

/-- The assignment of a text. -/
def textLine (key value : String) : Assignment :=
  ⟨key, Toml.text value, .text value⟩

/-- The assignment of a list of texts. -/
def textsLine (key : String) (values : List String) : Assignment :=
  ⟨key, Toml.texts values, .list (values.map .text)⟩

/-- The assignment of a natural number. -/
def naturalLine (key : String) (n : Nat) : Assignment :=
  ⟨key, toString n, .integer n⟩

/-- The assignments that a configuration is printed as. -/
def lines (c : Config) : List Assignment :=
  c.input.toList.map (textLine "input") ++ [textLine "output-dir" c.outputDir] ++
    c.tableId.toList.map (textLine "table-id") ++
    [textsLine "access-ops" c.accessOps, textsLine "mutate-ops" c.mutateOps,
      ⟨"other-threshold", Toml.fraction c.otherThreshold, .real c.otherThreshold⟩,
      naturalLine "width" c.width, naturalLine "height" c.height]

variable {c : Config}

/-- The document consists of the lines of the assignments. -/
theorem to_toml_eq (c : Config) : c.toToml = String.ofList (c.lines.flatMap Assignment.chars) := by
  have hline (a : Assignment) : (tomlLine a.key a.value).toList = a.chars := by
    simp [tomlLine, Assignment.chars]
  have hlines : c.toToml = String.join (c.lines.map fun a => tomlLine a.key a.value) := by
    rcases hinput : c.input with _ | input
    all_goals rcases htable : c.tableId with _ | table
    all_goals simp [toToml, lines, textLine, textsLine, naturalLine, hinput, htable]
  rw [hlines, ← String.toList_inj, String.toList_join, String.toList_ofList, List.flatMap_map]
  exact congrArg (List.flatMap · c.lines) (funext hline)

/-- The keys of the fields. -/
def keys : List String :=
  ["input", "output-dir", "table-id", "access-ops", "mutate-ops", "other-threshold", "width",
    "height"]

/-- The keys need no quotes. -/
theorem bare_keys {key : String} (h : key ∈ keys) :
    key.toList ≠ [] ∧ ∀ c ∈ key.toList, Toml.isBareChar c = true := by
  simp only [keys, List.mem_cons, List.not_mem_nil, or_false] at h
  rcases h with rfl | rfl | rfl | rfl | rfl | rfl | rfl | rfl
  all_goals exact ⟨by decide, List.all_eq_true.mp (by decide)⟩

/-- An assignment of a configuration is to one of the keys. -/
theorem key_of_mem_lines {a : Assignment} (h : a ∈ c.lines) : a.key ∈ keys := by
  simp only [lines, List.mem_append, List.mem_map, List.mem_cons, List.not_mem_nil, or_false] at h
  rcases h with ((⟨_, _, rfl⟩ | rfl) | ⟨_, _, rfl⟩) | rfl | rfl | rfl | rfl | rfl
  all_goals simp [keys, textLine, textsLine, naturalLine]

/-- No key is assigned twice. -/
theorem nodup_lines (c : Config) : (c.lines.map (·.key)).Nodup := by
  rcases hinput : c.input with _ | input
  all_goals rcases htable : c.tableId with _ | table
  all_goals simp [lines, textLine, textsLine, naturalLine, hinput, htable]

/-- The assignments of a usable configuration are read back. -/
theorem proper_of_mem_lines (hlow : 0 ≤ c.otherThreshold) (hhigh : c.otherThreshold < 1)
    (hwidth : c.width < 2 ^ 32) (hheight : c.height < 2 ^ 32) {a : Assignment} (h : a ∈ c.lines) :
    a.Proper := by
  obtain ⟨hnamed, hbare⟩ := bare_keys (key_of_mem_lines h)
  refine ⟨hnamed, hbare, ?_⟩
  simp only [lines, List.mem_append, List.mem_map, List.mem_cons, List.not_mem_nil, or_false] at h
  rcases h with ((⟨_, _, rfl⟩ | rfl) | ⟨_, _, rfl⟩) | rfl | rfl | rfl | rfl | rfl
  · exact Toml.reads_as_text _
  · exact Toml.reads_as_text _
  · exact Toml.reads_as_text _
  · exact Toml.reads_as_texts _
  · exact Toml.reads_as_texts _
  · exact Toml.reads_as_fraction hlow hhigh
  · exact Toml.reads_as_natural (by omega)
  · exact Toml.reads_as_natural (by omega)

/-! ## The layer -/

/-- The layer that the document is read as. -/
def layer (c : Config) : List (String × Setting) :=
  c.lines.map fun a => (a.key, a.setting)

/-- The layer names every field by its key, each with a setting that replaces the default. -/
theorem names_of_mem_layer {entry : String × Setting} (h : entry ∈ c.layer) :
    KeyStep.IsName entry.1 ∧ entry.2.Replaces := by
  obtain ⟨a, ha, rfl⟩ := List.mem_map.mp h
  obtain ⟨hnamed, hbare⟩ := bare_keys (key_of_mem_lines ha)
  refine ⟨⟨hnamed, hbare⟩, ?_⟩
  simp only [lines, List.mem_append, List.mem_map, List.mem_cons, List.not_mem_nil, or_false] at ha
  rcases ha with ((⟨_, _, rfl⟩ | rfl) | ⟨_, _, rfl⟩) | rfl | rfl | rfl | rfl | rfl
  all_goals trivial

/-- No key of the layer is repeated. -/
theorem nodup_layer (c : Config) : (c.layer.map (·.1)).Nodup := by
  rw [layer, List.map_map]
  exact nodup_lines c

/-- What the layer has under a key counts. -/
theorem lookup_of_mem_layer {key : String} {setting : Setting} (h : (key, setting) ∈ c.layer) :
    (base.layer c.layer).entries.lookup key = some setting := by
  rw [Setting.lookup_layer (fun _ => names_of_mem_layer) (nodup_layer c),
    lookup_of_mem (nodup_layer c) h, Option.some_or]

/-- A field that is left out by the layer and has no default is left out. -/
theorem lookup_of_not_mem_layer {key : String} (h : key ∉ c.layer.map (·.1))
    (hdefault : key ∉ (Setting.ofConfig default).map (·.1)) :
    (base.layer c.layer).entries.lookup key = none := by
  rw [Setting.lookup_layer (fun _ => names_of_mem_layer) (nodup_layer c), lookup_of_not_mem h,
    lookup_base, lookup_of_not_mem hdefault, Option.none_or]

/-- Sizes have 32 bits. -/
theorem limit32_eq : Setting.limit32 = 2 ^ 32 := by
  decide +kernel

/-- The layer over the defaults makes up the configuration. -/
theorem made_of_layer (hwidth : c.width < 2 ^ 32) (hheight : c.height < 2 ^ 32) :
    c.MadeOf (base.layer c.layer) where
  input := by
    cases hinput : c.input with
    | none =>
        exact optional_field_none (lookup_of_not_mem_layer
          (by simp [layer, lines, textLine, textsLine, naturalLine, hinput]) (by decide))
    | some input =>
        have hmem : ("input", .text input) ∈ c.layer := by
          simp [layer, lines, textLine, hinput]
        exact optional_field_of_lookup (lookup_of_mem_layer hmem) (by simp) rfl
  outputDir := by
    have hmem : ("output-dir", .text c.outputDir) ∈ c.layer := by simp [layer, lines, textLine]
    exact field_of_lookup (lookup_of_mem_layer hmem) rfl
  tableId := by
    cases htable : c.tableId with
    | none =>
        exact optional_field_none (lookup_of_not_mem_layer
          (by simp [layer, lines, textLine, textsLine, naturalLine, htable]) (by decide))
    | some table =>
        have hmem : ("table-id", .text table) ∈ c.layer := by
          simp [layer, lines, textLine, htable]
        exact optional_field_of_lookup (lookup_of_mem_layer hmem) (by simp) rfl
  accessOps := field_of_lookup (lookup_of_mem_layer (by simp [layer, lines, textsLine]))
    (Setting.as_texts_texts c.accessOps)
  mutateOps := field_of_lookup (lookup_of_mem_layer (by simp [layer, lines, textsLine]))
    (Setting.as_texts_texts c.mutateOps)
  otherThreshold := by
    have hmem : ("other-threshold", .real c.otherThreshold) ∈ c.layer := by simp [layer, lines]
    exact field_of_lookup (lookup_of_mem_layer hmem) rfl
  width := field_of_lookup (lookup_of_mem_layer (by simp [layer, lines, naturalLine]))
    (Setting.as_natural32_integer (limit32_eq ▸ hwidth))
  height := field_of_lookup (lookup_of_mem_layer (by simp [layer, lines, naturalLine]))
    (Setting.as_natural32_integer (limit32_eq ▸ hheight))

/-! ## Usable configurations -/

/-- The share below which slices are folded together is a fraction in a usable configuration. -/
theorem threshold_of_usable (h : c.problem? = none) :
    0 ≤ c.otherThreshold ∧ c.otherThreshold < 1 := by
  unfold problem? at h
  split at h
  · cases h
  · next hrange => simpa using hrange

/-- The layer of a usable configuration over the defaults makes up the configuration. -/
theorem of_layers_layer {env : Environment} (henv : ofEnvironment env = [])
    (husable : c.problem? = none) (hwidth : c.width < 2 ^ 32) (hheight : c.height < 2 ^ 32) :
    ofLayers c.layer env = .ok c := by
  have hlayers : c.MadeOf ((base.layer c.layer).layer (ofEnvironment env)) := by
    rw [henv, Setting.layer_nil]
    exact made_of_layer hwidth hheight
  rw [of_layers_of_made hlayers, validated, husable]

/-! ## The file -/

/-- The document does not begin with a byte order mark. -/
theorem without_mark_printed (c : Config) :
    withoutMark (Text.Utf8.encode c.toToml) = Text.Utf8.encode c.toToml := by
  obtain ⟨rest, hrest | hrest⟩ :
      ∃ rest, c.toToml.toList = 'i' :: rest ∨ c.toToml.toList = 'o' :: rest := by
    rw [to_toml_eq, String.toList_ofList]
    cases hinput : c.input with
    | none => exact ⟨_, Or.inr (by simp [lines, hinput, textLine, Assignment.chars]; rfl)⟩
    | some input => exact ⟨_, Or.inl (by simp [lines, hinput, textLine, Assignment.chars]; rfl)⟩
  all_goals
    rw [Text.Utf8.encode_eq, hrest]
    rfl

/-- The document is read as the layer. -/
theorem settings_of_printed (path : String) (hlow : 0 ≤ c.otherThreshold)
    (hhigh : c.otherThreshold < 1) (hwidth : c.width < 2 ^ 32) (hheight : c.height < 2 ^ 32) :
    settingsOfBytes path (Text.Utf8.encode c.toToml) = .ok c.layer := by
  have hread := Toml.read_assignments
    (fun a (ha : a ∈ c.lines) => proper_of_mem_lines hlow hhigh hwidth hheight ha) (nodup_lines c)
  rw [settingsOfBytes, without_mark_printed, Text.Utf8.decode_lossy_encode, to_toml_eq, hread]
  rfl

/-- A named file that is there is read. -/
theorem read_named_run {s : Session} {path : String} {place : Place} {bytes : List UInt8}
    (hpath : Path.extension? path = some fileExtension)
    (hfile : s.disk.locate true path = .ok (.existing place (.file bytes))) :
    (readNamed path : StateM Session _) s = (settingsOfBytes path bytes, s) := by
  have hthere : (isFile path : StateM Session Bool) s = (true, s) := by
    show ((s.disk.isPresent path && !s.disk.isDirectory path), s) = _
    rw [Disk.isPresent, Disk.isDirectory, hfile]
    rfl
  have hbytes : (Host.readFile path : StateM Session (Except Fault (List UInt8))) s =
      (.ok bytes, s) := by
    show (s.disk.read path, s) = _
    rw [Disk.read, hfile]
  have hread : (readSettings path : StateM Session _) s = (settingsOfBytes path bytes, s) := by
    unfold readSettings
    rw [bind_run, hbytes]
    rfl
  unfold readNamed
  rw [bind_run, hthere, if_pos rfl, if_pos hpath, hread]

/-- A file that was written is found at its path. -/
theorem locate_of_written {s after : Session} {path : String} {bytes : List UInt8}
    (h : (Host.writeFile path bytes : StateM Session (Except Fault Unit)) s = (.ok (), after)) :
    ∃ place, after.disk.locate true path = .ok (.existing place (.file bytes)) := by
  have hchange : Session.change (s.disk.write path bytes) s = (.ok (), after) := h
  cases hwrite : s.disk.write path bytes with
  | error fault =>
      rw [hwrite] at hchange
      cases hchange
  | ok disk =>
      rw [hwrite] at hchange
      cases hchange
      obtain ⟨place, hleads, rfl⟩ := Disk.leads_to_of_write hwrite
      exact ⟨place, hleads.locate_put bytes⟩

/-- A usable configuration that is printed to a file is loaded from there as it was, if no variable
holds a setting. -/
theorem load_printed (console : Console) {env : Environment} {path : String} {s after : Session}
    (husable : c.problem? = none) (hwidth : c.width < 2 ^ 32) (hheight : c.height < 2 ^ 32)
    (henv : ∀ binding ∈ env.bindings, holdsSetting binding.1 = false)
    (hpath : Path.extension? path = some fileExtension)
    (hwritten : (Host.writeFile path (Text.Utf8.encode c.toToml) :
      StateM Session (Except Fault Unit)) s = (.ok (), after)) :
    (load console env (some path) : StateM Session (Except Problem Config)) after =
      (.ok c, after) := by
  obtain ⟨hlow, hhigh⟩ := threshold_of_usable husable
  obtain ⟨place, hplace⟩ := locate_of_written hwritten
  have hread := read_named_run hpath hplace
  rw [settings_of_printed path hlow hhigh hwidth hheight] at hread
  -- the named file is the only layer over the defaults, as no variable holds a setting
  have hlayer : (readFileLayer console env (some path) : StateM Session _) after =
      (.ok c.layer, after) := hread
  have hlayers := of_layers_layer (of_environment_eq_nil henv) husable hwidth hheight
  unfold load
  rw [bind_run, hlayer]
  show (ofLayers c.layer env, after) = _
  rw [hlayers]

/-- A configuration with marks in its texts, a table that looks like a number, no accesses, and the
largest width. -/
def unusual : Config :=
  { input := some "logs \"of\"\n'today'"
    outputDir := "C:\\results"
    tableId := some "007"
    accessOps := []
    mutateOps := ["put", "", "a, b"]
    otherThreshold := 0.25
    width := 4294967295
    height := 1 }

/-- The unusual configuration is loaded as it was printed, in an environment with a home. -/
theorem unusual_loaded :
    ∃ after, (Host.writeFile "saved.toml" (Text.Utf8.encode unusual.toToml) :
        StateM Session (Except Fault Unit)) (.start .empty []) = (.ok (), after) ∧
      (load .quiet ⟨[("HOME", "/home/user")], none⟩ (some "saved.toml") :
        StateM Session (Except Problem Config)) after = (.ok unusual, after) := by
  have hparts : Path.parts "saved.toml" = ["saved.toml"] := by decide +kernel
  have hsize : "saved.toml".utf8ByteSize = 10 := by decide +kernel
  have hplain : Path.isAbsolute "saved.toml" = false ∧ Path.endsInSlash "saved.toml" = false := by
    decide +kernel
  have hwritten (bytes : List UInt8) : (Host.writeFile "saved.toml" bytes :
      StateM Session (Except Fault Unit)) (.start .empty []) =
        (.ok (), .start (Disk.empty.put ["saved.toml"] (.file bytes)) []) := by
    show Session.change (Disk.empty.write "saved.toml" bytes) _ = _
    simp [Disk.write, Disk.locate, hparts, hsize, hplain, Disk.pathLimit, Disk.nameLimit, Disk.walk,
      Disk.entry?, Disk.empty, Session.start, Session.change]
  refine ⟨_, hwritten _, load_printed .quiet ?_ ?_ ?_ ?_ ?_ (hwritten _)⟩
  · decide +kernel
  · decide
  · decide
  · decide +kernel
  · decide +kernel

end CallProfile.Config
