import CallProfile.Proofs.Record.Line
import CallProfile.Proofs.Text.Spacing

/-!
# Records written as lines

A record can be written as a line in many ways: the fields stand in any order, its tables may be
given one by one or in groups, and the words stand apart by any white space (`Renders`). Each of
these lines is read back as the record. Two things have to hold for this: the words of the fields
decompose into the fields again, since whatever follows a group of tables begins with a key
(`entries_of_fields`), and no word but the texts of the record can hold the mark of a transactional
call (`FieldsOf.mem_line_words`). The main result is `of_line_of_renders`.
-/

namespace CallProfile.Record

/-- The texts of a record: its event, its method and its tables. -/
def texts (r : Record) : List String :=
  r.event :: (r.method.toList ++ r.tableIds)

/-- A record that a line can hold: its numbers have 64 bits, its texts are words, and it is
transactional exactly if one of them holds the mark of a transactional call. -/
structure Writable (r : Record) : Prop where
  timestamp : r.timestampNs < 2 ^ 64
  thread : r.threadId < 2 ^ 64
  duration : ∀ ns ∈ r.durationNs, ns < 2 ^ 64
  words : ∀ text ∈ r.texts, Text.IsWord text
  marked : r.transactional = true ↔ ∃ text ∈ r.texts, "(tx)".toList <:+: text.toList

/-- The words of a field: its key and what it says. -/
def Entry.words : Entry → List String
  | .duration ns => ["[dur]", toString ns]
  | .method name => ["[method]", name]
  | .table id => ["[id]", id]
  | .tables ids => "[ids]" :: ids
  | .free word => [word]

/-- Fields, as opposed to free text. No member of a group of tables is a key. -/
def Entry.IsField : Entry → Prop
  | .tables ids => ∀ id ∈ ids, ¬ IsKey id
  | .free _ => False
  | _ => True

/-- The fields say what the record holds: its duration and its method once, if it has any, and all
its tables in their order. -/
structure FieldsOf (r : Record) (fields : List Entry) : Prop where
  each : ∀ entry ∈ fields, entry.IsField
  duration : fields.filterMap Entry.duration? = r.durationNs.toList
  method : fields.filterMap Entry.method? = r.method.toList
  tables : fields.flatMap Entry.tableIds = r.tableIds

/-- The line renders the record: timestamp, thread, separator and event, and the fields behind them
in any order, with any white space between the words. -/
inductive Renders (r : Record) : String → Prop where
  | intro (fields : List Entry) (rest : List (String × String)) :
      FieldsOf r fields → (∀ piece ∈ rest, Text.IsGap piece.1) →
      rest.map (·.2) = [toString r.threadId, "|", r.event] ++ fields.flatMap Entry.words →
      Renders r (toString r.timestampNs ++ Text.spaced rest)

/-! ## Fields as entries -/

/-- The words of a field begin with a key. -/
theorem exists_words_of_field {entry : Entry} (h : entry.IsField) :
    ∃ key rest, entry.words = key :: rest ∧ IsKey key := by
  cases entry with
  | duration ns => exact ⟨_, _, rfl, is_bracketed_iff.mp (by decide)⟩
  | method name => exact ⟨_, _, rfl, is_bracketed_iff.mp (by decide)⟩
  | table id => exact ⟨_, _, rfl, is_bracketed_iff.mp (by decide)⟩
  | tables ids => exact ⟨_, _, rfl, is_bracketed_iff.mp (by decide)⟩
  | free word => exact h.elim

/-- Where the words of fields begin, there stands a key. -/
theorem head_words_of_fields {fields : List Entry} (h : ∀ entry ∈ fields, entry.IsField) :
    ∀ word ∈ (fields.flatMap Entry.words).head?, IsKey word := by
  cases fields with
  | nil => simp
  | cons entry fields =>
      obtain ⟨key, rest, hwords, hkey⟩ := exists_words_of_field (h entry List.mem_cons_self)
      simpa [hwords] using hkey

/-- The words of fields decompose into the fields. -/
theorem entries_of_fields {fields : List Entry} (h : ∀ entry ∈ fields, entry.IsField)
    (hduration : ∀ ns ∈ fields.filterMap Entry.duration?, ns < 2 ^ 64) :
    Entries (fields.flatMap Entry.words) fields := by
  induction fields with
  | nil => exact .nil
  | cons entry fields ih =>
      have hrest : ∀ entry ∈ fields, entry.IsField := fun entry hentry =>
        h entry (List.mem_cons_of_mem _ hentry)
      have hentry : entry.IsField := h entry List.mem_cons_self
      have hentries := ih hrest fun ns hns => hduration ns (by
        rw [List.filterMap_cons]
        cases entry.duration? <;> simp [hns])
      rw [List.flatMap_cons]
      cases entry with
      | duration ns =>
          have hns : ns < 2 ^ 64 := hduration ns (by simp [Entry.duration?])
          exact .duration _ ns _ _ (Number.is_decimal_to_string hns) hentries
      | method name => exact .method name _ _ hentries
      | table id => exact .table id _ _ hentries
      | tables ids => exact .tables ids _ _ hentry (head_words_of_fields hrest) hentries
      | free word => exact hentry.elim

/-! ## The words of a rendering -/

/-- A word that does not hold the mark of a transactional call. -/
def IsPlain (word : String) : Prop :=
  Text.IsWord word ∧ ¬ "(tx)".toList <:+: word.toList

/-- A text without white space and opening parentheses is plain. -/
theorem is_plain_of_all {word : String} (hne : word ≠ "")
    (h : (word.toList.all fun c => !Text.isBlank c && c != '(') = true) : IsPlain word := by
  rw [List.all_eq_true] at h
  refine ⟨⟨hne, fun c hc => ?_⟩, fun hmark => ?_⟩
  · have hchar := h c hc
    simp only [Bool.and_eq_true, Bool.not_eq_true'] at hchar
    exact hchar.1
  · have hparenthesis := h '(' (hmark.subset (by simp))
    simp at hparenthesis

/-- The separator and the keys are plain. -/
theorem is_plain_of_mem {word : String} (h : word ∈ ["|", "[dur]", "[method]", "[id]", "[ids]"]) :
    IsPlain word := by
  simp only [List.mem_cons, List.not_mem_nil, or_false] at h
  rcases h with rfl | rfl | rfl | rfl | rfl <;> exact is_plain_of_all (by decide) (by decide)

/-- A number is plain. -/
theorem is_plain_to_string (n : Nat) : IsPlain (toString n) := by
  obtain ⟨hne, hdigits, -⟩ := Number.read_digits_eq_some_iff.mp (Number.read_digits_to_digits n)
  have hchars : (toString n).toList = Nat.toDigits 10 n := by
    rw [Nat.toString_eq_repr, Nat.toList_repr]
  refine is_plain_of_all (fun hempty => hne ?_) ?_
  · rw [← hchars, hempty]
    rfl
  · rw [hchars, List.all_eq_true]
    intro c hc
    have hdigit := hdigits c hc
    simp only [Number.isDigit, Bool.and_eq_true, decide_eq_true_eq, Char.le_def,
      UInt32.le_iff_toNat_le] at hdigit
    have hlow : 48 ≤ c.toNat := hdigit.1
    have hhigh : c.toNat ≤ 57 := hdigit.2
    have hblank : Text.isBlank c = false := by
      simp [Text.isBlank]
      omega
    have hparenthesis : c ≠ '(' := by
      rintro rfl
      exact absurd hlow (by decide)
    simp [hblank, hparenthesis]

/-- The method or the tables that an entry names. -/
def Entry.texts (entry : Entry) : List String :=
  entry.method?.toList ++ entry.tableIds

/-- A word of a field is one of its texts, or plain. -/
theorem mem_words_of_field {entry : Entry} (h : entry.IsField) {word : String}
    (hword : word ∈ entry.words) : word ∈ entry.texts ∨ IsPlain word := by
  cases entry with
  | duration ns =>
      simp only [Entry.words, List.mem_cons, List.not_mem_nil, or_false] at hword
      rcases hword with rfl | rfl
      · exact Or.inr (is_plain_of_mem (by simp))
      · exact Or.inr (is_plain_to_string ns)
  | method name =>
      rcases List.mem_cons.mp hword with rfl | hname
      · exact Or.inr (is_plain_of_mem (by simp))
      · exact Or.inl hname
  | table id =>
      rcases List.mem_cons.mp hword with rfl | hid
      · exact Or.inr (is_plain_of_mem (by simp))
      · exact Or.inl hid
  | tables ids =>
      rcases List.mem_cons.mp hword with rfl | hid
      · exact Or.inr (is_plain_of_mem (by simp))
      · exact Or.inl hid
  | free word => exact h.elim

/-- The texts of an entry are among its words. -/
theorem texts_subset_words (entry : Entry) : entry.texts ⊆ entry.words := by
  cases entry <;> simp [Entry.texts, Entry.words, Entry.method?, Entry.tableIds]

/-- The texts of the fields are the method and the tables of the record. -/
theorem FieldsOf.mem_texts {r : Record} {fields : List Entry} (h : FieldsOf r fields)
    {text : String} :
    (∃ entry ∈ fields, text ∈ entry.texts) ↔ text ∈ r.method.toList ++ r.tableIds := by
  rw [← h.method, ← h.tables, List.mem_append, List.mem_filterMap, List.mem_flatMap]
  simp only [Entry.texts, List.mem_append, Option.mem_toList, and_or_left, exists_or]

/-- The words of the line that renders a record by fields. -/
def lineWords (r : Record) (fields : List Entry) : List String :=
  toString r.timestampNs :: ([toString r.threadId, "|", r.event] ++ fields.flatMap Entry.words)

/-- A word of a rendering is one of the texts of the record, or plain. -/
theorem FieldsOf.mem_line_words {r : Record} {fields : List Entry} (h : FieldsOf r fields)
    {word : String} (hword : word ∈ lineWords r fields) : word ∈ r.texts ∨ IsPlain word := by
  simp only [lineWords, List.mem_cons, List.mem_append, List.not_mem_nil, or_false,
    List.mem_flatMap] at hword
  rcases hword with rfl | (rfl | rfl | rfl) | ⟨entry, hentry, hword⟩
  · exact Or.inr (is_plain_to_string _)
  · exact Or.inr (is_plain_to_string _)
  · exact Or.inr (is_plain_of_mem (by simp))
  · exact Or.inl List.mem_cons_self
  · refine (mem_words_of_field (h.each entry hentry) hword).imp_left fun htext => ?_
    exact List.mem_cons_of_mem _ (h.mem_texts.mp ⟨entry, hentry, htext⟩)

/-- The texts of a record are among the words of a rendering. -/
theorem FieldsOf.texts_subset {r : Record} {fields : List Entry} (h : FieldsOf r fields) :
    r.texts ⊆ lineWords r fields := by
  intro text htext
  rcases List.mem_cons.mp htext with rfl | htext
  · simp [lineWords]
  · obtain ⟨entry, hentry, hmem⟩ := h.mem_texts.mpr htext
    have hwords : text ∈ fields.flatMap Entry.words :=
      List.mem_flatMap.mpr ⟨entry, hentry, texts_subset_words entry hmem⟩
    simp [lineWords, hwords]

/-! ## Reading a rendering -/

/-- The words of a rendering are words. -/
theorem Writable.is_word {r : Record} (hr : Writable r) {fields : List Entry}
    (h : FieldsOf r fields) {word : String} (hword : word ∈ lineWords r fields) :
    Text.IsWord word :=
  (h.mem_line_words hword).elim (hr.words word) And.left

/-- The words of a rendering stand for the record. -/
theorem Writable.denotes {r : Record} (hr : Writable r) {fields : List Entry}
    (h : FieldsOf r fields) : Denotes (lineWords r fields) r := by
  have hduration : ∀ ns ∈ fields.filterMap Entry.duration?, ns < 2 ^ 64 := by
    rw [h.duration]
    simpa using hr.duration
  refine .intro _ _ _ _ fields rfl (Number.is_decimal_to_string hr.timestamp)
    (Number.is_decimal_to_string hr.thread) (entries_of_fields h.each hduration) ?_ ?_ h.tables.symm
  · rw [h.duration]
    cases r.durationNs <;> rfl
  · rw [h.method]
    cases r.method <;> rfl

/-- Every rendering of a record is read back as the record. -/
theorem of_line_of_renders {r : Record} (hr : Writable r) {line : String} (h : Renders r line) :
    ofLine line = .ok r := by
  obtain ⟨fields, rest, hfields, hgaps, hrest⟩ := h
  have hline : toString r.timestampNs :: rest.map (·.2) = lineWords r fields := by
    rw [hrest, lineWords]
  have hword : ∀ word ∈ toString r.timestampNs :: rest.map (·.2), Text.IsWord word := by
    rw [hline]
    exact fun word => hr.is_word hfields
  have hwords : Text.words (toString r.timestampNs ++ Text.spaced rest) = lineWords r fields := by
    rw [← hline]
    refine Text.words_of_spaced (hword _ List.mem_cons_self) hgaps fun piece hpiece => ?_
    exact hword _ (List.mem_cons_of_mem _ (List.mem_map_of_mem hpiece))
  refine of_line_of_denotes (hwords ▸ hr.denotes hfields) ?_
  have hsolid : ("(tx)".toList.all fun c => !Text.isBlank c) = true := by
    decide
  simp only [List.all_eq_true, Bool.not_eq_true'] at hsolid
  -- The mark stands in the line exactly if it stands in a text: no other word can hold it.
  rw [Bool.eq_iff_iff, hr.marked, is_marked_iff, Text.infix_iff_words (by simp) hsolid, hwords]
  constructor
  · rintro ⟨text, htext, hmark⟩
    exact ⟨text, hfields.texts_subset htext, hmark⟩
  · rintro ⟨word, hword, hmark⟩
    exact (hfields.mem_line_words hword).elim (fun htext => ⟨word, htext, hmark⟩)
      fun hplain => absurd hmark hplain.2

/-- A record whose event, method and second table look like keys. -/
def keyedRecord : Record :=
  ⟨7, 1, "[ids]", some 5, some "[dur]", ["a", "[id]", "b(tx)"], true⟩

/-- A line that renders it, with its tables in three places. -/
def keyedLine : String :=
  "7 1 |\t[ids]  [ids] a [method] [dur] [id] [id]\t[dur] 5 [ids] b(tx)"

/-- The fields of the line. -/
def keyedFields : List Entry :=
  [.tables ["a"], .method "[dur]", .table "[id]", .duration 5, .tables ["b(tx)"]]

/-- The words of the line behind the first, with the gaps in front of them. -/
def keyedPieces : List (String × String) :=
  [(" ", "1"), (" ", "|"), ("\t", "[ids]"), ("  ", "[ids]"), (" ", "a"), (" ", "[method]"),
    (" ", "[dur]"), (" ", "[id]"), (" ", "[id]"), ("\t", "[dur]"), (" ", "5"), (" ", "[ids]"),
    (" ", "b(tx)")]

/-- The record is read back from the line. -/
theorem keyed_record_read :
    Writable keyedRecord ∧ Renders keyedRecord keyedLine ∧ ofLine keyedLine = .ok keyedRecord := by
  have hwords : keyedRecord.texts.all (fun text =>
      text != "" && text.toList.all fun c => !Text.isBlank c) = true := by
    decide
  have hwritable : Writable keyedRecord := by
    refine ⟨by decide, by decide, by decide, fun text htext => ?_, ?_⟩
    · have hword := List.all_eq_true.mp hwords text htext
      simpa [Text.IsWord] using hword
    · exact iff_of_true rfl ⟨"b(tx)", by decide, by decide⟩
  have hfields : FieldsOf keyedRecord keyedFields := by
    have hfirst : ¬ IsKey "a" := by
      rw [← is_bracketed_iff]
      decide
    have hlast : ¬ IsKey "b(tx)" := by
      rw [← is_bracketed_iff]
      decide
    exact ⟨by simp [keyedFields, Entry.IsField, hfirst, hlast], rfl, rfl, rfl⟩
  have hgaps : keyedPieces.all (fun piece =>
      piece.1 != "" && piece.1.toList.all Text.isBlank) = true := by
    decide
  have hrenders : Renders keyedRecord (toString 7 ++ Text.spaced keyedPieces) := by
    refine .intro keyedFields keyedPieces hfields (fun piece hpiece => ?_) (by decide)
    have hgap := List.all_eq_true.mp hgaps piece hpiece
    simpa [Text.IsGap] using hgap
  have hline : toString 7 ++ Text.spaced keyedPieces = keyedLine := by decide +kernel
  rw [hline] at hrenders
  exact ⟨hwritable, hrenders, of_line_of_renders hwritable hrenders⟩

end CallProfile.Record
