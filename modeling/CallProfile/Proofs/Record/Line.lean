import CallProfile.Proofs.Record.Grammar

/-!
# Reading lines

The reader of lines accepts exactly the grammar. Three facts make that an equivalence: a line of
the grammar is read as its record, a line with a fault is refused with it, and every line is one or
the other. The reader of entries is followed through a prefix of entries in `read_items_append`,
which serves the first two. The main result is `of_line_iff`.
-/

namespace CallProfile.Record

/-! ## One word of the reader of entries -/

/-- A list of tables takes in a word that is no key. -/
theorem read_items_member {word : String} (hkey : isBracketed word = false) (rest : List String) :
    readItems true (word :: rest) = (.table word :: ·) <$> readItems true rest := by
  rw [readItems.eq_def]
  simp [hkey]

/-- A list of tables ends at a key. -/
theorem read_items_key {word : String} (hkey : isBracketed word = true) (rest : List String) :
    readItems true (word :: rest) = readItems false (word :: rest) := by
  rw [readItems.eq_def, readItems.eq_def]
  simp [hkey]

/-- The key of tables opens a list. -/
theorem read_items_tables (rest : List String) :
    readItems false ("[ids]" :: rest) = readItems true rest := by
  rw [readItems.eq_def]
  simp

/-- A duration is read with its number. -/
theorem read_items_duration (value : String) (rest : List String) :
    readItems false ("[dur]" :: value :: rest) =
      readNumber .duration value >>= fun ns => (.duration ns :: ·) <$> readItems false rest := by
  rw [readItems.eq_def]
  simp

/-- A method is read with its name. -/
theorem read_items_method (name : String) (rest : List String) :
    readItems false ("[method]" :: name :: rest) =
      (.method name :: ·) <$> readItems false rest := by
  rw [readItems.eq_def]
  simp

/-- A table is read with its name. -/
theorem read_items_table (id : String) (rest : List String) :
    readItems false ("[id]" :: id :: rest) = (.table id :: ·) <$> readItems false rest := by
  rw [readItems.eq_def]
  simp

/-- Any other word is passed over. -/
theorem read_items_free {word : String} (hword : word ∉ ["[dur]", "[method]", "[id]", "[ids]"])
    (rest : List String) : readItems false (word :: rest) = readItems false rest := by
  simp only [List.mem_cons, List.not_mem_nil, or_false, not_or] at hword
  have hids : (word == "[ids]") = false := beq_eq_false_iff_ne.mpr hword.2.2.2
  rw [readItems.eq_def]
  simp [hword, hids]

/-! ## Reading entries -/

/-- The items that an entry is read as. -/
def Entry.items : Entry → List Item
  | .duration ns => [.duration ns]
  | .method name => [.method name]
  | .table id => [.table id]
  | .tables ids => ids.map .table
  | .free _ => []

/-- A list of tables is read up to the next key. -/
theorem read_items_listing {ids next : List String} (hids : ∀ id ∈ ids, ¬ IsKey id)
    (hnext : ∀ word ∈ next.head?, IsKey word) :
    readItems true (ids ++ next) = (ids.map .table ++ ·) <$> readItems false next := by
  induction ids with
  | nil =>
      cases next with
      | nil => rfl
      | cons word next =>
          simpa using read_items_key (is_bracketed_iff.mpr (hnext word rfl)) next
  | cons id ids ih =>
      have hkey : isBracketed id = false := by
        simpa [← is_bracketed_iff] using hids id List.mem_cons_self
      have hrest := ih fun other hother => hids other (List.mem_cons_of_mem id hother)
      rw [List.cons_append, read_items_member hkey, hrest]
      simp

/-- Entries are read as their items, whatever is read from the next key on. -/
theorem read_items_append {before next : List String} {entries : List Entry}
    (h : Entries before entries) (hnext : ∀ word ∈ next.head?, IsKey word) :
    readItems false (before ++ next) =
      (entries.flatMap Entry.items ++ ·) <$> readItems false next := by
  induction h with
  | nil => simp
  | duration value ns rest entries hvalue _ ih =>
      rw [List.cons_append, List.cons_append, read_items_duration,
        read_number_eq_ok_iff.mpr hvalue, ih]
      simp [Entry.items, bind, Except.bind]
  | method name rest entries _ ih =>
      rw [List.cons_append, List.cons_append, read_items_method, ih]
      simp [Entry.items]
  | table id rest entries _ ih =>
      rw [List.cons_append, List.cons_append, read_items_table, ih]
      simp [Entry.items]
  | tables ids rest entries hids hrest _ ih =>
      -- the run stays maximal when more words follow, since those begin with a key
      have hkey : ∀ word ∈ (rest ++ next).head?, IsKey word := by
        cases rest with
        | nil => exact hnext
        | cons word rest => exact hrest
      rw [List.append_assoc, List.cons_append, read_items_tables, read_items_listing hids hkey, ih]
      simp [Entry.items]
  | free word rest entries hword _ ih =>
      rw [List.cons_append, read_items_free hword, ih]
      simp [Entry.items]

/-- Entries are read as their items. -/
theorem read_items_of_entries {words : List String} {entries : List Entry}
    (h : Entries words entries) : readItems false words = .ok (entries.flatMap Entry.items) := by
  have hread := read_items_append h (show ∀ word ∈ ([] : List String).head?, IsKey word by simp)
  simpa [readItems] using hread

/-- A list of tables ends at the next key, and a value may look like one. -/
example : readItems false ["[ids]", "a", "[method]", "[dur]", "5"] =
    .ok [.table "a", .method "[dur]"] := rfl

/-! ## Keys that lack their value -/

/-- No two parts of a line have one name. -/
theorem line_field_name_injective {field other : LineField} (h : field.name = other.name) :
    field = other := by
  revert h
  cases field <;> cases other <;> simp [LineField.name]

/-- A word that need not be a number can only be missing. -/
theorem Lacks.of_word (field : LineField) {rest : List String} {e : LineError}
    (h : Lacks field.name false rest e) : rest = [] ∧ e = .missing field := by
  cases h with
  | missing other hname =>
      obtain rfl := line_field_name_injective hname
      exact ⟨rfl, rfl⟩
  | invalid _ _ _ _ hnumeric _ => cases hnumeric

/-- A number can be missing, or its word is refused. -/
theorem Lacks.of_number (field : LineField) {rest : List String} {e : LineError}
    (h : Lacks field.name true rest e) :
    rest = [] ∧ e = .missing field ∨
      ∃ word tail, rest = word :: tail ∧ readNumber field word = .error e := by
  cases h with
  | missing other hname =>
      obtain rfl := line_field_name_injective hname
      exact Or.inl ⟨rfl, rfl⟩
  | invalid other word tail hname _ hword =>
      obtain rfl := line_field_name_injective hname
      exact Or.inr ⟨word, tail, rfl, read_number_eq_error hword⟩

/-- The keys of values are keys. -/
theorem is_key_of_value_key {key name : String} {numeric : Bool}
    (h : (key, name, numeric) ∈ valueKeys) : IsKey key := by
  simp only [valueKeys, List.mem_cons, List.not_mem_nil, or_false, Prod.mk.injEq] at h
  rw [← is_bracketed_iff]
  rcases h with ⟨rfl, -⟩ | ⟨rfl, -⟩ | ⟨rfl, -⟩ <;> decide

/-- A key that lacks its value is refused for it. -/
theorem read_items_of_lacks {key name : String} {numeric : Bool} {rest : List String}
    {e : LineError} (hkey : (key, name, numeric) ∈ valueKeys) (hlacks : Lacks name numeric rest e) :
    readItems false (key :: rest) = .error e := by
  simp only [valueKeys, List.mem_cons, List.not_mem_nil, or_false, Prod.mk.injEq] at hkey
  rcases hkey with ⟨rfl, rfl, rfl⟩ | ⟨rfl, rfl, rfl⟩ | ⟨rfl, rfl, rfl⟩
  · rcases hlacks.of_number .duration with ⟨rfl, rfl⟩ | ⟨value, tail, rfl, hread⟩
    · rfl
    · rw [read_items_duration, hread]
      rfl
  · obtain ⟨rfl, rfl⟩ := hlacks.of_word .method
    rfl
  · obtain ⟨rfl, rfl⟩ := hlacks.of_word .table
    rfl

/-- Entries up to a key that lacks its value are refused for it. -/
theorem read_items_of_fault {words : List String} {e : LineError} (h : ValueFault words e) :
    readItems false words = .error e := by
  obtain ⟨before, entries, key, name, numeric, rest, e, hentries, hkey, hlacks⟩ := h
  have hnext : ∀ word ∈ (key :: rest).head?, IsKey word := by
    simpa using is_key_of_value_key hkey
  rw [read_items_append hentries hnext, read_items_of_lacks hkey hlacks]
  rfl

/-! ## Every sequence of words decomposes or has a fault -/

/-- The words decompose into entries, or up to a key that lacks its value. -/
def Decomposes (words : List String) : Prop :=
  (∃ entries, Entries words entries) ∨ ∃ e, ValueFault words e

/-- Words that continue every decomposition may stand in front. -/
theorem Decomposes.after (front : List String) {rest : List String} (h : Decomposes rest)
    (hfront : ∀ before entries, Entries before entries →
      (∀ word ∈ before.head?, word ∈ rest.head?) → ∃ more, Entries (front ++ before) more) :
    Decomposes (front ++ rest) := by
  rcases h with ⟨entries, hentries⟩ | ⟨e, hfault⟩
  · exact Or.inl (hfront rest entries hentries fun _ hword => hword)
  · obtain ⟨before, entries, key, name, numeric, tail, e, hentries, hkey, hlacks⟩ := hfault
    obtain ⟨more, hmore⟩ := hfront before entries hentries (by cases before <;> simp)
    rw [← List.append_assoc]
    exact Or.inr ⟨e, .intro _ _ _ _ _ _ _ hmore hkey hlacks⟩

/-- A key that lacks its value is a fault right away. -/
theorem Decomposes.of_lacks {key : String} (field : LineField) (numeric : Bool)
    {rest : List String} {e : LineError} (hkey : (key, field.name, numeric) ∈ valueKeys)
    (hlacks : Lacks field.name numeric rest e) : Decomposes (key :: rest) :=
  Or.inr ⟨e, .intro [] [] _ _ _ _ _ .nil hkey hlacks⟩

/-- Words split into a run without keys and what follows from the first key on. -/
theorem exists_run (words : List String) :
    ∃ ids next, words = ids ++ next ∧ (∀ id ∈ ids, ¬ IsKey id) ∧
      ∀ word ∈ next.head?, IsKey word := by
  induction words with
  | nil => exact ⟨[], [], rfl, by simp, by simp⟩
  | cons word words ih =>
      by_cases hkey : IsKey word
      · exact ⟨[], word :: words, rfl, by simp, by simpa using hkey⟩
      · obtain ⟨ids, next, rfl, hids, hnext⟩ := ih
        exact ⟨word :: ids, next, rfl, by simpa [hkey] using hids, hnext⟩

/-- A duration may stand in front, or its value is the fault. -/
theorem Decomposes.duration (value : String) {rest : List String} (h : Decomposes rest) :
    Decomposes ("[dur]" :: value :: rest) := by
  by_cases hvalue : ∃ ns, IsNumber value ns
  · obtain ⟨ns, hvalue⟩ := hvalue
    exact h.after ["[dur]", value] fun before entries hbefore _ =>
      ⟨_, .duration value ns before entries hvalue hbefore⟩
  · exact .of_lacks .duration true (by simp [valueKeys, LineField.name])
      (.invalid .duration value rest rfl rfl (not_exists.mp hvalue))

/-- A list of tables may stand in front of what begins with a key. -/
theorem Decomposes.tables {ids next : List String} (h : Decomposes next)
    (hids : ∀ id ∈ ids, ¬ IsKey id) (hnext : ∀ word ∈ next.head?, IsKey word) :
    Decomposes ("[ids]" :: ids ++ next) :=
  h.after ("[ids]" :: ids) fun before entries hbefore hhead =>
    ⟨_, .tables ids before entries hids (fun word hword => hnext word (hhead word hword)) hbefore⟩

/-- All words decompose, or have a fault. The recursion skips the words of an entry at once. -/
theorem decomposes (words : List String) : Decomposes words := by
  rcases words with _ | ⟨word, rest⟩
  · exact Or.inl ⟨[], .nil⟩
  by_cases hduration : word = "[dur]"
  · subst hduration
    cases rest with
    | nil =>
        exact .of_lacks .duration true (by simp [valueKeys, LineField.name])
          (.missing .duration rfl)
    | cons value rest => exact (decomposes rest).duration value
  by_cases hmethod : word = "[method]"
  · subst hmethod
    cases rest with
    | nil =>
        exact .of_lacks .method false (by simp [valueKeys, LineField.name]) (.missing .method rfl)
    | cons name rest =>
        exact (decomposes rest).after ["[method]", name] fun before entries h _ =>
          ⟨_, .method name before entries h⟩
  by_cases htable : word = "[id]"
  · subst htable
    cases rest with
    | nil =>
        exact .of_lacks .table false (by simp [valueKeys, LineField.name]) (.missing .table rfl)
    | cons id rest =>
        exact (decomposes rest).after ["[id]", id] fun before entries h _ =>
          ⟨_, .table id before entries h⟩
  by_cases htables : word = "[ids]"
  · subst htables
    obtain ⟨ids, next, hsplit, hids, hnext⟩ := exists_run rest
    -- the recursion goes on behind the run, which may be empty
    have hlength : next.length ≤ rest.length := by simp [hsplit]
    rw [hsplit, ← List.cons_append]
    exact (decomposes next).tables hids hnext
  have hfree : word ∉ ["[dur]", "[method]", "[id]", "[ids]"] := by
    simp [hduration, hmethod, htable, htables]
  exact (decomposes rest).after [word] fun before entries h _ =>
    ⟨_, .free word before entries hfree h⟩
termination_by words.length

/-! ## Records -/

/-- The tables of a list are added in their order. -/
theorem foldl_add_tables (ids : List String) (r : Record) :
    (ids.map Item.table).foldl addItem r = { r with tableIds := r.tableIds ++ ids } := by
  induction ids generalizing r with
  | nil => simp
  | cons id ids ih => simp [addItem, ih]

/-- Adding the items of entries keeps the last duration and the last method, and all tables. -/
theorem foldl_add_items (entries : List Entry) (r : Record) :
    (entries.flatMap Entry.items).foldl addItem r =
      { r with
        durationNs := (entries.filterMap Entry.duration?).getLast?.or r.durationNs
        method := (entries.filterMap Entry.method?).getLast?.or r.method
        tableIds := r.tableIds ++ entries.flatMap Entry.tableIds } := by
  induction entries generalizing r with
  | nil => simp
  | cons entry entries ih =>
      rw [List.flatMap_cons, List.foldl_append, ih]
      cases entry with
      | duration ns =>
          cases h : (entries.filterMap Entry.duration?).getLast? <;>
            simp [Entry.items, addItem, Entry.duration?, Entry.method?, Entry.tableIds,
              List.getLast?_cons, h]
      | method name =>
          cases h : (entries.filterMap Entry.method?).getLast? <;>
            simp [Entry.items, addItem, Entry.duration?, Entry.method?, Entry.tableIds,
              List.getLast?_cons, h]
      | table id => simp [Entry.items, addItem, Entry.duration?, Entry.method?, Entry.tableIds]
      | tables ids =>
          simp [Entry.items, foldl_add_tables, Entry.duration?, Entry.method?, Entry.tableIds]
      | free word => simp [Entry.items, Entry.duration?, Entry.method?, Entry.tableIds]

/-- The words of a line of the grammar are read as the record they stand for. -/
theorem of_words_of_denotes {words : List String} {r : Record} (h : Denotes words r) :
    ofWords r.transactional words = .ok r := by
  obtain ⟨time, thread, separator, rest, entries, rfl, htime, hthread, hentries, hduration,
    hmethod, htables⟩ := h
  have hread : ofWords r.transactional (time :: thread :: separator :: r.event :: rest) =
      .ok ((entries.flatMap Entry.items).foldl addItem
        ⟨r.timestampNs, r.threadId, r.event, none, none, [], r.transactional⟩) := by
    simp [ofWords, read_number_eq_ok_iff.mpr htime, read_number_eq_ok_iff.mpr hthread,
      read_items_of_entries hentries, bind, Except.bind, pure, Except.pure]
  rw [hread, foldl_add_items]
  simp [← hduration, ← hmethod, ← htables]

/-- Words with a fault are refused for it. -/
theorem of_words_of_fault {words : List String} {e : LineError} (h : FirstFault words e)
    (transactional : Bool) : ofWords transactional words = .error e := by
  cases h with
  | timestamp words e hne hlacks =>
      rcases hlacks.of_number .timestamp with ⟨rfl, -⟩ | ⟨word, tail, rfl, hread⟩
      · exact absurd rfl hne
      · simp [ofWords, hread, bind, Except.bind]
  | thread time timestampNs rest e htime hlacks =>
      rcases hlacks.of_number .thread with ⟨rfl, rfl⟩ | ⟨word, tail, rfl, hread⟩
      · simp [ofWords, read_number_eq_ok_iff.mpr htime, bind, Except.bind]
      · simp [ofWords, read_number_eq_ok_iff.mpr htime, hread, bind, Except.bind]
  | separator time thread timestampNs threadId rest e htime hthread hlacks =>
      obtain ⟨rfl, rfl⟩ := hlacks.of_word .separator
      simp [ofWords, read_number_eq_ok_iff.mpr htime, read_number_eq_ok_iff.mpr hthread, bind,
        Except.bind]
  | event time thread separator timestampNs threadId rest e htime hthread hlacks =>
      obtain ⟨rfl, rfl⟩ := hlacks.of_word .event
      simp [ofWords, read_number_eq_ok_iff.mpr htime, read_number_eq_ok_iff.mpr hthread, bind,
        Except.bind]
  | value time thread separator event timestampNs threadId rest e htime hthread hfault =>
      simp [ofWords, read_number_eq_ok_iff.mpr htime, read_number_eq_ok_iff.mpr hthread,
        read_items_of_fault hfault, bind, Except.bind]

/-- To lack a word is not to have no words. -/
theorem Lacks.ne_empty {name : String} {numeric : Bool} {rest : List String} {e : LineError}
    (h : Lacks name numeric rest e) : e ≠ .empty := by
  cases h <;> simp

/-- A fault is never that the line has no words. -/
theorem FirstFault.ne_empty {words : List String} {e : LineError} (h : FirstFault words e) :
    e ≠ .empty := by
  cases h with
  | timestamp _ _ _ h => exact h.ne_empty
  | thread _ _ _ _ _ h => exact h.ne_empty
  | separator _ _ _ _ _ _ _ _ h => exact h.ne_empty
  | event _ _ _ _ _ _ _ _ _ h => exact h.ne_empty
  | value _ _ _ _ _ _ _ _ _ _ h =>
      obtain ⟨_, _, _, _, _, _, _, _, _, h⟩ := h
      exact h.ne_empty

/-- A line without words, a line of the grammar and a line with a fault are all the lines there
are. -/
theorem denotes_or_fault (words : List String) (transactional : Bool) :
    words = [] ∨ (∃ r : Record, r.transactional = transactional ∧ Denotes words r) ∨
      ∃ e, FirstFault words e := by
  rcases words with _ | ⟨time, words⟩
  · exact Or.inl rfl
  right
  by_cases htime : ∃ n, IsNumber time n
  · obtain ⟨timestampNs, htime⟩ := htime
    rcases words with _ | ⟨thread, words⟩
    · exact Or.inr ⟨_, .thread time timestampNs [] _ htime (.missing .thread rfl)⟩
    by_cases hthread : ∃ n, IsNumber thread n
    · obtain ⟨threadId, hthread⟩ := hthread
      rcases words with _ | ⟨separator, _ | ⟨event, rest⟩⟩
      · exact Or.inr ⟨_, .separator time thread timestampNs threadId [] _ htime hthread
          (.missing .separator rfl)⟩
      · exact Or.inr ⟨_, .event time thread separator timestampNs threadId [] _ htime hthread
          (.missing .event rfl)⟩
      rcases decomposes rest with ⟨entries, hentries⟩ | ⟨e, hfault⟩
      · refine Or.inl ⟨⟨timestampNs, threadId, event,
          (entries.filterMap Entry.duration?).getLast?, (entries.filterMap Entry.method?).getLast?,
          entries.flatMap Entry.tableIds, transactional⟩, rfl, ?_⟩
        exact .intro time thread separator rest entries rfl htime hthread hentries rfl rfl rfl
      · exact Or.inr ⟨e, .value time thread separator event timestampNs threadId rest e htime
          hthread hfault⟩
    · exact Or.inr ⟨_, .thread time timestampNs _ _ htime
        (.invalid .thread thread words rfl rfl (not_exists.mp hthread))⟩
  · exact Or.inr ⟨_, .timestamp _ _ (by simp)
      (.invalid .timestamp time words rfl rfl (not_exists.mp htime))⟩

/-- The mark of a transactional call is found exactly in the lines that hold it. -/
theorem is_marked_iff {line : String} : isMarked line = true ↔ "(tx)".toList <:+: line.toList :=
  Text.has_part_iff

/-- A line that stands for a record, with the mark or without, is read as the record. -/
theorem of_line_of_denotes {line : String} {r : Record} (h : Denotes (Text.words line) r)
    (hmarked : r.transactional = isMarked line) : ofLine line = .ok r := by
  rw [ofLine, ← hmarked]
  exact of_words_of_denotes h

/-- What is read of a line is what the grammar says of its words. -/
theorem of_line_cases (line : String) :
    (ofLine line = .error .empty ∧ Text.words line = []) ∨
      (∃ r, ofLine line = .ok r ∧ Denotes (Text.words line) r ∧
        r.transactional = isMarked line) ∨
      ∃ e, ofLine line = .error e ∧ FirstFault (Text.words line) e := by
  rcases denotes_or_fault (Text.words line) (isMarked line) with
    hwords | ⟨r, hmarked, h⟩ | ⟨e, h⟩
  · exact Or.inl ⟨by rw [ofLine, hwords, ofWords], hwords⟩
  · exact Or.inr (Or.inl ⟨r, of_line_of_denotes h hmarked, h, hmarked⟩)
  · exact Or.inr (Or.inr ⟨e, of_words_of_fault h _, h⟩)

/-- A line is read exactly as the grammar says. Its words are the maximal runs without white
space; it is read as a record if its words stand for the record and the record is transactional
exactly when the line holds the mark; it is empty if it has no words, and otherwise refused for its
first fault. -/
theorem of_line_iff (line : String) :
    (∀ words, Text.Spells line words ↔ words = Text.words line) ∧
      (∀ r, ofLine line = .ok r ↔
        Denotes (Text.words line) r ∧
          (r.transactional = true ↔ "(tx)".toList <:+: line.toList)) ∧
      (ofLine line = .error .empty ↔ Text.words line = []) ∧
      ∀ e, ofLine line = .error e ∧ e ≠ .empty ↔ FirstFault (Text.words line) e := by
  simp only [← is_marked_iff, ← Bool.eq_iff_iff]
  refine ⟨fun words => Text.spells_iff, fun r => ⟨fun hok => ?_, ?_⟩, ⟨fun herror => ?_, ?_⟩,
    fun e => ⟨?_, fun h => ⟨of_words_of_fault h _, h.ne_empty⟩⟩⟩
  · rcases of_line_cases line with ⟨hread, _⟩ | ⟨other, hread, h⟩ | ⟨e, hread, _⟩
    · cases hread.symm.trans hok
    · cases hread.symm.trans hok
      exact h
    · cases hread.symm.trans hok
  · rintro ⟨h, hmarked⟩
    exact of_line_of_denotes h hmarked
  · rcases of_line_cases line with ⟨_, hwords⟩ | ⟨r, hread, _⟩ | ⟨e, hread, h⟩
    · exact hwords
    · cases hread.symm.trans herror
    · cases hread.symm.trans herror
      exact absurd rfl h.ne_empty
  · intro hwords
    rw [ofLine, hwords, ofWords]
  · rintro ⟨herror, hne⟩
    rcases of_line_cases line with ⟨hread, _⟩ | ⟨r, hread, _⟩ | ⟨other, hread, h⟩
    · cases hread.symm.trans herror
      exact absurd rfl hne
    · cases hread.symm.trans herror
    · cases hread.symm.trans herror
      exact h

end CallProfile.Record
