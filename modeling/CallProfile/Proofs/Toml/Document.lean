import CallProfile.Proofs.Toml.Number
import CallProfile.Proofs.Toml.Text

/-!
# Documents of assignments are read back

A document that assigns values to different keys without quotes, one in each line, is read as the
settings of its values in their order (`read_assignments`). Texts, lists of texts, natural numbers
and fractions from zero up to one are values that are read back (`ReadsAs`).
-/

namespace CallProfile.Toml

/-! ## Values -/

/-- A value that is read as a setting up to the end of the line, with one step for each of its
characters at most. -/
structure ReadsAs (value : List Char) (setting : Setting) : Prop where
  starts : ∀ rest, skipSpace (value ++ rest) = value ++ rest
  read : ∀ {fuel : Nat} (rest : List Char), value.length ≤ fuel →
    readValue fuel (value ++ '\n' :: rest) = some (setting, '\n' :: rest)

/-- A text begins with a quote. -/
theorem head_quoted (chars : List Char) :
    ∃ quote more, quotedText chars = quote :: more ∧ (quote = '"' ∨ quote = '\'') := by
  unfold quotedText
  cases quotesFor chars with
  | basic => exact ⟨_, _, rfl, Or.inl rfl⟩
  | literal => exact ⟨_, _, rfl, Or.inr rfl⟩
  | longBasic => exact ⟨_, _, rfl, Or.inl rfl⟩
  | longLiteral => exact ⟨_, _, rfl, Or.inr rfl⟩

/-- No space stands in front of a text. -/
theorem skip_space_quoted (chars rest : List Char) :
    skipSpace (quotedText chars ++ rest) = quotedText chars ++ rest ∧
      skipTrivia false (quotedText chars ++ rest) = some (quotedText chars ++ rest) := by
  obtain ⟨quote, more, hhead, rfl | rfl⟩ := head_quoted chars
  · rw [hhead]
    exact ⟨rfl, rfl⟩
  · rw [hhead]
    exact ⟨rfl, rfl⟩

/-- A text is read as a value up to what follows it, which is no quote. -/
theorem read_value_text (fuel : Nat) (text : String) (rest : List Char)
    (hdouble : rest.head? ≠ some '"') (hsingle : rest.head? ≠ some '\'') :
    readValue (fuel + 1) (quotedText text.toList ++ rest) = some (.text text, rest) := by
  have hread := read_text_quoted text.toList hdouble hsingle
  have hvalue : (some (Setting.text (String.ofList text.toList), rest)) =
      some (Setting.text text, rest) := by
    rw [String.ofList_toList]
  obtain ⟨quote, more, hhead, rfl | rfl⟩ := head_quoted text.toList
  · rw [hhead, List.cons_append] at hread ⊢
    rw [readValue, hread, Option.map_some]
    exact hvalue
  · rw [hhead, List.cons_append] at hread ⊢
    rw [readValue, hread, Option.map_some]
    exact hvalue

/-- A text is read back. -/
theorem reads_as_text (text : String) : ReadsAs (Toml.text text).toList (.text text) := by
  have htext : (Toml.text text).toList = quotedText text.toList := String.toList_ofList
  rw [htext]
  refine ⟨fun rest => (skip_space_quoted _ rest).1, fun {fuel} rest hfuel => ?_⟩
  obtain ⟨fuel, rfl⟩ : ∃ k, fuel = k + 1 := by
    obtain ⟨quote, more, hhead, -⟩ := head_quoted text.toList
    rw [hhead, List.length_cons] at hfuel
    exact ⟨fuel - 1, by omega⟩
  exact read_value_text fuel text _ (by simp) (by simp)

/-- Texts with commas between them. -/
def itemChars (values : List String) : List Char :=
  [',', ' '].intercalate (values.map fun value => quotedText value.toList)

/-- A list of one text is the text. -/
theorem item_chars_singleton (value : String) : itemChars [value] = quotedText value.toList :=
  List.intercalate_singleton

/-- A text with others behind it has a comma and a space behind it. -/
theorem item_chars_cons_cons (value next : String) (values : List String) :
    itemChars (value :: next :: values) =
      quotedText value.toList ++ ',' :: ' ' :: itemChars (next :: values) := by
  simp [itemChars, List.intercalate_cons_cons]

/-- A space in front of an item is skipped. -/
theorem read_items_space (fuel : Nat) (chars : List Char) :
    readItems fuel (' ' :: chars) = readItems fuel chars := by
  cases fuel with
  | zero => rfl
  | succ fuel =>
      have hskip : skipTrivia false (' ' :: chars) = skipTrivia false chars := rfl
      rw [readItems, readItems, hskip]

/-- The last item of a list. -/
theorem read_items_last (fuel : Nat) (value : String) (rest : List Char) :
    readItems (fuel + 2) (quotedText value.toList ++ ']' :: rest) = some ([.text value], rest) := by
  have hread := read_value_text fuel value (']' :: rest) (by simp) (by simp)
  have hskip := (skip_space_quoted value.toList (']' :: rest)).2
  obtain ⟨quote, more, hhead, rfl | rfl⟩ := head_quoted value.toList
  all_goals
    rw [hhead, List.cons_append] at hread hskip ⊢
    rw [readItems, hskip]
    show (readValue (fuel + 1) _).bind _ = _
    rw [hread]
    rfl

/-- An item of a list with other items behind it. -/
theorem read_items_next {fuel : Nat} (value : String) {items : List Setting}
    {chars rest : List Char} (h : readItems (fuel + 1) chars = some (items, rest)) :
    readItems (fuel + 2) (quotedText value.toList ++ ',' :: chars) =
      some (.text value :: items, rest) := by
  have hread := read_value_text fuel value (',' :: chars) (by simp) (by simp)
  have hskip := (skip_space_quoted value.toList (',' :: chars)).2
  obtain ⟨quote, more, hhead, rfl | rfl⟩ := head_quoted value.toList
  all_goals
    rw [hhead, List.cons_append] at hread hskip ⊢
    rw [readItems, hskip]
    show (readValue (fuel + 1) _).bind _ = _
    rw [hread]
    show (readItems (fuel + 1) chars).bind _ = _
    rw [h]
    rfl

/-- The items of a list are read up to its bracket. -/
theorem read_items_texts {fuel : Nat} (values : List String) (rest : List Char)
    (hfuel : values.length < fuel) :
    readItems fuel (itemChars values ++ ']' :: rest) = some (values.map .text, rest) := by
  induction values generalizing fuel with
  | nil =>
      obtain ⟨fuel, rfl⟩ : ∃ k, fuel = k + 1 := ⟨fuel - 1, by omega⟩
      show readItems (fuel + 1) (']' :: rest) = _
      rw [readItems]
      rfl
  | cons value values ih =>
      obtain ⟨fuel, rfl⟩ : ∃ k, fuel = k + 2 := ⟨fuel - 2, by simp at hfuel; omega⟩
      cases values with
      | nil =>
          rw [item_chars_singleton]
          exact read_items_last fuel value rest
      | cons next values =>
          have hread := @ih (fuel + 1) (by simp at hfuel ⊢; omega)
          rw [← read_items_space] at hread
          rw [item_chars_cons_cons, List.append_assoc]
          exact read_items_next value hread

/-- A list of texts is longer than it has items. -/
theorem length_item_chars (values : List String) : values.length ≤ (itemChars values).length := by
  induction values with
  | nil => exact Nat.zero_le _
  | cons value values ih =>
      obtain ⟨quote, more, hhead, -⟩ := head_quoted value.toList
      cases values with
      | nil =>
          rw [item_chars_singleton, hhead]
          simp
      | cons next values =>
          rw [item_chars_cons_cons, List.length_append, hhead]
          simp only [List.length_cons] at ih ⊢
          omega

/-- A list of texts is read back. -/
theorem reads_as_texts (values : List String) :
    ReadsAs (Toml.texts values).toList (.list (values.map .text)) := by
  have hchars : (Toml.texts values).toList = '[' :: (itemChars values ++ [']']) := by
    have hitems : (values.map Toml.text).map String.toList =
        values.map fun value => quotedText value.toList := by
      simp [Toml.text]
    simp [Toml.texts, itemChars, String.toList_intercalate, hitems]
  rw [hchars]
  refine ⟨fun rest => rfl, fun {fuel} rest hfuel => ?_⟩
  have hlength := length_item_chars values
  simp only [List.length_cons, List.length_append, List.length_nil] at hfuel
  obtain ⟨fuel, rfl⟩ : ∃ k, fuel = k + 1 := ⟨fuel - 1, by omega⟩
  rw [List.cons_append, List.append_assoc]
  show readValue (fuel + 1) ('[' :: (itemChars values ++ ']' :: '\n' :: rest)) = _
  rw [readValue, read_items_texts values _ (by omega)]
  rfl

/-! ## Words -/

/-- The characters of numbers do not end a word, nor do they begin another value. -/
theorem plain_cases {c : Char} (h : IsPlain c) :
    endsWord c = false ∧ isLineSpace c = false ∧ c ≠ '"' ∧ c ≠ '\'' ∧ c ≠ '[' ∧ c ≠ '\x7b' := by
  rcases h with hdigit | rfl | rfl
  · have hne (other : Char) (hother : other.isDigit = false) : c ≠ other := by
      rintro rfl
      rw [hdigit] at hother
      cases hother
    have hspace : isLineSpace c = false := by
      simp [isLineSpace, hne ' ' (by decide), hne '\t' (by decide)]
    refine ⟨?_, hspace, hne _ (by decide), hne _ (by decide), hne _ (by decide), hne _ (by decide)⟩
    simp [endsWord, hspace, hne '\n' (by decide), hne '\r' (by decide),
      hne ',' (by decide), hne ']' (by decide),
      hne '\x7d' (by decide), hne '#' (by decide),
      hne '=' (by decide)]
  · decide
  · decide

/-- A word ends with the line. -/
theorem take_word_line {word : List Char} (h : ∀ c ∈ word, endsWord c = false)
    (rest : List Char) : takeWord (word ++ '\n' :: rest) = (word, '\n' :: rest) := by
  have hall : ∀ c ∈ word, (!endsWord c) = true := fun c hc => by rw [h c hc]; rfl
  have hbreak : endsWord '\n' = true := by decide
  have htake : (word ++ '\n' :: rest).takeWhile (!endsWord ·) = word := by
    rw [List.takeWhile_append_of_pos hall]
    simp [hbreak]
  have hdrop : (word ++ '\n' :: rest).dropWhile (!endsWord ·) = '\n' :: rest := by
    rw [List.dropWhile_append_of_pos hall]
    simp [hbreak]
  unfold takeWord
  simp only [htake, hdrop]
  split
  · next heq => exact absurd (List.cons.inj heq).1 (by decide)
  · rfl

/-- A number is read up to the end of the line. -/
theorem reads_as_word {word : List Char} {setting : Setting} (hne : word ≠ [])
    (hplain : ∀ c ∈ word, IsPlain c) (hvalue : wordValue? word = some setting) :
    ReadsAs word setting := by
  obtain ⟨first, more, rfl⟩ := List.exists_cons_of_ne_nil hne
  obtain ⟨-, hspace, hdouble, hsingle, hbracket, hbrace⟩ :=
    plain_cases (hplain first List.mem_cons_self)
  refine ⟨fun rest => ?_, fun {fuel} rest hfuel => ?_⟩
  · rw [List.cons_append, skipSpace, List.dropWhile_cons_of_neg (by simp [hspace])]
  · have hword := take_word_line (fun c hc => (plain_cases (hplain c hc)).1) rest
    obtain ⟨fuel, rfl⟩ : ∃ k, fuel = k + 1 := by
      rw [List.length_cons] at hfuel
      exact ⟨fuel - 1, by omega⟩
    rw [List.cons_append] at hword ⊢
    rw [readValue]
    · simp only [hword, hvalue, Option.map_some]
    all_goals simp [hdouble, hsingle, hbracket, hbrace]

/-- A natural number of 63 bits is read back. -/
theorem reads_as_natural {n : Nat} (h : n < 2 ^ 63) : ReadsAs (toString n).toList (.integer n) := by
  have hvalue := word_value_natural h
  rw [Nat.toString_eq_repr, Nat.toList_repr] at hvalue ⊢
  exact reads_as_word Nat.toDigits_ne_nil
    (fun c hc => Or.inl ((Json.digits_to_digits n).2 c hc)) hvalue

/-- A number from zero up to one is read back. -/
theorem reads_as_fraction {x : Float} (hlow : 0 ≤ x) (hhigh : x < 1) :
    ReadsAs (Toml.fraction x).toList (.real x) := by
  obtain ⟨negative, whole, fraction, hwhole, hfraction, htext, -⟩ :=
    fraction_pointed_unit hlow hhigh
  have hplain := is_plain_pointed negative (digits_of_whole hwhole) hfraction
  refine reads_as_word ?_ (htext ▸ hplain) (word_value_fraction hlow hhigh)
  rw [htext]
  cases negative with
  | false => exact List.append_ne_nil_of_right_ne_nil _ (List.cons_ne_nil _ _)
  | true => exact List.cons_ne_nil _ _

/-! ## Assignments -/

/-- A line of a document: a key without quotes and a value, and what it is read as. -/
structure Assignment where
  key : String
  value : String
  setting : Setting

namespace Assignment

/-- The characters of the line. -/
def chars (a : Assignment) : List Char :=
  a.key.toList ++ ' ' :: '=' :: ' ' :: (a.value.toList ++ ['\n'])

/-- The line is read as what it should be. -/
structure Proper (a : Assignment) : Prop where
  named : a.key.toList ≠ []
  bare : ∀ c ∈ a.key.toList, isBareChar c = true
  reads : ReadsAs a.value.toList a.setting

/-- What the lines leave in a table. -/
def entries (lines : List Assignment) : Entries :=
  lines.map fun a => (a.key, .value a.setting)

end Assignment

/-- A character of a key is none that may not stand in a key. -/
theorem ne_of_bare {c : Char} (h : isBareChar c = true) (other : Char)
    (hother : isBareChar other = false) :
    c ≠ other := by
  rintro rfl
  rw [h] at hother
  cases hother

/-- A key does not begin with white space, a comment or a quote. -/
theorem head_bare {c : Char} (h : isBareChar c = true) (rest : List Char) :
    skipSpace (c :: rest) = c :: rest ∧ skipTrivia false (c :: rest) = some (c :: rest) := by
  have hspace : isLineSpace c = false := by
    simp [isLineSpace, ne_of_bare h ' ' (by decide),
      ne_of_bare h '\t' (by decide)]
  constructor
  · rw [skipSpace, List.dropWhile_cons_of_neg (by simp [hspace])]
  · rw [skipTrivia]
    · simp [hspace, ne_of_bare h '#' (by decide)]
    · simp [ne_of_bare h '\r' (by decide)]
    · simp [ne_of_bare h '\n' (by decide)]

/-- A key without quotes is read up to the space behind it. -/
theorem read_key_bare {fuel : Nat} {key : String} (hne : key.toList ≠ [])
    (hbare : ∀ c ∈ key.toList, isBareChar c = true) (rest : List Char) :
    readKey (fuel + 1) (key.toList ++ ' ' :: '=' :: rest) = some ([key], '=' :: rest) := by
  have hspace : isBareChar ' ' = false := by decide
  have htake : (key.toList ++ ' ' :: '=' :: rest).takeWhile isBareChar = key.toList := by
    rw [List.takeWhile_append_of_pos hbare]
    simp [hspace]
  have hdrop : (key.toList ++ ' ' :: '=' :: rest).dropWhile isBareChar = ' ' :: '=' :: rest := by
    rw [List.dropWhile_append_of_pos hbare]
    simp [hspace]
  obtain ⟨first, more, hkey⟩ := List.exists_cons_of_ne_nil hne
  have hfirst : isBareChar first = true := hbare first (hkey ▸ List.mem_cons_self)
  have hskip : skipSpace (key.toList ++ ' ' :: '=' :: rest) = key.toList ++ ' ' :: '=' :: rest := by
    rw [hkey]
    exact (head_bare hfirst _).1
  have hpart : readKeyPart (key.toList ++ ' ' :: '=' :: rest) = some (key, ' ' :: '=' :: rest) := by
    unfold readKeyPart
    split
    · next heq =>
        rw [hkey] at heq
        exact absurd (List.cons.inj heq).1 (ne_of_bare hfirst _ (by decide))
    · next heq =>
        rw [hkey] at heq
        exact absurd (List.cons.inj heq).1 (ne_of_bare hfirst _ (by decide))
    · have hname : key.toList.isEmpty = false := List.isEmpty_eq_false_iff.mpr hne
      simp only [htake, hdrop, hname, String.ofList_toList]
      rfl
  rw [readKey, hskip, hpart]
  rfl

/-- An assignment adds its value to the table. -/
theorem read_assignment {fuel : Nat} {a : Assignment} (h : a.Proper) {root : Entries}
    (hfree : a.key ∉ root.map (·.1)) (hfuel : a.chars.length ≤ fuel) (rest : List Char) :
    readAssignment fuel ⟨root, []⟩ (a.chars ++ rest) =
      some (⟨root ++ [(a.key, .value a.setting)], []⟩, '\n' :: rest) := by
  have hchars : a.chars ++ rest =
      a.key.toList ++ ' ' :: '=' :: (' ' :: (a.value.toList ++ '\n' :: rest)) := by
    simp [Assignment.chars]
  have hlength : a.value.toList.length + 1 ≤ fuel := by
    simp only [Assignment.chars, List.length_append, List.length_cons, List.length_nil] at hfuel
    omega
  have hskip : skipSpace (' ' :: (a.value.toList ++ '\n' :: rest)) =
      a.value.toList ++ '\n' :: rest :=
    h.reads.starts _
  have hlookup : root.lookup a.key = none := by
    refine List.lookup_eq_none_iff.mpr fun entry hentry => ?_
    have hne : a.key ≠ entry.1 := fun heq => hfree (List.mem_map.mpr ⟨entry, hentry, heq.symm⟩)
    simpa using hne
  have hadd : assign [a.key] a.setting root = some (root ++ [(a.key, .value a.setting)]) := by
    show addNode a.key (.value a.setting) root = _
    rw [addNode, hlookup]
    rfl
  obtain ⟨fuel, rfl⟩ : ∃ k, fuel = k + 1 := ⟨fuel - 1, by omega⟩
  rw [readAssignment, hchars, read_key_bare h.named h.bare]
  show (readValue (fuel + 1) (skipSpace (' ' :: (a.value.toList ++ '\n' :: rest)))).bind _ = _
  rw [hskip, h.reads.read rest (by omega)]
  show (within enterHeader (assign [a.key] a.setting) [] root).bind _ = _
  rw [within, hadd]
  rfl

/-- A line break in front of a statement is skipped. -/
theorem read_statements_break (fuel : Nat) (draft : Draft) (chars : List Char) :
    readStatements fuel draft ('\n' :: chars) = readStatements fuel draft chars := by
  cases fuel with
  | zero => rfl
  | succ fuel =>
      have hskip : skipTrivia false ('\n' :: chars) = skipTrivia false chars := by
        rw [skipTrivia]
      rw [readStatements, readStatements, hskip]

/-- The first assignment of a document is read, and then the others. -/
theorem read_statements_step {fuel : Nat} {a : Assignment} (h : a.Proper) {root : Entries}
    (hfree : a.key ∉ root.map (·.1)) (hfuel : a.chars.length ≤ fuel) (rest : List Char) :
    readStatements (fuel + 1) ⟨root, []⟩ (a.chars ++ rest) =
      readStatements fuel ⟨root ++ [(a.key, .value a.setting)], []⟩ rest := by
  obtain ⟨first, more, hkey⟩ := List.exists_cons_of_ne_nil h.named
  have hfirst : isBareChar first = true := h.bare first (hkey ▸ List.mem_cons_self)
  have hread := read_assignment h hfree hfuel rest
  obtain ⟨tail, htail⟩ : ∃ tail, a.chars ++ rest = first :: tail := by
    rw [Assignment.chars, hkey]
    exact ⟨_, rfl⟩
  rw [htail] at hread ⊢
  rw [readStatements, (head_bare hfirst tail).2]
  simp only [Option.bind_eq_bind, Option.bind_some]
  split
  · next heq => exact absurd (List.cons.inj heq).1 (ne_of_bare hfirst _ (by decide))
  · rw [hread]
    show (if endsLine ('\n' :: rest) then readStatements fuel _ ('\n' :: rest) else none) = _
    have hends : endsLine ('\n' :: rest) = true := rfl
    rw [if_pos hends, read_statements_break]

/-- The assignments of a document add their values to the table. -/
theorem read_statements_assignments {fuel : Nat} {lines : List Assignment} {root : Entries}
    (hproper : ∀ a ∈ lines, a.Proper) (hnodup : (lines.map (·.key)).Nodup)
    (hfree : ∀ a ∈ lines, a.key ∉ root.map (·.1))
    (hfuel : (lines.flatMap Assignment.chars).length < fuel) :
    readStatements fuel ⟨root, []⟩ (lines.flatMap Assignment.chars) =
      some ⟨root ++ Assignment.entries lines, []⟩ := by
  induction lines generalizing fuel root with
  | nil =>
      obtain ⟨fuel, rfl⟩ : ∃ k, fuel = k + 1 := ⟨fuel - 1, by omega⟩
      rw [List.flatMap_nil, readStatements, Assignment.entries, List.map_nil, List.append_nil]
      rfl
  | cons a lines ih =>
      obtain ⟨hfirst, hrest⟩ := List.nodup_cons.mp hnodup
      have hlength : 0 < a.chars.length := by simp [Assignment.chars]
      rw [List.flatMap_cons, List.length_append] at hfuel
      obtain ⟨fuel, rfl⟩ : ∃ k, fuel = k + 1 := ⟨fuel - 1, by omega⟩
      rw [List.flatMap_cons, read_statements_step (hproper a List.mem_cons_self)
        (hfree a List.mem_cons_self) (by omega), ih
        (fun b hb => hproper b (List.mem_cons_of_mem a hb)) hrest ?_ (by omega)]
      · simp [Assignment.entries]
      · intro b hb
        rw [List.map_append, List.mem_append, not_or]
        refine ⟨hfree b (List.mem_cons_of_mem a hb), ?_⟩
        simp only [List.map_cons, List.map_nil, List.mem_singleton]
        intro heq
        exact hfirst (List.mem_map.mpr ⟨b, hb, heq⟩)

/-- The settings of values are the values. -/
theorem entry_settings_assignments (lines : List Assignment) :
    entrySettings (Assignment.entries lines) = lines.map fun a => (a.key, a.setting) := by
  induction lines with
  | nil => rfl
  | cons a lines ih =>
      show entrySettings ((a.key, .value a.setting) :: Assignment.entries lines) = _
      rw [entrySettings, ih, Node.toSetting]
      rfl

/-- A document of assignments to different keys is read as their settings. -/
theorem read_assignments {lines : List Assignment} (hproper : ∀ a ∈ lines, a.Proper)
    (hnodup : (lines.map (·.key)).Nodup) :
    read? (String.ofList (lines.flatMap Assignment.chars)) =
      some (lines.map fun a => (a.key, a.setting)) := by
  have hmark : ∀ c more, lines.flatMap Assignment.chars = c :: more → c.toNat ≠ 0xFEFF := by
    intro c more hshape
    cases lines with
    | nil => cases hshape
    | cons a lines =>
        have ha := hproper a List.mem_cons_self
        obtain ⟨first, tail, hkey⟩ := List.exists_cons_of_ne_nil ha.named
        rw [List.flatMap_cons, Assignment.chars, hkey] at hshape
        obtain ⟨rfl, -⟩ := List.cons.inj hshape
        have hne := ne_of_bare (ha.bare first (hkey ▸ List.mem_cons_self)) (Char.ofNat 0xFEFF)
          (by decide)
        intro hcode
        rw [← hcode, Char.ofNat_toNat] at hne
        exact hne rfl
  have hread : readStatements (2 * (lines.flatMap Assignment.chars).length + 2) ⟨[], []⟩
      (lines.flatMap Assignment.chars) = _ :=
    read_statements_assignments hproper hnodup (fun _ _ => List.not_mem_nil) (by omega)
  unfold read?
  rw [String.toList_ofList]
  generalize lines.flatMap Assignment.chars = chars at hmark hread
  have hsettings := entry_settings_assignments lines
  cases chars with
  | nil =>
      simp only
      rw [hread, Option.map_some, List.nil_append, hsettings]
  | cons c rest =>
      simp only [if_neg (hmark c rest rfl)]
      rw [hread, Option.map_some, List.nil_append, hsettings]

end CallProfile.Toml
