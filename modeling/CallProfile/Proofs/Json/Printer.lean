import CallProfile.Json.Printer
import CallProfile.Proofs.Json.Reader

/-!
# Printed values

What the printer writes is a document of the grammar, in either layout, and of no value but the
printed one (`document_pretty_iff`). The reader gives the value back (`read_pretty`).
-/

namespace CallProfile.Json

/-! ## Texts -/

/-- The digit of a number is the one of the grammar. -/
theorem hex_digit_mem {n : Nat} (h : n < 16) : (hexDigit n, n) ∈ hexDigits := by
  have hall : ∀ n < 16, (hexDigit n, n) ∈ hexDigits := by decide
  exact hall n h

/-- A character below 256 is spelled by the two digits of its number. -/
theorem hex_unit_of_small {n : Nat} (h : n < 256) :
    HexUnit ['0', '0', hexDigit (n / 16), hexDigit (n % 16)] n := by
  have hunit := HexUnit.intro '0' '0' (hexDigit (n / 16)) (hexDigit (n % 16)) 0 0 (n / 16) (n % 16)
    (by decide) (by decide) (hex_digit_mem (by omega)) (hex_digit_mem (by omega))
  have hvalue : 0 * 4096 + 0 * 256 + n / 16 * 16 + n % 16 = n := by omega
  rwa [hvalue] at hunit

/-- A character as it is printed spells itself in front of a text. -/
theorem spells_escaped (c : Char) {text chars : List Char} (h : SpellsText text chars) :
    SpellsText (c :: text) (escaped c ++ chars) := by
  unfold escaped
  split_ifs with hquote hslash hback htab hline hfeed hreturn hcontrol
  · subst hquote
    exact .letter '"' '"' text chars (by decide) h
  · subst hslash
    exact .letter '\\' '\\' text chars (by decide) h
  · subst hback
    exact .letter 'b' '\x08' text chars (by decide) h
  · subst htab
    exact .letter 't' '\t' text chars (by decide) h
  · subst hline
    exact .letter 'n' '\n' text chars (by decide) h
  · subst hfeed
    exact .letter 'f' '\x0c' text chars (by decide) h
  · subst hreturn
    exact .letter 'r' '\r' text chars (by decide) h
  · exact .unit c _ text chars (hex_unit_of_small (by omega)) h
  · exact .plain c text chars (by omega) hquote hslash h

/-- The characters of a text, each as it is printed, spell the text. -/
theorem spells_text_escaped (text : List Char) : SpellsText text (text.flatMap escaped) := by
  induction text with
  | nil => exact .nil
  | cons c text ih => exact spells_escaped c ih

/-- A text as it is printed spells the text. -/
theorem spells_string_quoted (text : String) : SpellsString text (quotedChars text) :=
  .intro text _ (spells_text_escaped text.toList)

/-! ## Layout -/

/-- What stands in front of an item is white space. -/
theorem Layout.gap_start (layout : Layout) : Gap layout.start := by
  intro c hc
  cases layout with
  | line => simp [Layout.start] at hc
  | lines depth =>
      simp only [Layout.start, List.mem_cons, List.mem_replicate] at hc
      rcases hc with rfl | ⟨-, rfl⟩
      · decide
      · decide

/-- Between a key and its value stands a colon, then white space. -/
theorem Layout.colon_eq (layout : Layout) :
    ∃ ahead, layout.colon = ':' :: ahead ∧ Gap ahead := by
  cases layout with
  | line => exact ⟨[], rfl, by simp [Gap]⟩
  | lines depth => exact ⟨[' '], rfl, by simp [Gap]⟩

/-- Fields at any depth have the same colon. -/
theorem Layout.colon_deeper (layout : Layout) : layout.deeper.colon = layout.colon := by
  cases layout with
  | line => rfl
  | lines depth => rfl

/-! ## Values -/

/-- Every number of the value is a literal of the grammar. -/
inductive NumbersSpelled : Json → Prop where
  | null : NumbersSpelled .null
  | bool (value : Bool) : NumbersSpelled (.bool value)
  | number (literal : String) : Literal literal.toList → NumbersSpelled (.number literal)
  | string (text : String) : NumbersSpelled (.string text)
  | array (items : List Json) :
      (∀ item ∈ items, NumbersSpelled item) → NumbersSpelled (.array items)
  | object (fields : List (String × Json)) :
      (∀ field ∈ fields, NumbersSpelled field.2) → NumbersSpelled (.object fields)

/-- No white space. -/
theorem gap_nil : Gap [] := by
  simp [Gap]

/-- Printed items spell the items, up to the white space before the closing bracket. -/
theorem spells_printed_items (layout : Layout) {items : List Json}
    (hitems : ∀ item ∈ items, Spells item (chars layout item)) {after : List Char}
    (hafter : Gap after) {first : Json} (hfirst : Spells first (chars layout first)) :
    SpellsItems (first :: items)
      (layout.start ++ chars layout first ++ (laterItems layout items ++ after)) := by
  induction items generalizing first with
  | nil => exact .last layout.start first _ after layout.gap_start hfirst hafter
  | cons item items ih =>
      have hrest := ih (fun item hitem => hitems item (List.mem_cons_of_mem _ hitem))
        (hitems item List.mem_cons_self)
      have hall :=
        SpellsItems.more layout.start first _ [] _ _ layout.gap_start hfirst gap_nil hrest
      simpa [laterItems] using hall

/-- A printed field spells the field. -/
theorem spells_printed_field {layout : Layout} (field : String × Json)
    (h : Spells field.2 (chars layout field.2)) {after : List Char} (hafter : Gap after) :
    SpellsField field (layout.start ++ quotedChars field.1 ++ layout.colon ++
      chars layout field.2 ++ after) := by
  obtain ⟨ahead, hcolon, hahead⟩ := layout.colon_eq
  have hall := SpellsField.intro layout.start field.1 _ [] ahead field.2 _ after layout.gap_start
    (spells_string_quoted field.1) gap_nil hahead h hafter
  simpa [hcolon] using hall

/-- Printed fields spell the fields, up to the white space before the closing brace. -/
theorem spells_printed_fields (layout : Layout) {fields : List (String × Json)}
    (hfields : ∀ field ∈ fields, Spells field.2 (chars layout field.2)) {after : List Char}
    (hafter : Gap after) (first : String × Json) (hfirst : Spells first.2 (chars layout first.2)) :
    SpellsFields (first :: fields)
      (layout.start ++ quotedChars first.1 ++ layout.colon ++ chars layout first.2 ++
        (laterFields layout fields ++ after)) := by
  induction fields generalizing first with
  | nil => exact .last first _ (spells_printed_field first hfirst hafter)
  | cons field fields ih =>
      have hrest := ih (fun field hfield => hfields field (List.mem_cons_of_mem _ hfield)) field
        (hfields field List.mem_cons_self)
      have hall := SpellsFields.more first _ _ _ (spells_printed_field first hfirst gap_nil) hrest
      simpa [laterFields] using hall

/-- A value as it is printed spells the value. -/
theorem spells_chars {value : Json} (h : NumbersSpelled value) (layout : Layout) :
    Spells value (chars layout value) := by
  induction h generalizing layout with
  | null => exact .null
  | bool value =>
      cases value with
      | false => exact .false
      | true => exact .true
  | number literal hliteral => exact .number literal hliteral
  | string text => exact .string text _ (spells_string_quoted text)
  | array items hitems ih =>
      cases items with
      | nil => exact .emptyArray [] gap_nil
      | cons first items =>
          have hall := Spells.array _ _ (spells_printed_items layout.deeper
            (fun item hitem => ih item (List.mem_cons_of_mem _ hitem) layout.deeper)
            layout.gap_start (ih first List.mem_cons_self layout.deeper))
          simpa [chars] using hall
  | object fields hfields ih =>
      cases fields with
      | nil => exact .emptyObject [] gap_nil
      | cons field fields =>
          obtain ⟨key, value⟩ := field
          have hall := Spells.object _ _ (spells_printed_fields layout.deeper
            (fun field hfield => ih field (List.mem_cons_of_mem _ hfield) layout.deeper)
            layout.gap_start (key, value) (ih (key, value) List.mem_cons_self layout.deeper))
          simpa [chars, layout.colon_deeper] using hall

/-! ## Documents -/

/-- A value over indented lines is a document of the value. -/
theorem document_pretty {value : Json} (h : NumbersSpelled value) :
    Document (pretty value) value :=
  .intro [] (chars (.lines 0) value) [] gap_nil (spells_chars h _) gap_nil (by simp [pretty])

/-- A value over indented lines is the document of no other value. -/
theorem document_pretty_iff {value other : Json} (h : NumbersSpelled value) :
    Document (pretty value) other ↔ other = value := by
  constructor
  · exact document_unique (document_pretty h)
  · rintro rfl
    exact document_pretty h

/-- A value over indented lines is read as the value. -/
theorem read_pretty {value : Json} (h : NumbersSpelled value) :
    read? (pretty value) = some value :=
  read_of_document (document_pretty h)

end CallProfile.Json
