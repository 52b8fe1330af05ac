import CallProfile.Record.Line
import CallProfile.Proofs.Number.Natural
import CallProfile.Proofs.Text.Words
import Mathlib.Data.String.Basic

/-!
# The grammar of lines

What a line may say, without a reader. The words after the event are a sequence of entries
(`Entries`); `Denotes` says which record a line of the grammar stands for, and `FirstFault` what is
wrong with any other line that has words: the leftmost word it needs is missing or is not a number.
-/

namespace CallProfile.Record

/-- The word is a decimal number of 64 bits. -/
def IsNumber (word : String) (n : Nat) : Prop :=
  Number.IsDecimal (2 ^ 64) word.toList n

/-- The word is a bracketed key: it begins with `[`, ends with `]` and is longer than two bytes. -/
def IsKey (word : String) : Prop :=
  word.toList.head? = some '[' ∧ word.toList.getLast? = some ']' ∧ 2 < word.utf8ByteSize

/-- One entry of a line after its event. -/
inductive Entry where
  | duration (ns : Nat)
  | method (name : String)
  | table (id : String)
  | tables (ids : List String)
  | free (word : String)

/-- The words decompose from left to right into the entries. The tables of `[ids]` run up to the
next key, and every word that is no key of an entry stands for itself. -/
inductive Entries : List String → List Entry → Prop where
  | nil : Entries [] []
  | duration (value : String) (ns : Nat) (rest : List String) (entries : List Entry) :
      IsNumber value ns → Entries rest entries →
      Entries ("[dur]" :: value :: rest) (.duration ns :: entries)
  | method (name : String) (rest : List String) (entries : List Entry) :
      Entries rest entries → Entries ("[method]" :: name :: rest) (.method name :: entries)
  | table (id : String) (rest : List String) (entries : List Entry) :
      Entries rest entries → Entries ("[id]" :: id :: rest) (.table id :: entries)
  | tables (ids rest : List String) (entries : List Entry) :
      (∀ id ∈ ids, ¬ IsKey id) → (∀ word ∈ rest.head?, IsKey word) → Entries rest entries →
      Entries ("[ids]" :: ids ++ rest) (.tables ids :: entries)
  | free (word : String) (rest : List String) (entries : List Entry) :
      word ∉ ["[dur]", "[method]", "[id]", "[ids]"] → Entries rest entries →
      Entries (word :: rest) (.free word :: entries)

/-- The duration of an entry that gives one. -/
def Entry.duration? : Entry → Option Nat
  | .duration ns => some ns
  | _ => none

/-- The method of an entry that gives one. -/
def Entry.method? : Entry → Option String
  | .method name => some name
  | _ => none

/-- The tables that an entry names. -/
def Entry.tableIds : Entry → List String
  | .table id => [id]
  | .tables ids => ids
  | _ => []

/-- The words of a line of the grammar stand for the record. The last duration and the last method
count, and all tables in their order. -/
inductive Denotes (words : List String) (r : Record) : Prop where
  | intro (time thread separator : String) (rest : List String) (entries : List Entry) :
      words = time :: thread :: separator :: r.event :: rest →
      IsNumber time r.timestampNs → IsNumber thread r.threadId → Entries rest entries →
      r.durationNs = (entries.filterMap Entry.duration?).getLast? →
      r.method = (entries.filterMap Entry.method?).getLast? →
      r.tableIds = entries.flatMap Entry.tableIds → Denotes words r

/-- The word that a line needs next, for the part with this name, is missing or, where it must be a
number, is none. The words are those from where it should stand. -/
inductive Lacks (name : String) (numeric : Bool) : List String → LineError → Prop where
  | missing (field : LineField) :
      field.name = name → Lacks name numeric [] (.missing field)
  | invalid (field : LineField) (word : String) (rest : List String) :
      field.name = name → numeric = true → (∀ n, ¬ IsNumber word n) →
      Lacks name numeric (word :: rest) (.invalid field word)

/-- The keys that need a value, with the name of the value and whether it must be a number. -/
def valueKeys : List (String × String × Bool) :=
  [("[dur]", "duration", true), ("[method]", "method", false), ("[id]", "table id", false)]

/-- The words decompose into entries up to a key that lacks its value. -/
inductive ValueFault : List String → LineError → Prop where
  | intro (before : List String) (entries : List Entry) (key name : String) (numeric : Bool)
      (rest : List String) (e : LineError) :
      Entries before entries → (key, name, numeric) ∈ valueKeys → Lacks name numeric rest e →
      ValueFault (before ++ key :: rest) e

/-- The leftmost word that the line needs and lacks, and how it lacks it. -/
inductive FirstFault : List String → LineError → Prop where
  | timestamp (words : List String) (e : LineError) :
      words ≠ [] → Lacks "timestamp" true words e → FirstFault words e
  | thread (time : String) (timestampNs : Nat) (rest : List String) (e : LineError) :
      IsNumber time timestampNs → Lacks "thread id" true rest e → FirstFault (time :: rest) e
  | separator (time thread : String) (timestampNs threadId : Nat) (rest : List String)
      (e : LineError) :
      IsNumber time timestampNs → IsNumber thread threadId → Lacks "separator" false rest e →
      FirstFault (time :: thread :: rest) e
  | event (time thread separator : String) (timestampNs threadId : Nat) (rest : List String)
      (e : LineError) :
      IsNumber time timestampNs → IsNumber thread threadId → Lacks "event" false rest e →
      FirstFault (time :: thread :: separator :: rest) e
  | value (time thread separator event : String) (timestampNs threadId : Nat) (rest : List String)
      (e : LineError) :
      IsNumber time timestampNs → IsNumber thread threadId → ValueFault rest e →
      FirstFault (time :: thread :: separator :: event :: rest) e

/-! ## Words -/

/-- A number is read exactly from its decimal forms. -/
theorem read_number_eq_ok_iff {field : LineField} {word : String} {n : Nat} :
    readNumber field word = .ok n ↔ IsNumber word n := by
  rw [IsNumber, show (2 : Nat) ^ 64 = Number.limit64 from rfl, ← Number.read_natural_eq_some_iff]
  unfold readNumber
  split
  · next m hread => simp [hread]
  · next hread => simp [hread]

/-- A word that is no number is refused with its value. -/
theorem read_number_eq_error {field : LineField} {word : String} (h : ∀ n, ¬ IsNumber word n) :
    readNumber field word = .error (.invalid field word) := by
  cases hread : readNumber field word with
  | ok n => exact absurd (read_number_eq_ok_iff.mp hread) (h n)
  | error e =>
      unfold readNumber at hread
      split at hread
      · cases hread
      · exact hread.symm ▸ rfl

/-- Brackets around at least one character make a key: the brackets are one byte each, so a third
byte is a third character. -/
theorem is_bracketed_iff {word : String} : isBracketed word = true ↔ IsKey word := by
  have hsize : word.utf8ByteSize = String.utf8Len word.toList := by
    rw [← String.utf8ByteSize_ofList, String.ofList_toList]
  rw [isBracketed, IsKey, hsize]
  rcases word.toList with _ | ⟨first, _ | ⟨second, _ | ⟨third, rest⟩⟩⟩
  · simp
  · by_cases hfirst : first = '['
    · simp [hfirst]
    · simp [hfirst]
  · by_cases hfirst : first = '['
    · subst hfirst
      have hshort : second = ']' → ¬ 2 < String.utf8Len ['[', second] := by
        rintro rfl
        decide
      simpa using hshort
    · simp [hfirst]
  · have hlong : 2 < String.utf8Len (first :: second :: third :: rest) := by
      have h1 := Char.utf8Size_pos first
      have h2 := Char.utf8Size_pos second
      have h3 := Char.utf8Size_pos third
      simp only [String.utf8Len_cons]
      omega
    by_cases hfirst : first = '['
    · subst hfirst
      simp [hlong, -String.utf8Len_cons]
    · simp [hfirst]

end CallProfile.Record
