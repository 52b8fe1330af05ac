/-!
# Lines of a text

A line ends at a line feed, which a carriage return may precede. Text after the last line feed is a
line of its own if there is any, and keeps a carriage return at its end.
-/

namespace CallProfile.Text

/-- A terminated line without the carriage return before its line feed. -/
def withoutReturn (line : List Char) : List Char :=
  if line.getLast? = some '\r' then line.dropLast else line

/-- The lines among the pieces between line feeds: every piece but the last was terminated. -/
def terminated : List (List Char) → List (List Char)
  | [] => []
  | [last] => if last.isEmpty then [] else [last]
  | line :: rest => withoutReturn line :: terminated rest

/-- The lines of a sequence of characters. -/
def linesOf (chars : List Char) : List (List Char) :=
  terminated (chars.splitOnP (· == '\n'))

/-- The lines of a text, in order and without their ends. -/
def lines (text : String) : List String :=
  (linesOf text.toList).map String.ofList

end CallProfile.Text
