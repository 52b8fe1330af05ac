import CallProfile.Terminal

/-!
# Emphasis in help and usage

What the parts of a help page or of a usage message are, and how a terminal tells them apart.
-/

namespace CallProfile.CommandLine

/-- What a part of a message is. -/
inductive Emphasis where
  /-- The title of a section. -/
  | heading
  /-- What is typed as it stands. -/
  | literal
  /-- What stands for something else. -/
  | placeholder
  /-- The word in front of what is wrong. -/
  | error
  /-- What would be right. -/
  | valid
  /-- What is wrong. -/
  | invalid
  deriving DecidableEq, Repr

namespace Emphasis

/-- The style codes of a part. -/
def codes : Emphasis → List Nat
  | heading => [1, 32]
  | literal => [1, 36]
  | placeholder => [36]
  | error => [1, 31]
  | valid => [1, 32]
  | invalid => [1, 33]

/-- A text with the styles of its part. -/
def mark (part : Emphasis) (text : String) : String :=
  String.join (part.codes.map Terminal.code) ++ text ++ Terminal.code Terminal.reset

end Emphasis

/-- The blanks in front of the entries of a section. -/
def tab : String := "  "

/-- Marked words between quotes. -/
def quotedMark (part : Emphasis) (text : String) : String :=
  "'" ++ part.mark text ++ "'"

/-- A line that lists what could have been given. -/
def choices (title : String) (names : List String) : String :=
  "\n" ++ tab ++ "[" ++ title ++ ": " ++ ", ".intercalate (names.map Emphasis.valid.mark) ++ "]"

end CallProfile.CommandLine
