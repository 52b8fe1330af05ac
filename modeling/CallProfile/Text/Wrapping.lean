/-!
# Wrapped text

Lines that are too long are broken between words. A continued line keeps the indentation of the line
it continues, and a word that is longer than a line stays whole.
-/

namespace CallProfile.Text.Wrapping

/-- The characters without the spaces at their end. -/
def withoutSpaces (chars : List Char) : List Char :=
  (chars.reverse.dropWhile (· == ' ')).reverse

/-- The words of a line, each with the spaces behind it. Spaces at the front are a word of their
own. -/
def words : List Char → List (List Char)
  | [] => []
  | [c] => [[c]]
  | c :: d :: rest =>
    match words (d :: rest) with
    | word :: others =>
      if c == ' ' && d != ' ' then [c] :: word :: others else (c :: word) :: others
    | [] => [[c]]

/-- The lines of words behind a begun line, of which none is longer than the limit unless it is a
single word. -/
def breakWords (limit : Nat) (indent : List Char) : List Char → List (List Char) → List (List Char)
  | line, [] => [line]
  | line, word :: rest =>
    if limit < line.length + (withoutSpaces word).length then
      withoutSpaces line :: breakWords limit indent (indent ++ word) rest
    else breakWords limit indent (line ++ word) rest

/-- The lines that a line is broken into. -/
def breakLine (limit : Nat) (line : List Char) : List (List Char) :=
  match words line with
  | [] => [[]]
  | first :: rest => breakWords limit (line.takeWhile (· == ' ')) first rest

/-- The lines of a text, broken where they are too long. -/
def wrappedLines (limit : Nat) (text : String) : List String :=
  ((text.toList.splitOnP (· == '\n')).flatMap (breakLine limit)).map String.ofList

/-- The text with lines broken where they are too long, and with an indentation in front of all
lines but the first. -/
def wrapped (limit : Nat) (indent text : String) : String :=
  ("\n" ++ indent).intercalate (wrappedLines limit text)

end CallProfile.Text.Wrapping
