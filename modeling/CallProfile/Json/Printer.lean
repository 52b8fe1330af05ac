import CallProfile.Json.Basic

/-!
# Printing JSON

A value is printed on one line, or with a line for each item and two spaces of indentation. An empty
array or object takes no lines of its own.
-/

namespace CallProfile.Json

/-- How a value is laid out: on one line, or over lines with a depth of indentation. -/
inductive Layout where
  | line
  | lines (depth : Nat)

/-- The layout of the items of a value. -/
def Layout.deeper : Layout → Layout
  | line => line
  | lines depth => lines (depth + 1)

/-- What stands in front of an item. -/
def Layout.start : Layout → List Char
  | line => []
  | lines depth => '\n' :: List.replicate (2 * depth) ' '

/-- What stands between a key and its value. -/
def Layout.colon : Layout → List Char
  | line => [':']
  | lines _ => [':', ' ']

/-- The digit of a number below sixteen, in lower case. -/
def hexDigit (n : Nat) : Char :=
  Nat.digitChar n

/-- How a character stands inside the quotes. Only quotes, backslashes and controls are escaped. -/
def escaped (c : Char) : List Char :=
  if c = '"' then ['\\', '"']
  else if c = '\\' then ['\\', '\\']
  else if c = '\x08' then ['\\', 'b']
  else if c = '\t' then ['\\', 't']
  else if c = '\n' then ['\\', 'n']
  else if c = '\x0c' then ['\\', 'f']
  else if c = '\r' then ['\\', 'r']
  else if c.toNat < 0x20 then
    ['\\', 'u', '0', '0', hexDigit (c.toNat / 16), hexDigit (c.toNat % 16)]
  else [c]

/-- A text between quotes. -/
def quotedChars (text : String) : List Char :=
  '"' :: text.toList.flatMap escaped ++ ['"']

mutual

/-- The characters of a value. -/
def chars (layout : Layout) : Json → List Char
  | null => ['n', 'u', 'l', 'l']
  | bool true => ['t', 'r', 'u', 'e']
  | bool false => ['f', 'a', 'l', 's', 'e']
  | number literal => literal.toList
  | string text => quotedChars text
  | array [] => ['[', ']']
  | array (first :: rest) =>
    '[' :: layout.deeper.start ++ chars layout.deeper first ++ laterItems layout.deeper rest ++
      layout.start ++ [']']
  | object [] => ['\x7b', '\x7d']
  | object ((key, value) :: rest) =>
    '\x7b' :: layout.deeper.start ++ quotedChars key ++ layout.colon ++
      chars layout.deeper value ++ laterFields layout.deeper rest ++ layout.start ++ ['\x7d']

/-- The items after the first one. -/
def laterItems (layout : Layout) : List Json → List Char
  | [] => []
  | item :: rest => ',' :: layout.start ++ chars layout item ++ laterItems layout rest

/-- The fields after the first one. -/
def laterFields (layout : Layout) : List (String × Json) → List Char
  | [] => []
  | (key, value) :: rest =>
    ',' :: layout.start ++ quotedChars key ++ layout.colon ++ chars layout value ++
      laterFields layout rest

end

/-- The value on one line. -/
def compact (value : Json) : String :=
  String.ofList (chars .line value)

/-- The value over indented lines. -/
def pretty (value : Json) : String :=
  String.ofList (chars (.lines 0) value)

end CallProfile.Json
