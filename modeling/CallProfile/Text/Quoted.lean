import CallProfile.Text.Unprintable

/-!
# Quoted text

How a message shows a value that may hold anything: between double quotes, with the usual escapes,
and with a code point in braces for every character that would not be seen.
-/

namespace CallProfile.Text

/-- The digits of a number in base sixteen, in lower case and without padding. -/
def lowerHex (n : Nat) : List Char :=
  Nat.toDigits 16 n

/-- How one character stands inside the quotes. -/
def quoteChar (c : Char) : List Char :=
  if c = '"' then ['\\', '"']
  else if c = '\\' then ['\\', '\\']
  else if c = '\n' then ['\\', 'n']
  else if c = '\r' then ['\\', 'r']
  else if c = '\t' then ['\\', 't']
  else if c.toNat = 0 then ['\\', '0']
  else if c.toNat < 0x20 || (0x7F ≤ c.toNat && unprintable.contains c) then
    ['\\', 'u', '\x7b'] ++ lowerHex c.toNat ++ ['\x7d']
  else [c]

/-- A text between double quotes. -/
def quoted (text : String) : String :=
  String.ofList ('"' :: text.toList.flatMap quoteChar ++ ['"'])

end CallProfile.Text
