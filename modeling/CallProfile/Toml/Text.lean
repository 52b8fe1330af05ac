import CallProfile.Json.Reader

/-!
# Texts in TOML

A text stands between double quotes, where a backslash begins an escape, or between single quotes,
where every character stands for itself. Three quotes on each side allow line breaks.
-/

namespace CallProfile.Toml

/-- Whether a character may stand in a text or comment of one line. -/
def isTextChar (c : Char) : Bool :=
  c = '\t' || (0x20 ≤ c.toNat && c.toNat ≠ 0x7F)

/-- The character of a code point, if it is one. -/
def charOf? (code : Nat) : Option Char :=
  if code < 0xD800 || (0xE000 ≤ code && code < 0x110000) then some (Char.ofNat code) else none

/-- The number of digits in base sixteen. -/
def hexNumber? (digits : List Char) : Option Nat :=
  digits.foldlM (fun n c => (Json.hexValue? c).map (n * 16 + ·)) 0

/-- The character of an escape of one letter. -/
def simpleEscape? : Char → Option Char
  | 'b' => some '\x08'
  | 't' => some '\t'
  | 'n' => some '\n'
  | 'f' => some '\x0c'
  | 'r' => some '\r'
  | 'e' => some '\x1b'
  | '"' => some '"'
  | '\\' => some '\\'
  | _ => none

/-- Put an escaped character in front of the text that follows it. -/
def withEscaped (c : Option Char) (rest : Option (List Char × List Char)) :
    Option (List Char × List Char) :=
  match c, rest with
  | some c, some (text, rest) => some (c :: text, rest)
  | _, _ => none

/-- The rest of a text up to its double quote, and what follows it. -/
def readBasic : List Char → Option (List Char × List Char)
  | [] => none
  | '"' :: rest => some ([], rest)
  | '\\' :: 'x' :: a :: b :: rest =>
    withEscaped ((hexNumber? [a, b]).bind charOf?) (readBasic rest)
  | '\\' :: 'u' :: a :: b :: c :: d :: rest =>
    withEscaped ((hexNumber? [a, b, c, d]).bind charOf?) (readBasic rest)
  | '\\' :: 'U' :: a :: b :: c :: d :: e :: f :: g :: h :: rest =>
    withEscaped ((hexNumber? [a, b, c, d, e, f, g, h]).bind charOf?) (readBasic rest)
  | '\\' :: e :: rest => withEscaped (simpleEscape? e) (readBasic rest)
  | c :: rest => if isTextChar c then Json.prepend c (readBasic rest) else none

/-- The rest of a text up to its single quote, and what follows it. -/
def readLiteral : List Char → Option (List Char × List Char)
  | [] => none
  | '\'' :: rest => some ([], rest)
  | c :: rest => if isTextChar c then Json.prepend c (readLiteral rest) else none

/-- Whether only white space stands in front of the next line break. -/
def breaksHere (chars : List Char) : Bool :=
  match chars.dropWhile (fun c => c = ' ' || c = '\t') with
  | '\n' :: _ => true
  | '\r' :: '\n' :: _ => true
  | _ => false

/-- The rest of a text up to its three double quotes, and what follows it. Up to two quotes may
stand in front of those. After a backslash at the end of a line, all white space is left out
(`skipping`). -/
def readLongBasic (skipping : Bool) : List Char → Option (List Char × List Char)
  | [] => none
  | '"' :: '"' :: '"' :: '"' :: '"' :: rest => some (['"', '"'], rest)
  | '"' :: '"' :: '"' :: '"' :: rest => some (['"'], rest)
  | '"' :: '"' :: '"' :: rest => some ([], rest)
  | '\\' :: 'x' :: a :: b :: rest =>
    withEscaped ((hexNumber? [a, b]).bind charOf?) (readLongBasic false rest)
  | '\\' :: 'u' :: a :: b :: c :: d :: rest =>
    withEscaped ((hexNumber? [a, b, c, d]).bind charOf?) (readLongBasic false rest)
  | '\\' :: 'U' :: a :: b :: c :: d :: e :: f :: g :: h :: rest =>
    withEscaped ((hexNumber? [a, b, c, d, e, f, g, h]).bind charOf?) (readLongBasic false rest)
  | '\\' :: e :: rest =>
    if breaksHere (e :: rest) then readLongBasic true rest
    else withEscaped (simpleEscape? e) (readLongBasic false rest)
  | '\r' :: '\n' :: rest =>
    if skipping then readLongBasic true rest
    else withEscaped (some '\r') (withEscaped (some '\n') (readLongBasic false rest))
  | c :: rest =>
    if skipping && (c = ' ' || c = '\t' || c = '\n') then readLongBasic true rest
    else if isTextChar c || c = '\n' then Json.prepend c (readLongBasic false rest)
    else none

/-- The rest of a text up to its three single quotes, and what follows it. Up to two quotes may
stand in front of those. -/
def readLongLiteral : List Char → Option (List Char × List Char)
  | [] => none
  | '\'' :: '\'' :: '\'' :: '\'' :: '\'' :: rest => some (['\'', '\''], rest)
  | '\'' :: '\'' :: '\'' :: '\'' :: rest => some (['\''], rest)
  | '\'' :: '\'' :: '\'' :: rest => some ([], rest)
  | '\r' :: '\n' :: rest =>
    withEscaped (some '\r') (withEscaped (some '\n') (readLongLiteral rest))
  | c :: rest =>
    if isTextChar c || c = '\n' then Json.prepend c (readLongLiteral rest) else none

/-- The characters after a line break at the beginning. -/
def withoutFirstBreak : List Char → List Char
  | '\n' :: rest => rest
  | '\r' :: '\n' :: rest => rest
  | chars => chars

/-- A text with its quotes, and what follows it. -/
def readText : List Char → Option (List Char × List Char)
  | '"' :: '"' :: '"' :: rest => readLongBasic false (withoutFirstBreak rest)
  | '"' :: rest => readBasic rest
  | '\'' :: '\'' :: '\'' :: rest => readLongLiteral (withoutFirstBreak rest)
  | '\'' :: rest => readLiteral rest
  | _ => none

end CallProfile.Toml
