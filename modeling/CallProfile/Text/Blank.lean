/-!
# White space and words

White space is the Unicode property `White_Space`. A line of a log is read as its words, the maximal
runs of other characters, so the kind and amount of space around them never matters.
-/

namespace CallProfile.Text

/-- The property `White_Space`: tab to carriage return, the space, and twelve characters beyond
ASCII with the fixed and mathematical spaces among them. -/
def isBlank (c : Char) : Bool :=
  let code := c.toNat
  code == 0x20 || (9 ≤ code && code ≤ 13) || code == 0x85 || code == 0xA0 || code == 0x1680 ||
    (0x2000 ≤ code && code ≤ 0x200A) || code == 0x2028 || code == 0x2029 || code == 0x202F ||
    code == 0x205F || code == 0x3000

/-- The maximal runs of characters that are not blank, in order. -/
def wordsOf (chars : List Char) : List (List Char) :=
  (chars.splitOnP isBlank).filter (!·.isEmpty)

/-- The words of a text. -/
def words (text : String) : List String :=
  (wordsOf text.toList).map String.ofList

/-- The text without the white space at its end. -/
def trimRight (text : String) : String :=
  String.ofList (text.toList.reverse.dropWhile isBlank).reverse

/-- Whether `part` occurs in the characters as one unbroken piece. -/
def hasPart (part : List Char) : List Char → Bool
  | [] => part.isEmpty
  | c :: rest => part.isPrefixOf (c :: rest) || hasPart part rest

end CallProfile.Text
