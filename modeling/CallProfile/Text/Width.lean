import CallProfile.Text.Width.Classes

/-!
# Display width

The number of terminal columns a text takes. Most texts are as wide as their characters together;
emoji sequences and the ligatures of some scripts are narrower than their parts. A text is read from
its end, because what a character contributes depends on what follows it.
-/

namespace CallProfile.Text.Width

/-- The right part of a ligature whose left part has not been seen yet. -/
inductive Ligature where
  | arabicAlef
  | hebrewLamed
  | khmerLetter
  | bugineseYa
  | bugineseVowelYa
  | tifinaghConsonant
  | tifinaghJoiner
  | lisuTone
  | orkhonI
  | kiratRaiVowel
  deriving DecidableEq

/-- A variation selector. -/
inductive Selector where
  | textStyle
  | emojiStyle
  deriving DecidableEq

/-- What stands to the right of the next character, as far as it matters for the width. -/
inductive Follower where
  | plain
  | lineFeed
  | selector (s : Selector)
  | emojiModifier
  | regional
  | severalRegional
  | emoji
  /-- A joiner and an emoji, with a selector in front or not. -/
  | joinedEmoji (styled : Bool)
  /-- A keycap before a joiner and an emoji. -/
  | joinedKeycap (styled : Bool)
  | joinedRegional
  | joinedRegionalEven
  | joinedRegionalOdd
  /-- The right part of a ligature, with a joiner or a selector between or not. -/
  | ligature (part : Ligature) (joined : Bool) (style : Option Selector)
  deriving DecidableEq

/-- Whether the character is one half of a flag. -/
def isRegional (c : Char) : Bool :=
  0x1F1E6 ≤ c.toNat && c.toNat ≤ 0x1F1FF

/-- Whether the character is a skin tone. -/
def isSkinTone (c : Char) : Bool :=
  0x1F3FB ≤ c.toNat && c.toNat ≤ 0x1F3FF

/-- Whether the character is a Tifinagh consonant. -/
def isTifinagh (c : Char) : Bool :=
  (0x2D31 ≤ c.toNat && c.toNat ≤ 0x2D65) || c.toNat == 0x2D6F

/-- The Khmer letters that a coeng sign stacks below the letter before. -/
def isKhmerStacked (c : Char) : Bool :=
  let n := c.toNat
  (0x1780 ≤ n && n ≤ 0x1782) || (0x1784 ≤ n && n ≤ 0x1787) || (0x1789 ≤ n && n ≤ 0x178C) ||
    (0x178E ≤ n && n ≤ 0x1793) || (0x1795 ≤ n && n ≤ 0x1798) || (0x179B ≤ n && n ≤ 0x179D) ||
    n == 0x17A0 || n == 0x17A2 || n == 0x17A7 || n == 0x17AB || n == 0x17AC || n == 0x17AF

/-- The Arabic letters whose joining group is Alef. -/
def isAlef (c : Char) : Bool :=
  let n := c.toNat
  n == 0x622 || n == 0x623 || n == 0x625 || n == 0x627 || (0x671 ≤ n && n ≤ 0x673) || n == 0x675 ||
    n == 0x773 || n == 0x774 || (0x870 ≤ n && n ≤ 0x882)

/-- The Arabic letters whose joining group is Lam. -/
def isLam (c : Char) : Bool :=
  let n := c.toNat
  n == 0x644 || (0x6B5 ≤ n && n ≤ 0x6B8) || n == 0x76A || n == 0x8A6 || n == 0x8C7

/-- The width of a character by itself. -/
def charColumns (c : Char) : Nat :=
  let n := c.toNat
  if n ≤ 0xA0 then 1
  else if n == 0x17A4 then 2
  else if n == 0x17D8 then 3
  else if zeroWidth.contains c then 0
  else if wide.contains c then 2
  else 1

/-- What a character is to the one before it when nothing to its right matters. -/
def asFollower (c : Char) : Follower :=
  let n := c.toNat
  if n == 0x0A then .lineFeed
  else if n ≤ 0xA0 then .plain
  else if n == 0xFE0E then .selector .textStyle
  else if n == 0xFE0F then .selector .emojiStyle
  else if isRegional c then .regional
  else if isSkinTone c then .emojiModifier
  else if n == 0x5DC then .ligature .hebrewLamed false none
  else if isAlef c then .ligature .arabicAlef false none
  else if isKhmerStacked c then .ligature .khmerLetter false none
  else if n == 0x1A10 then .ligature .bugineseYa false none
  else if isTifinagh c then .ligature .tifinaghConsonant false none
  else if n == 0xA4FC || n == 0xA4FD then .ligature .lisuTone false none
  else if n == 0x10C03 then .ligature .orkhonI false none
  else if n == 0x16D67 then .ligature .kiratRaiVowel false none
  else if emojiPresentation.contains c then .emoji
  else .plain

/-- What follows once a variation selector is read in front of it. -/
def Follower.withSelector (s : Selector) : Follower → Follower
  | .ligature part joined _ => .ligature part joined (some s)
  | .joinedEmoji styled => if s = .emojiStyle then .joinedEmoji true
    else if styled then .joinedEmoji true else .selector s
  | .joinedKeycap styled => if s = .emojiStyle then .joinedKeycap true
    else if styled then .joinedKeycap true else .selector s
  | _ => .selector s

/-- The selector read last, if the next character is under one. -/
def Follower.selector? : Follower → Option Selector
  | .selector s => some s
  | .joinedEmoji true | .joinedKeycap true => some .emojiStyle
  | .ligature _ _ style => style
  | _ => none

/-- What follows when the selector in front of it selects nothing. -/
def Follower.withoutSelector : Follower → Follower
  | .ligature part joined _ => .ligature part joined none
  | .selector _ | .joinedEmoji true | .joinedKeycap true => .plain
  | other => other

/-- How a character joins the ligature that follows it: the change of the width and the new
follower, or nothing if the two do not form one. -/
def joinLigature (c : Char) (joined : Bool) : Ligature → Option (Int × Follower)
  | .arabicAlef =>
    if isLam c then some (0, .plain)
    else if joiningTransparent.contains c then some (0, .ligature .arabicAlef false none)
    else none
  | .hebrewLamed => if joined && c.toNat == 0x5D0 then some (0, .plain) else none
  | .khmerLetter => if c.toNat == 0x17D2 then some (-1, .plain) else none
  | .bugineseYa =>
    if joined && c.toNat == 0x1A17 then some (0, .ligature .bugineseVowelYa false none) else none
  | .bugineseVowelYa => if c.toNat == 0x1A15 then some (0, .plain) else none
  | .tifinaghConsonant =>
    if c.toNat == 0x2D7F then some (1, .ligature .tifinaghJoiner false none)
    else if joined && isTifinagh c then some (0, .plain)
    else none
  | .tifinaghJoiner => if isTifinagh c then some (-1, .plain) else none
  | .lisuTone => if 0xA4F8 ≤ c.toNat && c.toNat ≤ 0xA4FB then some (0, .plain) else none
  | .orkhonI => if joined && c.toNat == 0x10C32 then some (0, .plain) else none
  | .kiratRaiVowel =>
    if c.toNat == 0x16D63 || c.toNat == 0x16D67 then some (0, .plain) else none

/-- How a character joins the emoji sequence that follows it. -/
def joinEmoji (c : Char) : Follower → Option (Int × Follower)
  | .emojiModifier =>
    if emojiModifierBase.contains c then some (0, .emoji)
    else if c.toNat == 0x200D then some (0, .joinedEmoji false)
    else none
  | .regional => if isRegional c then some (1, .severalRegional) else none
  | .severalRegional =>
    if isRegional c then some (1, .severalRegional)
    else if c.toNat == 0x200D then some (0, .joinedEmoji false)
    else none
  | .emoji => if c.toNat == 0x200D then some (0, .joinedEmoji false) else none
  | .joinedEmoji _ =>
    if c.toNat == 0x20E3 then some (0, .joinedKeycap false)
    else if isRegional c then some (1, .joinedRegional)
    else if isSkinTone c then some (0, .emojiModifier)
    else if emojiPresentation.contains c then some (0, .emoji)
    else none
  | .joinedRegional | .joinedRegionalOdd =>
    if isRegional c then some (-1, .joinedRegionalEven) else none
  | .joinedRegionalEven =>
    if isRegional c then some (3, .joinedRegionalOdd)
    else if c.toNat == 0x200D then some (0, .joinedEmoji false)
    else none
  | _ => none

/-- What a character beyond ASCII adds to the width when no selector applies to it. -/
def wideStep (c : Char) (follower : Follower) : Int × Follower :=
  let alone := ((charColumns c : Int), asFollower c)
  match follower with
  | .ligature part joined style =>
    if c.toNat == 0x200D then (0, .ligature part true style)
    else if ignorableMark.contains c then (0, follower)
    else (joinLigature c joined part).getD alone
  | _ => (joinEmoji c follower).getD alone

/-- What a character adds to the width in front of what follows it. -/
def step (c : Char) (follower : Follower) : Int × Follower :=
  if follower.selector? = some .emojiStyle && emojiStyled.contains c then
    match follower with
    | .joinedEmoji _ | .joinedKeycap _ => (0, .emoji)
    | _ => (2, .emoji)
  else
    let follower :=
      if follower.selector? = some .emojiStyle then follower.withoutSelector else follower
    if c.toNat ≤ 0xA0 then
      if c = '\n' then (1, .lineFeed)
      else if c = '\r' && follower = .lineFeed then (0, .plain)
      else (1, .plain)
    else if follower = .plain then ((charColumns c : Int), asFollower c)
    else if c.toNat == 0xFE0F then (0, follower.withSelector .emojiStyle)
    else if c.toNat == 0xFE0E then (0, follower.withSelector .textStyle)
    else if follower.selector? = some .textStyle then
      if textStyled.contains c then (1, .plain) else wideStep c follower.withoutSelector
    else wideStep c follower

/-- The number of columns of a sequence of characters, and what its first one is to the text
before. -/
def columnsFrom (chars : List Char) : Int × Follower :=
  chars.foldr (fun c (width, follower) =>
    let (added, next) := step c follower
    (width + added, next)) (0, .plain)

/-- The number of columns of a text. -/
def columns (text : String) : Nat :=
  (columnsFrom text.toList).1.toNat

end CallProfile.Text.Width
