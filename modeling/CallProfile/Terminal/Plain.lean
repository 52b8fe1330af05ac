/-!
# Text without escape sequences

Where a terminal is not wanted, escape sequences are taken out of a text together with all controls
that are not white space. A sequence ends where its grammar lets it end, and one that is cut short
takes the rest of the text with it.
-/

namespace CallProfile.Terminal

/-- Where in an escape sequence a text stands. -/
inductive EscapeState where
  /-- Outside of any sequence. -/
  | text
  /-- After the escape character. -/
  | begun
  /-- After a character that asks for one more. -/
  | intermediate
  /-- Among the parameters of a control sequence. -/
  | control
  /-- In a command to the system of the terminal, which a bell ends. -/
  | command
  /-- In a string for a device, which only another control ends. -/
  | device
  deriving DecidableEq, Repr

/-- The controls that are kept as white space. -/
def isKeptControl (c : Char) : Bool :=
  c = '\t' || c = '\n' || c = '\x0c' || c = '\r'

/-- Whether one of the bytes of the character ends a string for a device. -/
def endsDevice (c : Char) : Bool :=
  (String.singleton c).toUTF8.toList.contains 0x9C

/-- What follows the escape character. -/
def EscapeState.afterEscape (c : Char) : EscapeState :=
  let n := c.toNat
  if c = '[' then .control
  else if c = ']' then .command
  else if c = 'P' || c = 'X' || c = '^' || c = '_' then .device
  else if 0x20 ≤ n && n < 0x30 then .intermediate
  else if 0x30 ≤ n && n < 0x7F then .text
  else .begun

/-- Read one character: whether it is shown, and where the text stands after it. -/
def EscapeState.step (state : EscapeState) (c : Char) : Bool × EscapeState :=
  let n := c.toNat
  if n = 0x1B then (false, .begun)
  else if n = 0x18 || n = 0x1A then (false, .text)
  else
    match state with
    | text => ((0x20 ≤ n && n ≠ 0x7F) || isKeptControl c, .text)
    | begun => if isKeptControl c then (true, .text) else (false, .afterEscape c)
    | intermediate =>
      if isKeptControl c then (true, .text)
      else (false, if 0x30 ≤ n && n < 0x7F then .text else .intermediate)
    | control =>
      if isKeptControl c then (true, .text)
      else (false, if 0x40 ≤ n && n < 0x7F then .text else .control)
    | command => (false, if n = 7 then .text else .command)
    | device => (false, if endsDevice c then .text else .device)

/-- The characters that are shown, from a state on. -/
def shown (state : EscapeState) : List Char → List Char
  | [] => []
  | c :: rest =>
    let (isShown, next) := state.step c
    if isShown then c :: shown next rest else shown next rest

/-- The text without escape sequences. -/
def plain (text : String) : String :=
  String.ofList (shown .text text.toList)

end CallProfile.Terminal
