/-!
# Terminal styles

Text for a terminal carries its styles as escape sequences. A style begins with its code and ends
with the code that takes it back, or with the reset of everything.
-/

namespace CallProfile.Terminal

/-- The escape sequence of a style code. -/
def code (n : Nat) : String :=
  "\x1b[" ++ toString n ++ "m"

/-- The code that resets everything. -/
def reset : Nat := 0

/-- Bold text, with a reset behind it. -/
def bold (text : String) : String :=
  code 1 ++ text ++ code reset

/-- Yellow text, with a reset behind it. -/
def yellow (text : String) : String :=
  code 33 ++ text ++ code reset

/-- Dim text, with a reset behind it. -/
def dim (text : String) : String :=
  code 2 ++ text ++ code reset

/-- Red text inside other styles. -/
def redSpan (text : String) : String :=
  code 31 ++ text ++ code 39

/-- Bold text inside other styles. -/
def boldSpan (text : String) : String :=
  code 1 ++ text ++ code 22

/-- Dim text inside other styles. -/
def dimSpan (text : String) : String :=
  code 2 ++ text ++ code 22

/-- Red text that ends in bold. Where two styles end together, the colour ends first. -/
def redEndingBold (text strong : String) : String :=
  code 31 ++ text ++ code 1 ++ strong ++ code 39 ++ code 22

/-- The sign in front of what was done. -/
def doneSign : String := "✅"

/-- The sign in front of a failure. -/
def failureSign : String := "❌"

/-- The sign in front of a warning. -/
def warningSign : String := "🟡"

/-- The sign in front of a hint. -/
def hintSign : String := "💡"

/-- A warning. -/
def warning (message : String) : String :=
  warningSign ++ " " ++ yellow message

/-- A failure that is told in plain words. -/
def failure (message : String) : String :=
  failureSign ++ " " ++ redSpan message

end CallProfile.Terminal
