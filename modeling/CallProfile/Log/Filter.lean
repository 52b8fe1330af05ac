import CallProfile.Text.Blank

/-!
# Log filters

Which messages are logged is told by a list of directives: a level for everything, or a level for
the topics that begin with a name. Of several that apply, the one with the longest name decides.
-/

namespace CallProfile.Log

/-- How much a message matters. -/
inductive Level where
  | error
  | warn
  | info
  | debug
  | trace
  deriving DecidableEq, Repr

/-- The number of a level: the higher, the more is logged. -/
def Level.rank : Level → Nat
  | error => 1
  | warn => 2
  | info => 3
  | debug => 4
  | trace => 5

/-- The highest rank. -/
def allRanks : Nat := 5

/-- The rank of a word, in any case. -/
def rank? (word : String) : Option Nat :=
  ["off", "error", "warn", "info", "debug", "trace"].findIdx?
    (· == String.ofList (word.toList.map Char.toLower))

/-- What is logged of the topics with a name. -/
structure Directive where
  /-- The beginning of the topics, or nothing for all of them. -/
  topic : Option String
  rank : Nat
  deriving DecidableEq, Repr

/-- Directives by ascending length of their names, and a text that messages must hold. -/
structure Filter where
  directives : List Directive
  part : Option String
  deriving DecidableEq, Repr

/-- The text without white space at either end. -/
def trimmed (text : String) : String :=
  String.ofList ((Text.trimRight text).toList.dropWhile Text.isBlank)

/-- The pieces of a text between separators. -/
def pieces (separator : Char) (text : String) : List String :=
  (text.toList.splitOnP (· == separator)).map String.ofList

/-- The directive of a text, or what is wrong in it. -/
def readDirective (text : String) : Except String Directive :=
  match pieces '=' text with
  | [word] =>
    match rank? word with
    | some rank => .ok ⟨none, rank⟩
    | none => .ok ⟨some word, allRanks⟩
  | [name, word] =>
    let word := trimmed word
    if word = "" then .ok ⟨some name, allRanks⟩
    else
      match rank? word with
      | some rank => .ok ⟨some name, rank⟩
      | none => .error word
  | _ => .error text

/-- Write a directive, in place of an earlier one of the same topic. -/
def insert (directives : List Directive) (d : Directive) : List Directive :=
  if directives.any (·.topic == d.topic) then
    directives.map fun old => if old.topic == d.topic then d else old
  else directives ++ [d]

/-- The length of the name of a directive in bytes. -/
def Directive.nameLength (d : Directive) : Nat :=
  (d.topic.map (·.utf8ByteSize)).getD 0

/-- The filter of directives. Without any, only errors are logged. -/
def Filter.ofDirectives (directives : List Directive) (part : Option String) : Filter :=
  let all := directives.foldl insert []
  let all := if all.isEmpty then [⟨none, Level.error.rank⟩] else all
  ⟨all.mergeSort fun a b => a.nameLength ≤ b.nameLength, part⟩

/-- The wording of what is wrong in a filter. -/
def complaint (text : String) : String :=
  "invalid logging spec '" ++ text ++ "'"

/-- The directives of a text between commas, and what is wrong in it. -/
def readDirectives (text : String) : List Directive × List String :=
  let parts := ((pieces ',' text).map trimmed).filter (· != "")
  parts.foldr (fun part (directives, complaints) =>
    match readDirective part with
    | .ok d => (d :: directives, complaints)
    | .error wrong => (directives, complaint wrong :: complaints)) ([], [])

/-- The filter of a text, and what is wrong in it. Behind a slash stands a text that messages must
hold. -/
def Filter.read (text : String) : Filter × List String :=
  match pieces '/' text with
  | [directives] =>
    let (directives, complaints) := readDirectives directives
    (.ofDirectives directives none, complaints)
  | [directives, part] =>
    let (directives, complaints) := readDirectives directives
    (.ofDirectives directives (some part), complaints)
  | _ => (.ofDirectives [] none, [complaint text ++ " (too many '/'s)"])

/-- Whether the directive is about a topic. -/
def Directive.covers (d : Directive) (topic : String) : Bool :=
  d.topic.all fun name => name.toList.isPrefixOf topic.toList

/-- Whether a message on a topic is logged. -/
def Filter.admits (filter : Filter) (topic : String) (level : Level) (message : String) : Bool :=
  match filter.directives.reverse.find? (·.covers topic) with
  | some d =>
    level.rank ≤ d.rank && filter.part.all fun part => Text.hasPart part.toList message.toList
  | none => false

end CallProfile.Log
