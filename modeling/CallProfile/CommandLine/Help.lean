import CallProfile.CommandLine.Usage
import CallProfile.Environment
import CallProfile.Number.Natural
import CallProfile.Text.Wrapping

/-!
# Help pages

A help page tells what a command does, how it is typed, and what its commands, arguments and
options mean. The short page puts an explanation beside each entry if there is room; the long one
puts it on a line of its own and says more.
-/

namespace CallProfile.CommandLine.Help

open Text.Wrapping (wrapped)

/-- How a page is laid out. -/
structure Layout where
  /-- The columns of the terminal. -/
  width : Nat
  isLong : Bool

/-- An entry of a section. -/
structure Entry where
  /-- How the entry is typed, as it is shown. -/
  term : String
  /-- The columns of the term that count for the alignment. -/
  columns : Nat
  /-- The columns in front of the explanations besides those of the terms. -/
  margin : Nat
  /-- The explanation. -/
  about : String
  /-- The values that are possible, with what each means. -/
  possible : List (String × String)

/-- Blanks. -/
def blanks (n : Nat) : String :=
  String.ofList (List.replicate n ' ')

/-- The columns of the terminal where nothing tells them. -/
def defaultWidth : Nat := 100

/-- The columns of the terminal. -/
def widthOf (env : Environment) : Nat :=
  ((env.get? "COLUMNS").bind fun text =>
    Number.readNatural? Number.limit64 text.toList).getD defaultWidth

/-- The columns in front of an explanation on a line of its own. -/
def nextLineIndent : Nat := 10

/-- The possible values in short, if there are any. -/
def Entry.shortPossible (e : Entry) : String :=
  if e.possible.isEmpty then ""
  else "[possible values: " ++ ", ".intercalate (e.possible.map (·.1)) ++ "]"

/-- The explanation as a page of its length shows it. -/
def Entry.explanation (e : Entry) (isLong : Bool) : String :=
  if isLong || e.possible.isEmpty then e.about else e.about ++ " " ++ e.shortPossible

/-- Whether an explanation has too little room beside terms that are `longest` columns wide: they
take more than two fifths of the width, and it does not fit into the rest. -/
def Entry.isCramped (e : Entry) (width longest : Nat) : Bool :=
  let taken := longest + 12
  taken ≤ width && 2 * width < 5 * taken &&
    width - taken < e.about.length + e.shortPossible.length

/-- The line of a possible value. Explanations are aligned behind the longest name, and lines are
not broken where nothing would fit. -/
def possibleLine (width longest : Nat) (value : String × String) : String :=
  let (name, about) := value
  let indent := nextLineIndent + 2
  let text := name ++ ": " ++ blanks (longest - name.length) ++ about
  let limit := if indent < width then width - indent else text.length
  let behindName := (wrapped limit (blanks indent) text).toList.drop name.length
  "\n" ++ blanks nextLineIndent ++ "- " ++ Emphasis.literal.mark name ++ String.ofList behindName

/-- The list of the possible values. -/
def possibleList (width : Nat) (values : List (String × String)) : String :=
  let longest := (values.map (·.1.length)).foldl max 0
  "\n\n" ++ blanks nextLineIndent ++ "Possible values:" ++
    String.join (values.map (possibleLine width longest))

/-- An entry with its explanation below it. -/
def Entry.below (e : Entry) (layout : Layout) : String :=
  let indent := blanks nextLineIndent
  let about := wrapped (layout.width - nextLineIndent) indent (e.explanation layout.isLong)
  let possible :=
    if layout.isLong && !e.possible.isEmpty then possibleList layout.width e.possible else ""
  tab ++ e.term ++ "\n" ++ indent ++ about ++ possible

/-- An entry with its explanation beside it. -/
def Entry.beside (e : Entry) (layout : Layout) (longest : Nat) : String :=
  let indent := longest + e.margin
  tab ++ e.term ++ blanks (longest + 2 - e.columns) ++
    wrapped (layout.width - indent) (blanks indent) (e.explanation false)

/-- A section of entries under a title. -/
def listing? (layout : Layout) (title : String) (entries : List Entry) : Option String :=
  if entries.isEmpty then none
  else
    let longest := (entries.map (·.columns)).foldl max 2
    let shown :=
      if layout.isLong then "\n\n".intercalate (entries.map (·.below layout))
      else if entries.any (·.isCramped layout.width longest) then
        "\n".intercalate (entries.map (·.below layout))
      else "\n".intercalate (entries.map (·.beside layout longest))
    some (Emphasis.heading.mark (title ++ ":") ++ "\n" ++ shown)

/-- The entry of a command below. -/
def commandEntry (c : Command) : Entry :=
  { term := Emphasis.literal.mark c.name
    columns := c.name.length
    margin := 8
    about := c.about
    possible := [] }

/-- What the option for help says about itself. Where there are two pages, it names the other
one. -/
def helpAbout (c : Command) (isLong : Bool) : String :=
  if !c.hasLongHelp then Parameter.about .help
  else if isLong then Parameter.about .help ++ " (see a summary with '-h')"
  else Parameter.about .help ++ " (see more with '--help')"

/-- The explanation of a parameter. -/
def parameterAbout (c : Command) (isLong : Bool) (p : Parameter) : String :=
  match p, p.remark? with
  | .help, _ => helpAbout c isLong
  | _, some remark => if isLong then p.about ++ "\n\n" ++ remark else p.about
  | _, none => p.about

/-- The letter of an option, or as much room. -/
def markedShort (p : Parameter) : String :=
  match p.short? with
  | some letter => Emphasis.literal.mark ("-" ++ String.singleton letter) ++ ", "
  | none => blanks 4

/-- The entry of an option. -/
def optionEntry (c : Command) (isLong : Bool) (p : Parameter) : Entry :=
  { term := markedShort p ++ p.markedOption
    columns := p.label.length
    margin := 8
    about := parameterAbout c isLong p
    possible := p.possible }

/-- The entry of the argument without a name. -/
def inputEntry (c : Command) (isLong : Bool) : Entry :=
  { term := Parameter.markedValue .input false
    columns := (Parameter.label .input).length
    margin := 4
    about := parameterAbout c isLong .input
    possible := [] }

/-- The help page of a command. Without anything more to say, the long page is the short one. -/
def page (c : Command) (width : Nat) (isLong : Bool) : String :=
  let isLong := isLong && c.hasLongHelp
  let layout : Layout := ⟨width, isLong⟩
  let inputs := if c.takesInput then [inputEntry c isLong] else []
  let listings := [listing? layout "Commands" (c.subcommands.map commandEntry),
    listing? layout "Arguments" inputs,
    listing? layout "Options" (c.optionsInHelp.map (optionEntry c isLong)),
    if isLong then c.closing?.map (wrapped width "") else none]
  "\n\n".intercalate
    ([wrapped width "" c.about, Usage.titled c []] ++ listings.filterMap id) ++ "\n"

end CallProfile.CommandLine.Help
