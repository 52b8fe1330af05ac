import CallProfile.CommandLine.Parameter

/-!
# Commands

The program does one of a few things, each called by a command with parameters of its own.
Commands form a tree whose root is the program itself; those with commands below them do nothing
by themselves.
-/

namespace CallProfile.CommandLine

/-- A command. -/
inductive Command where
  /-- The program itself. -/
  | program
  | plot
  | summary
  | trace
  | config
  | showConfig
  deriving DecidableEq, Repr

namespace Command

/-- The word that calls the command. -/
def name : Command → String
  | program => "corfu-profiler"
  | plot => "plot"
  | summary => "summary"
  | trace => "trace"
  | config => "config"
  | showConfig => "show"

/-- The words that call the command, from the program on. -/
def words : Command → List String
  | program => [program.name]
  | showConfig => [program.name, config.name, showConfig.name]
  | c => [program.name, c.name]

/-- The command as it is typed. -/
def fullName (c : Command) : String :=
  " ".intercalate c.words

/-- The version of the program. -/
def version : String := "0.1.0"

/-- What the command does, in a few words. -/
def about : Command → String
  | program => "Charts and summaries for CorfuDB profiler logs"
  | plot => "Draw PNG charts from a profiler log"
  | summary => "Print per-event counts and latencies"
  | trace => "Convert a profiler log to Chrome Trace Event Format JSON"
  | config => "Inspect configuration"
  | showConfig => "Print the effective configuration as TOML"

/-- Lines of text. -/
def paragraph (lines : List String) : String :=
  "\n".intercalate lines

/-- The text at the end of the long help. -/
def closing? : Command → Option String
  | plot => some (paragraph
      ["Writes every chart by default. Per-table charts (table-id-ops-per-tx,",
        "all-methods-by-id) need --table-id and are skipped without one.",
        "",
        "Examples:",
        "  corfu-profiler plot data/ -o results",
        "  corfu-profiler plot run.log --chart all-ops --chart op-latency",
        "  corfu-profiler plot run.log --table-id 7c4f2940-7893-3334-a6cb-7a87bf045c0d"])
  | trace => some (paragraph
      ["Open the output in chrome://tracing or https://ui.perfetto.dev.",
        "",
        "Example:",
        "  corfu-profiler trace run.log > trace.json"])
  | _ => none

/-- The commands below a command. -/
def subcommands : Command → List Command
  | program => [plot, summary, trace, config]
  | config => [showConfig]
  | _ => []

/-- The command below a command that a word calls. -/
def subcommand? (c : Command) (word : String) : Option Command :=
  c.subcommands.find? (·.name == word)

/-- Whether the command takes the input as an argument. -/
def takesInput : Command → Bool
  | plot | summary | trace => true
  | _ => false

/-- The options that belong to one command only. -/
def ownOptions : Command → List Parameter
  | plot => [.outputDir, .chart, .tableId, .accessOp, .mutateOp]
  | _ => []

/-- The options of all commands. -/
def sharedOptions : List Parameter := [.verbose, .config]

/-- The options that print something instead of running the command. -/
def printingOptions : Command → List Parameter
  | program => [.help, .version]
  | _ => [.help]

/-- The options of a command, in the order in which they are compared with a mistyped one. -/
def options (c : Command) : List Parameter :=
  c.ownOptions ++ sharedOptions ++ c.printingOptions

/-- Items of two lists in turn. -/
def inTurn {α : Type} : List α → List α → List α
  | a :: as, b :: bs => a :: b :: inTurn as bs
  | [], bs => bs
  | as, [] => as

/-- The options of a command, in the order in which help tells about them. -/
def optionsInHelp (c : Command) : List Parameter :=
  inTurn c.ownOptions sharedOptions ++ c.printingOptions

/-- The option of a long name. -/
def long? (c : Command) (name : String) : Option Parameter :=
  c.options.find? (·.long? == some name)

/-- The option of a letter. -/
def short? (c : Command) (letter : Char) : Option Parameter :=
  c.options.find? (·.short? == some letter)

/-- The parameters of a command. -/
def parameters (c : Command) : List Parameter :=
  (if c.takesInput then [.input] else []) ++ c.options

/-- Whether there is more to say than the short help does. -/
def hasLongHelp (c : Command) : Bool :=
  c.closing?.isSome || c.parameters.any fun p => p.remark?.isSome || !p.possible.isEmpty

end Command

end CallProfile.CommandLine
