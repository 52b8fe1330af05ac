import CallProfile.Environment
import CallProfile.Host
import CallProfile.Log.Filter
import CallProfile.Terminal
import CallProfile.Terminal.Plain

/-!
# The console

How the program talks to the user. Results go to the output; warnings, failures and log messages
go to the error output, so that results stay clean. Styles are shown only where they are wanted.
-/

namespace CallProfile

/-- What is shown on the console. -/
structure Console where
  /-- Whether styles are shown. -/
  styled : Bool
  /-- Whether styles are shown in log messages. -/
  styledLog : Bool
  filter : Log.Filter

/-- What log messages are about. -/
inductive LogTopic where
  | program
  | settings
  | lines
  | loading
  | plotting
  | drawing
  deriving DecidableEq, Repr

/-- The name of a topic in filters. -/
def LogTopic.name : LogTopic → String
  | program => "corfu_profiler"
  | settings => "corfu_profiler::config"
  | lines => "corfu_profiler::trace::parse"
  | loading => "corfu_profiler::trace::load"
  | plotting => "corfu_profiler::commands::plot"
  | drawing => "corfu_profiler::render"

namespace Console

/-- A console without styles and log messages. -/
def quiet : Console :=
  ⟨false, false, ⟨[], none⟩⟩

/-- Whether an environment asks for styles where no terminal does: one variable forces them and none
forbids them. -/
def wantsStyles (env : Environment) : Bool :=
  ((env.get? "NO_COLOR").all (· == "")) && ((env.get? "CLICOLOR_FORCE").any (· != "0"))

/-- The variable that holds the filter of log messages. -/
def filterVariable : String := "RUST_LOG"

/-- The variable that tells whether log messages have styles. -/
def styleVariable : String := "RUST_LOG_STYLE"

/-- The console for an environment, and what is wrong in the filter of log messages. Without a
filter, everything down to debugging is logged if the user asks for much, and nothing
otherwise. -/
def ofEnvironment (env : Environment) (verbose : Bool) : Console × List String :=
  let (filter, complaints) :=
    Log.Filter.read ((env.get? filterVariable).getD (if verbose then "debug" else "off"))
  let styled := wantsStyles env
  let styledLog :=
    match env.get? styleVariable with
    | some "always" => true
    | some "never" => false
    | _ => styled
  (⟨styled, styledLog, filter⟩, complaints)

/-- The text as it is shown. -/
def shown (styled : Bool) (text : String) : String :=
  if styled then text else Terminal.plain text

variable {m : Type → Type} [Monad m] [Host m]

/-- Write a result. -/
def write (console : Console) (text : String) : m Unit :=
  Host.printOut (shown console.styled text)

/-- Write about the run. -/
def tell (console : Console) (text : String) : m Unit :=
  Host.printError (shown console.styled text)

/-- Write a line about the run. -/
def note (console : Console) (line : String) : m Unit :=
  console.tell (line ++ "\n")

/-- Log a message. The letter in front of it names the thread that logs it. Worker threads of the
program, which draw the charts, have letters of their own; here the main thread does everything, and
its letter is `a`. -/
def log (console : Console) (topic : LogTopic) (level : Log.Level) (message : String) : m Unit :=
  if console.filter.admits topic.name level message then
    Host.printError (shown console.styledLog (Terminal.dim "[a]" ++ " " ++ message ++ "\n"))
  else pure ()

end Console

end CallProfile
