import CallProfile.CommandLine.Given

/-!
# Reading command lines

Arguments are read one after the other. Each is the name of a command below, an option with or
without its value, the value of the option before, or the input. Two hyphens by themselves end the
options.
-/

namespace CallProfile.CommandLine

/-- Why a command line is not one that runs a command. -/
inductive Stop where
  /-- Help is asked for. -/
  | help (command : Command) (isLong : Bool)
  | version
  /-- Nothing at all was given to a command that needs one below it. -/
  | nothingGiven (command : Command)
  | refused (refusal : Refusal)
  deriving DecidableEq, Repr

/-- What was read of the arguments of one command. -/
structure Reading where
  command : Command
  given : Given
  /-- The parameter that is not taken in yet, with its value if that was seen. -/
  pending : Option (Parameter × Option String)
  /-- Whether two hyphens have ended the options. -/
  isTrailing : Bool

namespace Reading

/-- Nothing read yet. -/
def start (command : Command) : Reading :=
  ⟨command, [], none, false⟩

/-- Whether the next argument is the value of the option before. -/
def awaitsValue (r : Reading) : Bool :=
  match r.pending with
  | some (p, none) => p.takesValue
  | _ => false

/-- What is given together with the pending parameter, and what is wrong with that one. -/
def settled (r : Reading) : Given × Option Refusal :=
  match r.pending with
  | none => (r.given, none)
  | some (p, value) => r.given.take r.command p value

/-- The reading with the pending parameter taken in. -/
def settle (r : Reading) : Except Stop Reading :=
  match r.settled with
  | (given, none) => .ok { r with given, pending := none }
  | (_, some refusal) => .error (.refused refusal)

/-- The reading with one more parameter that waits to be taken in. -/
def await (r : Reading) (p : Parameter) (value : Option String) : Except Stop Reading := do
  let r ← r.settle
  return { r with pending := some (p, value) }

/-- The reading with one more parameter. Help and the version are printed at once. -/
def accept (r : Reading) (p : Parameter) (value : Option String) (isLong : Bool) :
    Except Stop Reading := do
  let r ← r.await p value
  match p with
  | .help => .error (.help r.command isLong)
  | .version => .error .version
  | _ => r.settle

/-- The refusal of an option that the command does not have. -/
def unknownLong (r : Reading) (name : String) (later : List String) : Stop :=
  let c := r.command
  let tip :=
    match c.optionTip? name later with
    | some tip => some tip
    | none => if c.takesInput then some (.asValue ("--" ++ name)) else none
  let given := r.settled.1
  let used :=
    match tip with
    | some (.similarOption similar) =>
      (c.long? similar).elim given.parameters given.parametersWith
    | _ => given.parameters
  .refused (.unexpected c used ("--" ++ name) tip)

/-- Read an option by its long name, with the value behind the sign of equality. -/
def long (r : Reading) (name : String) (value : Option String) (later : List String) :
    Except Stop Reading :=
  match r.command.long? name, value with
  | none, _ => .error (r.unknownLong name later)
  | some p, none => if p.takesValue then r.await p none else r.accept p none true
  | some p, some text =>
    if p.takesValue then r.accept p (some text) true
    else .error (.refused (.extraValue r.command (r.given.parametersWith p) p text))

/-- The refusal of a letter that calls no option. -/
def unknownShort (r : Reading) (letter : Char) : Stop :=
  let argument := "-" ++ String.singleton letter
  let tip := if r.command.takesInput then some (.asValue argument) else none
  .refused (.unexpected r.command [] argument tip)

/-- The value behind a letter, with a sign of equality between them or not. -/
def attached : List Char → Option String
  | [] => none
  | '=' :: rest => some (String.ofList rest)
  | rest => some (String.ofList rest)

/-- Read options by their letters. One that takes a value takes all that follows. -/
def shorts (r : Reading) : List Char → Except Stop Reading
  | [] => .ok r
  | letter :: rest =>
    match r.command.short? letter with
    | none => .error (r.unknownShort letter)
    | some p =>
      if p.takesValue then
        match attached rest with
        | none => r.await p none
        | some value => r.accept p (some value) false
      else
        match r.accept p none false with
        | .error stop => .error stop
        | .ok r => r.shorts rest

/-- Read an argument that is no option. -/
def argument (r : Reading) (text : String) : Except Stop Reading :=
  let c := r.command
  if c.takesInput && !r.settled.1.mentions .input then r.await .input (some text)
  else if r.isTrailing && (c.subcommand? text).isSome then
    .error (.refused (.unexpected c [] text (some (.commandBehindHyphens text))))
  else if c.subcommands.isEmpty then .error (.refused (.unexpected c [] text none))
  else .error (.refused (.unknownCommand c text))

/-- Read an argument in front of later ones. -/
def step (r : Reading) (text : String) (later : List String) : Except Stop Reading :=
  if r.isTrailing then r.argument text
  else
    match text.toList with
    | ['-', '-'] => .ok { r with isTrailing := true }
    | '-' :: '-' :: rest =>
      let name := String.ofList (rest.takeWhile (· != '='))
      match rest.dropWhile (· != '=') with
      | _ :: value => r.long name (some (String.ofList value)) later
      | [] => r.long name none later
    | '-' :: letter :: rest => r.shorts (letter :: rest)
    | _ =>
      match r.pending with
      | some (p, none) => .ok { r with pending := some (p, some text) }
      | _ => r.argument text

/-- The command below that an argument calls, unless it is the value of an option. -/
def called? (r : Reading) (text : String) : Option Command :=
  if r.isTrailing || r.awaitsValue then none else r.command.subcommand? text

/-- The reading of all arguments of a command, which may not end in front of a command that is
needed. -/
def finish (r : Reading) : Except Stop Reading := do
  let r ← r.settle
  if r.command.subcommands.isEmpty then return r
  else if r.given.isEmpty then .error (.nothingGiven r.command)
  else .error (.refused (.missingCommand r.command))

/-- Read arguments, and return what was given to each command from the outermost one on. -/
def run (outer : List Reading) (r : Reading) : List String → Except Stop (List Reading)
  | [] => do return outer ++ [← r.finish]
  | text :: later => do
    match r.called? text with
    | some sub => run (outer ++ [← r.settle]) (start sub) later
    | none => run outer (← r.step text later) later

end Reading

/-- Read the arguments of the program. -/
def read (arguments : List String) : Except Stop (List Reading) :=
  Reading.run [] (.start .program) arguments

end CallProfile.CommandLine
