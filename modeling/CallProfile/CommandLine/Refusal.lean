import CallProfile.CommandLine.Usage
import CallProfile.Text.Similarity

/-!
# Refused command lines

Why a command line was not understood, and how the user is told. A message names the mistake, may
give a tip, and shows the usage where that helps.
-/

namespace CallProfile.CommandLine

/-- What may have been meant. -/
inductive Tip where
  /-- An option with a similar name. -/
  | similarOption (name : String)
  /-- An option of a command that is called later on. -/
  | optionOf (command : Command) (name : String)
  /-- A value that looks like an option. -/
  | asValue (argument : String)
  /-- A command behind the hyphens that end the options. -/
  | commandBehindHyphens (name : String)
  deriving DecidableEq, Repr

/-- Why a command line was not understood. -/
inductive Refusal where
  /-- There is no such option, or no room for the argument. -/
  | unexpected (command : Command) (used : List Parameter) (argument : String) (tip : Option Tip)
  /-- There is no such command. -/
  | unknownCommand (command : Command) (word : String)
  /-- A command that does nothing by itself was called without one below it. -/
  | missingCommand (command : Command)
  | missingValue (parameter : Parameter)
  | invalidValue (parameter : Parameter) (value : String)
  /-- An option that is a mere switch was given a value. -/
  | extraValue (command : Command) (used : List Parameter) (parameter : Parameter) (value : String)
  /-- A parameter that may be given once was given again. -/
  | repeated (command : Command) (parameter : Parameter)
  deriving DecidableEq, Repr

/-- The similarity from which on a word is taken for a mistyped one. -/
def similarityFloor : Float := 0.7

/-- Put a scored word behind those that are not more similar. -/
def insertByScore (scored : Float × String) : List (Float × String) → List (Float × String)
  | [] => [scored]
  | other :: rest =>
    if other.1 > scored.1 then scored :: other :: rest else other :: insertByScore scored rest

/-- The candidates that are similar to a word, the most similar one last. -/
def similarWords (word : String) (candidates : List String) : List String :=
  let scored := candidates.map fun candidate => (Text.similarity word candidate, candidate)
  let similar := scored.filter (·.1 > similarityFloor)
  (similar.foldl (fun sorted candidate => insertByScore candidate sorted) []).map (·.2)

/-- The candidate that is most similar to a word. -/
def mostSimilar? (word : String) (candidates : List String) : Option String :=
  (similarWords word candidates).getLast?

/-- The most similar long name among the options of a command. -/
def Command.similarOption? (c : Command) (name : String) : Option String :=
  mostSimilar? name (c.options.filterMap (·.long?))

/-- The option that may have been meant by a long name which is none of the command's: a similar
one of the command, or else one of a command that is called by a later argument, the first such
counting. -/
def Command.optionTip? (c : Command) (name : String) (later : List String) : Option Tip :=
  match c.similarOption? name with
  | some similar => some (.similarOption similar)
  | none =>
    later.findSome? fun word =>
      (c.subcommand? word).bind fun sub => (sub.similarOption? name).map (.optionOf sub)

namespace Tip

/-- The wording of a tip. -/
def message : Tip → String
  | similarOption name => "a similar argument exists: " ++ quotedMark .valid ("--" ++ name)
  | optionOf command name => quotedMark .valid (command.name ++ " --" ++ name) ++ " exists"
  | asValue argument =>
    "to pass " ++ quotedMark .invalid argument ++ " as a value, use " ++
      quotedMark .valid ("-- " ++ argument)
  | commandBehindHyphens name =>
    "subcommand " ++ quotedMark .valid name ++ " exists; to use it, remove the " ++
      quotedMark .invalid "--" ++ " before it"

/-- The tip that names similar words. -/
def amongSimilar (kind : String) (words : List String) : Option String :=
  let named := ", ".intercalate (words.map (quotedMark .valid))
  match words with
  | [] => none
  | [_] => some ("a similar " ++ kind ++ " exists: " ++ named)
  | _ => some ("some similar " ++ kind ++ "s exist: " ++ named)

end Tip

namespace Refusal

/-- What went wrong. -/
def fault : Refusal → String
  | unexpected _ _ argument _ => "unexpected argument " ++ quotedMark .invalid argument ++ " found"
  | unknownCommand _ word => "unrecognized subcommand " ++ quotedMark .invalid word
  | missingCommand command =>
    quotedMark .invalid command.fullName ++ " requires a subcommand but one was not provided" ++
      choices "subcommands" (command.subcommands.map (·.name))
  | missingValue p =>
    "a value is required for " ++ quotedMark .invalid p.label ++ " but none was supplied" ++
      possibleValues p
  | invalidValue p value =>
    "invalid value " ++ quotedMark .invalid value ++ " for " ++ quotedMark .literal p.label ++
      possibleValues p
  | extraValue _ _ p value =>
    "unexpected value " ++ quotedMark .invalid value ++ " for " ++ quotedMark .literal p.label ++
      " found; no more were expected"
  | repeated _ p =>
    "the argument " ++ quotedMark .invalid p.label ++ " cannot be used multiple times"
where
  /-- The values that are possible, where they are known. -/
  possibleValues (p : Parameter) : String :=
    if p.possible.isEmpty then "" else choices "possible values" (p.possible.map (·.1))

/-- What may have been meant. -/
def tip? : Refusal → Option String
  | unexpected _ _ _ tip => tip.map Tip.message
  | unknownCommand command word =>
    Tip.amongSimilar "subcommand" (similarWords word (command.subcommands.map (·.name)))
  | invalidValue p value =>
    Tip.amongSimilar "value" (mostSimilar? value (p.possible.map (·.1))).toList
  | _ => none

/-- The usage that helps. -/
def usage? : Refusal → Option String
  | unexpected command used _ _ | extraValue command used _ _ => some (Usage.titled command used)
  | unknownCommand command _ | missingCommand command | repeated command _ =>
    some (Usage.titled command [])
  | missingValue _ | invalidValue _ _ => none

/-- The wording of a refusal. -/
def message (r : Refusal) : String :=
  let error := Emphasis.error.mark "error:" ++ " " ++ r.fault
  let tip := r.tip?.map fun tip => tab ++ Emphasis.valid.mark "tip:" ++ " " ++ tip
  let more := "For more information, try " ++ quotedMark .literal "--help" ++ ".\n"
  "\n\n".intercalate ([error] ++ tip.toList ++ r.usage?.toList ++ [more])

end Refusal

end CallProfile.CommandLine
