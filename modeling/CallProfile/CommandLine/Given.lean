import CallProfile.CommandLine.Refusal

/-!
# Given parameters

What a command line gives for the parameters of one command, gathered argument by argument. An
option is taken in only when the next one begins, because its value may still follow.
-/

namespace CallProfile.CommandLine

/-- The values given for parameters, in the order in which the parameters are first mentioned.
Options without a value have none. -/
abbrev Given := List (Parameter × List String)

namespace Given

/-- The values of a parameter. -/
def values (given : Given) (p : Parameter) : List String :=
  (given.lookup p).getD []

/-- Whether a parameter is mentioned. -/
def mentions (given : Given) (p : Parameter) : Bool :=
  given.any (·.1 == p)

/-- The parameters that are mentioned. -/
def parameters (given : Given) : List Parameter :=
  given.map (·.1)

/-- The parameters that are mentioned, with another one. -/
def parametersWith (given : Given) (p : Parameter) : List Parameter :=
  if given.mentions p then given.parameters else given.parameters ++ [p]

/-- Give values for a parameter besides those it has. -/
def add (given : Given) (p : Parameter) (values : List String) : Given :=
  if given.mentions p then
    given.map fun (q, old) => if q == p then (q, old ++ values) else (q, old)
  else given ++ [(p, values)]

/-- Take back what was given for a parameter. -/
def remove (given : Given) (p : Parameter) : Given :=
  given.filter (·.1 != p)

/-- Give a parameter with a value, or without one as a switch. What is refused still leaves its
trace: a second mention takes the first one back, and a wrong value counts as a mention. -/
def take (given : Given) (c : Command) (p : Parameter) (value : Option String) :
    Given × Option Refusal :=
  if p.takesValue && value.isNone then (given, some (.missingValue p))
  else if given.mentions p && !p.isRepeatable then (given.remove p, some (.repeated c p))
  else
    match value, value.bind p.rule.fault? with
    | some _, some .absent => (given.add p [], some (.missingValue p))
    | some text, some .unknown => (given.add p [], some (.invalidValue p text))
    | _, _ => (given.add p value.toList, none)

end Given

end CallProfile.CommandLine
