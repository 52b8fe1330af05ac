/-!
# The environment

The variables with which the program is started.
-/

namespace CallProfile

/-- The environment of a run. -/
structure Environment where
  /-- The variables by name, the first one counting where a name is given twice. -/
  bindings : List (String × String)
  /-- The home directory of the account, which counts where `HOME` is empty. -/
  accountHome : Option String

namespace Environment

/-- The value of a variable. -/
def get? (env : Environment) (name : String) : Option String :=
  env.bindings.lookup name

/-- The home directory. -/
def home? (env : Environment) : Option String :=
  match env.get? "HOME" with
  | some home => if home = "" then env.accountHome else some home
  | none => env.accountHome

end Environment

end CallProfile
