import Dicebag.Environment.Basic
import Dicebag.Text.Cut

/-!
# Dicebag.CommandLine.Completion

Requests for completion.  A shell that wants help with completing a
command line runs the program with an instruction in a variable of the
environment: what it wants, an underscore, and the name of the shell.  The
program completes for no shell, so it refuses each such request, whatever
the arguments are.
-/

namespace Dicebag

/-- Why a request for completion is refused. -/
inductive CompletionFault where
  /-- The instruction names no shell. -/
  | noShell
  /-- The instruction names a shell, for which nothing is completed. -/
  | unsupported (shell : String)
  deriving DecidableEq

namespace CompletionFault

/-- The wording of a refusal. -/
def message : CompletionFault → String
  | .noShell => "Invalid completion instruction."
  | .unsupported shell => "Shell " ++ shell ++ " not supported."

/-- The variable that an instruction is given in. -/
def variableName : String := "_LEGEND_COMPLETE"

/-- What is wrong with an instruction.  The shell is named behind its
first underscore. -/
def ofInstruction (instruction : String) : CompletionFault :=
  match Text.cutFirst? (· == '_') instruction.toList with
  | none => .noShell
  | some (_, _, shell) => .unsupported (String.ofList shell)

/-- The refusal that the environment asks for, if there is an instruction
in it.  An empty one asks for nothing. -/
def ofEnvironment? (env : Environment) : Option CompletionFault :=
  match env.get? variableName with
  | none => none
  | some instruction => if instruction = "" then none else some (ofInstruction instruction)

end CompletionFault

end Dicebag
