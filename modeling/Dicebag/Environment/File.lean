import Dicebag.Environment.Basic
import Dicebag.Environment.Expansion
import Dicebag.Library
import Dicebag.Logging.Logger

/-!
# Dicebag.Environment.File

Loading one environment file.  Its statements are read, the references
in their values are replaced in order, and each name that ends up with a
value is defined, so a variable that is set already keeps its value.  Of
several statements on one name the last counts, even if it gives no
value.  A warning is logged for every statement that does not read.

The names are defined in the order in which the file mentions them, and
one that cannot be a variable stops this.
-/

namespace Dicebag

/-- What loading comes to: the environment after it, the warnings in
order, and why it stopped if it did. -/
structure Loading where
  environment : Environment
  warnings : List LogRecord := []
  refusal : Option Refusal := none

namespace EnvironmentFile

/-! ## Warnings -/

/-- The warning about a statement that does not read. -/
def warning? : Statement → Option LogRecord
  | .binding _ _ => none
  | .malformed line =>
    some ⟨Level.warning.rank, "dotenv.main",
      "python-dotenv could not parse statement starting at line "
        ++ String.ofList (Decimal.natural line)⟩

/-! ## Values -/

/-- The values that names have so far, the newest first; a name can have
been mentioned without getting one. -/
abbrev Known := List (String × Option String)

/-- What a name stands for in a reference: its variable if it is set,
what the file has for it so far, or nothing.  A name that was mentioned
without a value stands for the empty text. -/
def standsFor (env : Environment) (known : Known) (name : List Char) : Option (List Char) :=
  match env.get? (String.ofList name) with
  | some value => some value.toList
  | none => (known.lookup (String.ofList name)).map fun value => (value.getD "").toList

/-- What is known after one more statement. -/
def learn (env : Environment) (known : Known) : Statement → Known
  | .binding name value =>
    (String.ofList name,
      value.map fun text => String.ofList (Reference.expand (standsFor env known) text)) :: known
  | .malformed _ => known

/-- What is known after all statements of a file. -/
def known (env : Environment) (file : List Statement) : Known := file.foldl (learn env) []

/-- The value that a name ends up with. -/
def final (known : Known) (name : String) : Option String := (known.lookup name).join

/-- The names that ended up with a value, each with it, in the order in
which they are mentioned.  A name that is mentioned again is listed
again. -/
def bindings (known : Known) : List (String × String) :=
  known.reverse.filterMap fun entry => (final known entry.1).map (entry.1, ·)

/-- Loads a file. -/
def load [Library] (env : Environment) (content : String) : Loading :=
  let file := Library.statements content
  let (environment, refusal) := env.defineAll (bindings (known env file))
  { environment, warnings := file.filterMap warning?, refusal }

end EnvironmentFile

end Dicebag
