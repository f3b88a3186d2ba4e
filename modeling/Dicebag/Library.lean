import Dicebag.Environment.Statements
import Dicebag.Settings.Words
import Dicebag.Text.Plain

/-!
# Dicebag.Library

What the program leaves to libraries: how an environment file is cut into
statements, what the texts of settings and options say, and what remains
of a complaint where it is written.  Other versions of a library do this
in other ways, in how many digits they read for instance, and whether a
sign is one of them, or in what they make of `7.0` where an option wants a
whole number.

So the library is a parameter of all that comes after it.  What holds of
runs and settings holds of them on every library, or on one of which more
is assumed by name.  `Library.standard` is the one that runs are on.
-/

namespace Dicebag

/-- What the program leaves to libraries. -/
class Library where
  /-- The statements of an environment file. -/
  statements : String → List Statement
  /-- The truth value that the text of a setting says. -/
  truth : List Char → Except Complaint Bool
  /-- The whole number that the text of a setting says. -/
  number : List Char → Except Complaint Int
  /-- The whole number that the text of an option says, if it does. -/
  option? : List Char → Option Int
  /-- A complaint as it is written. -/
  plain : String → String

namespace Library

/-- The library that runs are on: files are read as `EnvironmentFile.statements`
has it, whole numbers are numerals wherever they are asked for, and
complaints lose their control sequences. -/
instance standard : Library where
  statements := EnvironmentFile.statements
  truth := Value.readTruthText
  number := Value.readNumberText
  option? text := (Value.readNumberText text).toOption
  plain := Text.plain

/-- Complaints without control sequences are written as they are. -/
def KeepsPlain [Library] : Prop := ∀ text : String, '\x1b' ∉ text.toList → plain text = text

end Library

end Dicebag
