import Dicebag.Environment.Basic
import Dicebag.Logging.Level
import Dicebag.Settings.Value

/-!
# Dicebag.Settings.Basic

The settings that hold where the command line says nothing: whether dice
roll in trance, the seed, and the level of the log.  Each is read by
itself, so one that is wrong is reported whatever the others are, and all
that are wrong are reported together, in the order of the fields.
-/

namespace Dicebag

/-- The settings. -/
structure Settings where
  trance : Bool := false
  seed : Option Int := none
  level : Level := .warning
  deriving DecidableEq

namespace Settings

/-! ## Fields -/

/-- The fields of the settings. -/
inductive Field where
  | trance
  | seed
  | level
  deriving DecidableEq

/-- The variable that a field is set by. -/
def Field.variable : Field → String
  | .trance => "LEGEND_TRANCE"
  | .seed => "LEGEND_SEED"
  | .level => "LEGEND_LOG_LEVEL"

/-- A field whose value is refused.  The value is shown if it is a
text. -/
structure Issue where
  field : Field
  complaint : Complaint
  shown : Option String
  deriving DecidableEq

/-- The value as an issue shows it. -/
def shownText : Value → Option String
  | .text text => some (String.ofList text)
  | _ => none

/-- Says of which field and value a complaint is. -/
def complain {α : Type} (field : Field) (value : Value) (result : Except Complaint α) :
    Except Issue α :=
  result.mapError fun complaint => ⟨field, complaint, shownText value⟩

/-- The truth value of the field `trance`. -/
def readTrance [Library] (value : Value) : Except Issue Bool :=
  complain .trance value value.readTruth

/-- The number of the field `seed`. -/
def readSeed [Library] (value : Value) : Except Issue (Option Int) :=
  complain .seed value value.readNumber

/-- A value with the white space around a text removed and the text in
upper case. -/
def normalLevel : Value → Value
  | .text text => .text (Text.upper (Text.strip text))
  | value => value

/-- The level that a value names, once it is in normal form. -/
def levelOf : Value → Except Complaint Level
  | .text text =>
    match Level.ofName? text with
    | some level => .ok level
    | none => .error .noLevel
  | _ => .error .noLevel

/-- The level of the field `level`. -/
def readLevel (value : Value) : Except Issue Level :=
  let value := normalLevel value
  complain .level value (levelOf value)

/-! ## All fields -/

/-- Reads a field, which has its default if it is not given. -/
def readOr {α : Type} (default : α) (reader : Value → Except Issue α) :
    Option Value → Except Issue α
  | none => .ok default
  | some value => reader value

/-- What is wrong with one field. -/
def issuesOf {α : Type} : Except Issue α → List Issue
  | .ok _ => []
  | .error issue => [issue]

/-- The settings whose fields have these values, or all that is wrong
with them. -/
def ofValues [Library] (trance seed level : Option Value) : Except (List Issue) Settings :=
  match readOr false readTrance trance, readOr none readSeed seed,
    readOr .warning readLevel level with
  | .ok trance, .ok seed, .ok level => .ok ⟨trance, seed, level⟩
  | trance, seed, level => .error (issuesOf trance ++ issuesOf seed ++ issuesOf level)

/-- The value that a variable gives: a text without the white space
around it.  A blank variable gives none. -/
def variableValue (env : Environment) (field : Field) : Option Value :=
  match Text.strip ((env.get? field.variable).getD "").toList with
  | [] => none
  | text => some (.text text)

/-- The settings that the environment gives. -/
def ofEnvironment [Library] (env : Environment) : Except (List Issue) Settings :=
  ofValues (variableValue env .trance) (variableValue env .seed) (variableValue env .level)

end Settings

end Dicebag
