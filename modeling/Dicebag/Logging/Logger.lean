import Dicebag.Logging.Level
import Dicebag.Text.Quoted

/-!
# Dicebag.Logging.Logger

Loggers and their levels.  Loggers have names with dots in them, and one
without a level of its own takes that of the nearest logger above it.
Only one level is ever set, that of the program's own logger; the root
logger, above all others, has the level `warning`.

Which logger is the nearest depends on the loggers that there are, though
only for names in which two dots follow each other.  Where that makes no
difference they are all taken to be there.
-/

namespace Dicebag

/-! ## Messages -/

/-- A message as it is logged. -/
structure LogRecord where
  rank : Int
  logger : String
  message : String

/-- The line that a message is logged as. -/
def LogRecord.line (r : LogRecord) : String :=
  String.ofList (Level.nameOfRank r.rank) ++ ":" ++ r.logger ++ ":" ++ r.message

/-! ## Levels -/

/-- The level of the program's own logger; zero if none is set. -/
structure Logging where
  rank : Int := 0
  deriving DecidableEq

/-- A level to be set: by name, in whatever case that is given, or by
rank. -/
inductive LevelChoice where
  | name (name : String)
  | rank (rank : Int)

/-- A name that no level has. -/
structure UnknownLevel where
  /-- The name, in upper case. -/
  name : String
  deriving DecidableEq

/-- The wording for a name that no level has. -/
def UnknownLevel.message (e : UnknownLevel) : String := "Unknown level: " ++ Text.quote e.name

namespace Logging

/-- The program's own logger, the one whose level can be set. -/
def domain : String := "legend"

/-- The level of the root logger. -/
def rootRank : Int := Level.warning.rank

/-- Sets the level.  A name that no level has is refused. -/
def set : LevelChoice → Except UnknownLevel Logging
  | .rank rank => .ok ⟨rank⟩
  | .name name =>
    let name := Text.upper name.toList
    match Level.rankOfName? name with
    | some rank => .ok ⟨rank⟩
    | none => .error ⟨String.ofList name⟩

/-- The level after a choice: what it says, or as before if it is
refused. -/
def after (l : Logging) (choice : LevelChoice) : Logging :=
  match set choice with
  | .ok l => l
  | .error _ => l

/-! ## Loggers -/

/-- The loggers that there are, by their names.  The program's own is
always among them. -/
structure Loggers where
  has : List Char → Bool
  has_domain : has domain.toList = true

/-- All loggers that there can be. -/
def Loggers.all : Loggers := ⟨fun _ => true, rfl⟩

/-- The program's own logger and some more. -/
def Loggers.ofList (names : List String) : Loggers :=
  ⟨fun logger => logger = domain.toList || names.contains (String.ofList logger), by simp⟩

/-- The level that a logger has of its own, if it has one. -/
def own? (l : Logging) (logger : List Char) : Option Int :=
  if logger = domain.toList ∧ l.rank ≠ 0 then some l.rank else none

/-- The level that a logger has from those above it.  Its name is read
backwards, up to a dot.  The logger with the name in front of that is the
nearest above, if there is one; if not, the search goes on, past the
character in front of the dot even if that is another dot. -/
def inherited (l : Logging) (loggers : Loggers) : List Char → Int
  | '.' :: c :: front =>
    if loggers.has (c :: front).reverse then
      (l.own? (c :: front).reverse).getD (l.inherited loggers (c :: front))
    else l.inherited loggers front
  | _ :: front => l.inherited loggers front
  | [] => rootRank

/-- The level that counts for a logger. -/
def effective (l : Logging) (logger : String) (loggers : Loggers := .all) : Int :=
  (l.own? logger.toList).getD (l.inherited loggers logger.toList.reverse)

/-! ## Writing -/

/-- Whether a message of this rank is written. -/
def writes (l : Logging) (logger : String) (rank : Int) (loggers : Loggers := .all) : Bool :=
  decide (0 < rank) && decide (l.effective logger loggers ≤ rank)

/-- How a logger is named in its messages: the root logger has two
names, of which it shows one. -/
def shownName (logger : String) : String := if logger = "" then "root" else logger

/-- The text that a message comes to: a line, or nothing if it is not
written.  A rank in a line must not be too long. -/
def emit (l : Logging) (r : LogRecord) (loggers : Loggers := .all) :
    Except Decimal.WriteError String :=
  if l.writes r.logger r.rank loggers then
    Decimal.render [r.rank]
      ({ r with logger := shownName r.logger : LogRecord }.line ++ "\n").toList
  else .ok ""

end Logging

end Dicebag
