import Dicebag.Decimal
import Dicebag.Text.Upper

/-!
# Dicebag.Logging.Level

How grave a message is: a whole number, of which some have names.  Five
names are canonical; two of them can be said in another way, and zero is
no level at all but the wish to inherit one.
-/

namespace Dicebag

/-- The levels with a canonical name. -/
inductive Level where
  | debug
  | info
  | warning
  | error
  | critical
  deriving DecidableEq

namespace Level

/-- All levels, the least grave first. -/
def all : List Level := [.debug, .info, .warning, .error, .critical]

/-- The canonical name. -/
def name : Level → String
  | .debug => "DEBUG"
  | .info => "INFO"
  | .warning => "WARNING"
  | .error => "ERROR"
  | .critical => "CRITICAL"

/-- How grave the level is. -/
def rank : Level → Int
  | .debug => 10
  | .info => 20
  | .warning => 30
  | .error => 40
  | .critical => 50

/-- The level with a canonical name. -/
def ofName? (name : List Char) : Option Level := all.find? fun level => level.name.toList = name

/-- The rank that a name in upper case stands for, other names than the
canonical ones included. -/
def rankOfName? (name : List Char) : Option Int :=
  match ofName? name with
  | some level => some level.rank
  | none =>
    if name = "FATAL".toList then some critical.rank
    else if name = "WARN".toList then some warning.rank
    else if name = "NOTSET".toList then some 0
    else none

/-- What a rank is called in a log. -/
def nameOfRank (rank : Int) : List Char :=
  match all.find? fun level => level.rank = rank with
  | some level => level.name.toList
  | none => if rank = 0 then "NOTSET".toList else "Level ".toList ++ Decimal.integer rank

theorem ofName?_name (level : Level) : ofName? level.name.toList = some level := by
  cases level <;> decide

/-- The canonical names are told apart. -/
theorem ofName?_eq_some_iff {text : List Char} {level : Level} :
    ofName? text = some level ↔ text = level.name.toList := by
  constructor
  · intro h
    have hname := List.find?_some h
    exact (of_decide_eq_true hname).symm
  · rintro rfl
    exact ofName?_name level

theorem rankOfName?_name (level : Level) : rankOfName? level.name.toList = some level.rank := by
  simp [rankOfName?, ofName?_name]

end Level

end Dicebag
