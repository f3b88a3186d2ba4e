import Dicebag.Settings.Numeral

/-!
# Dicebag.Settings.Words

Values as they are written in texts.  Several words stand for each truth
value, in whatever case their ASCII letters are, and a whole number may be
any numeral.  Of a text that says nothing of the kind there is a
complaint.
-/

namespace Dicebag

/-! ## Complaints -/

/-- What is wrong with a value. -/
inductive Complaint where
  /-- It does not say a truth value. -/
  | truthUnclear
  /-- It is nothing that could say a truth value. -/
  | truthType
  /-- It does not say a whole number. -/
  | numberUnclear
  /-- It says a whole number that is too long. -/
  | numberTooLong
  /-- It is a number, and not whole. -/
  | numberFractional
  /-- It is no finite number. -/
  | numberNotFinite
  /-- It is nothing that could say a whole number. -/
  | numberType
  /-- It is not the name of a level. -/
  | noLevel
  deriving DecidableEq

/-- The wording of a complaint. -/
def Complaint.message : Complaint → String
  | .truthUnclear => "Input should be a valid boolean, unable to interpret input"
  | .truthType => "Input should be a valid boolean"
  | .numberUnclear => "Input should be a valid integer, unable to parse string as an integer"
  | .numberTooLong => "Unable to parse input string as an integer, exceeded maximum size"
  | .numberFractional =>
    "Input should be a valid integer, got a number with a fractional part"
  | .numberNotFinite => "Input should be a finite number"
  | .numberType => "Input should be a valid integer"
  | .noLevel => "Input should be 'DEBUG', 'INFO', 'WARNING', 'ERROR' or 'CRITICAL'"

namespace Value

/-! ## Truth values -/

/-- The words for true, in lower case. -/
def trueWords : List (List Char) := ["1", "on", "t", "true", "y", "yes"].map String.toList

/-- The words for false, in lower case. -/
def falseWords : List (List Char) := ["0", "off", "f", "false", "n", "no"].map String.toList

/-- The truth value that a text says, in whatever case its ASCII letters
are. -/
def readTruthText (text : List Char) : Except Complaint Bool :=
  let word := text.map Char.toLower
  if trueWords.contains word then .ok true
  else if falseWords.contains word then .ok false
  else .error .truthUnclear

/-! ## Whole numbers -/

/-- What is wrong with a text that is no numeral. -/
def complaintOf : Numeral.Fault → Complaint
  | .unclear => .numberUnclear
  | .tooLong => .numberTooLong

/-- The whole number that a text says. -/
def readNumberText (text : List Char) : Except Complaint Int :=
  (Numeral.read text).mapError complaintOf

end Value

end Dicebag
