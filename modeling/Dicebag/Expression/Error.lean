import Dicebag.Decimal

/-!
# Dicebag.Expression.Error

What can be wrong with a dice expression.  A piece of the text that is no
number is kept with the error, together with the reason it was not read.
-/

namespace Dicebag

/-- Why a text or a choice of numbers is no dice expression. -/
inductive ParseError where
  /-- Nothing more is known than that it is none. -/
  | unspecified
  /-- There is nothing where the dice should stand. -/
  | empty
  /-- The die has fewer than two faces, so it cannot be rolled. -/
  | tooFewFaces
  /-- The dice are written with more than one `d`. -/
  | tooManySegments
  /-- The piece `text` is no number; `cause` is absent if nobody tried to
  read it. -/
  | number (text : String) (cause : Option Decimal.ReadError)
  deriving DecidableEq

namespace ParseError

/-- The wording of an error. -/
def message : ParseError → String
  | .unspecified => "Invalid dice expression"
  | .empty => "Empty expression"
  | .tooFewFaces => "Huh? A die needs at least two faces"
  | .tooManySegments => "Expression has too many segments"
  | .number text _ => "invalid number: " ++ Text.quote text

/-- The wording of an error that was given one of its own: an empty one
counts as none, and what is said of a number is always said. -/
def messageOr (e : ParseError) (wording : String) : String :=
  match e with
  | .number _ _ => e.message
  | _ => if wording = "" then e.message else wording

end ParseError

end Dicebag
