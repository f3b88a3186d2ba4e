import Dicebag.Decimal

/-!
# Dicebag.Roll.Basic

What a roll came to: the values of the dice in the end, those of
explosions among them.  Its text is the total, at least three characters
wide, and unless there is exactly one die the values behind it:

```
 15 = (6 + 5 + 4)
```
-/

namespace Dicebag

/-- The values of the dice in the end. -/
structure Roll where
  values : List Int
  deriving DecidableEq

namespace Roll

/-- The sum of the values. -/
def total (r : Roll) : Int := r.values.foldl (· + ·) 0

/-- A text filled up to three characters with spaces before it. -/
def padded (text : List Char) : List Char := List.replicate (3 - text.length) ' ' ++ text

/-- The values with plus signs between them. -/
def breakdown (values : List Int) : List Char :=
  [' ', '+', ' '].intercalate (values.map Decimal.integer)

/-- The characters of a roll. -/
def chars (r : Roll) : List Char :=
  match r.values with
  | [_] => padded (Decimal.integer r.total)
  | values =>
    padded (Decimal.integer r.total) ++ [' ', '=', ' ', '('] ++ breakdown values ++ [')']

/-- The numbers that a roll shows. -/
def numbers (r : Roll) : List Int :=
  match r.values with
  | [_] => [r.total]
  | values => r.total :: values

/-- The text of a roll, unless one of its numbers is too long. -/
def render (r : Roll) : Except Decimal.WriteError String := Decimal.render r.numbers r.chars

end Roll

end Dicebag
