import Dicebag.Expression.Basic

/-!
# Dicebag.Expression.Printer

The canonical text of an expression: the number of dice is always given,
the modifier if it is not zero, the threshold if there is one.
-/

namespace Dicebag.Expression

/-- The characters of an expression. -/
def chars (e : Expression) : List Char :=
  Decimal.integer e.count ++ 'd' :: Decimal.integer e.faces
    ++ (if e.modifier = 0 then [] else Decimal.signed e.modifier)
    ++ (match e.threshold with
      | none => []
      | some threshold => '!' :: Decimal.integer threshold)

/-- The numbers that an expression shows. -/
def numbers (e : Expression) : List Int :=
  e.count :: e.faces :: e.modifier :: e.threshold.toList

/-- The text of an expression, unless one of its numbers is too long. -/
def render (e : Expression) : Except Decimal.WriteError String :=
  Decimal.render e.numbers e.chars

end Dicebag.Expression
