import Dicebag.Expression.Printer
import Dicebag.Roll.Basic

/-!
# Dicebag.CommandLine.Output

What a run prints of its rolls: a line for each, behind the expression as
it was written if there is more than one, or a JSON document with a
record for each.

In a record the expression stands in its canonical form, whose characters
need no escapes.
-/

namespace Dicebag

/-- An expression that was rolled: as it was written, as it was read, and
what it came to. -/
structure Rolled where
  written : String
  expression : Expression
  roll : Roll

/-- Expressions that were rolled, from how they were written, how they
were read, and what they came to. -/
def Rolled.ofLists (written : List String) (expressions : List Expression) (rolls : List Roll) :
    List Rolled :=
  (written.zip (expressions.zip rolls)).map fun (written, e, r) => ⟨written, e, r⟩

namespace Output

/-! ## Lines -/

/-- The line of one roll; `labelled` tells whether the expression stands
before it. -/
def line (labelled : Bool) (r : Rolled) : List Char :=
  (if labelled then r.written.toList ++ [':', ' '] else []) ++ r.roll.chars ++ ['\n']

/-- The lines of all rolls. -/
def lines (rolled : List Rolled) : List Char :=
  rolled.flatMap (line (decide (1 < rolled.length)))

/-- The numbers that the lines show. -/
def lineNumbers (rolled : List Rolled) : List Int := rolled.flatMap fun r => r.roll.numbers

/-! ## Documents -/

/-- A line feed and spaces. -/
def newLine (spaces : Nat) : List Char := '\n' :: List.replicate spaces ' '

/-- Items in brackets, one to a line; `spaces` is where the brackets
stand. -/
def array (spaces : Nat) (items : List (List Char)) : List Char :=
  match items with
  | [] => ['[', ']']
  | items =>
    ['['] ++ [','].intercalate (items.map (newLine (spaces + 2) ++ ·)) ++ newLine spaces ++ [']']

/-- A field of a record. -/
def field (name : String) (value : List Char) : List Char :=
  newLine 4 ++ ['"'] ++ name.toList ++ ['"', ':', ' '] ++ value

/-- The record of one roll. -/
def record (r : Rolled) : List Char :=
  ['{'] ++ [','].intercalate
      [field "expression" (['"'] ++ r.expression.chars ++ ['"']),
        field "values" (array 4 (r.roll.values.map Decimal.integer)),
        field "total" (Decimal.integer r.roll.total)]
    ++ newLine 2 ++ ['}']

/-- The document of all rolls. -/
def document (rolled : List Rolled) : List Char := array 0 (rolled.map record) ++ ['\n']

/-- The numbers that the document shows. -/
def documentNumbers (rolled : List Rolled) : List Int :=
  rolled.flatMap fun r => r.expression.numbers ++ r.roll.total :: r.roll.values

/-! ## Either -/

/-- What is printed, unless a number in it is too long. -/
def render (json : Bool) (rolled : List Rolled) : Except Decimal.WriteError String :=
  if json then Decimal.render (documentNumbers rolled) (document rolled)
  else Decimal.render (lineNumbers rolled) (lines rolled)

end Output

end Dicebag
