import Dicebag.Expression.Basic
import Dicebag.Text.Cut

/-!
# Dicebag.Expression.Parser

Reading dice expressions such as `2d6+1!5`:

```
expression  =  [count d] faces [sign modifier] [! [threshold]]
```

Plain spaces are ignored wherever they stand.  The text is cut from its
end — the threshold behind the last `!`, the modifier from the last sign
on, and the dice at their first `d` or `D` — and the pieces are then read
from the front, so the first piece that is wrong names the error.

* `Pieces.ofChars` — the cuts;
* `Pieces.read` — the readings, in their order.
-/

namespace Dicebag

/-- The pieces of an expression's text, not yet read. -/
structure Pieces where
  /-- What stands before the first `d`: the number of dice, or the faces
  if there is no `d`. -/
  lead : List Char
  /-- What stands behind the first `d`. -/
  faces : Option (List Char)
  /-- The modifier with its sign. -/
  modifier : Option (List Char)
  /-- What stands behind the exclamation mark. -/
  threshold : Option (List Char)
  deriving DecidableEq

namespace Pieces

/-! ## Cutting -/

/-- The letter between the number of dice and their faces. -/
def isDie (c : Char) : Bool := c == 'd' || c == 'D'

/-- The signs that start a modifier. -/
def isSign (c : Char) : Bool := c == '+' || c == '-'

/-- The mark that starts a threshold. -/
def isBang (c : Char) : Bool := c == '!'

/-- A text without its plain spaces. -/
def withoutSpaces (text : List Char) : List Char := text.filter (· != ' ')

/-- Cuts off the threshold. -/
def cutThreshold (text : List Char) : List Char × Option (List Char) :=
  match Text.cutLast? isBang text with
  | some (body, _, threshold) => (body, some threshold)
  | none => (text, none)

/-- Cuts off the modifier, which keeps its sign. -/
def cutModifier (body : List Char) : List Char × Option (List Char) :=
  match Text.cutLast? isSign body with
  | some (core, sign, digits) => (core, some (sign :: digits))
  | none => (body, none)

/-- Cuts the dice into their number and their faces. -/
def cutDice (core : List Char) : List Char × Option (List Char) :=
  match Text.cutFirst? isDie core with
  | some (lead, _, faces) => (lead, some faces)
  | none => (core, none)

/-- The pieces of a text. -/
def ofChars (text : List Char) : Pieces :=
  let (body, threshold) := cutThreshold (withoutSpaces text)
  let (core, modifier) := cutModifier body
  let (lead, faces) := cutDice core
  ⟨lead, faces, modifier, threshold⟩

/-! ## Reading -/

/-- Reads one piece, and names it where it is no number. -/
def readPiece {α : Type} (reader : List Char → Except Decimal.ReadError α) (piece : List Char) :
    Except ParseError α :=
  (reader piece).mapError fun cause => .number (String.ofList piece) (some cause)

/-- The number of dice and their faces.  Faces alone are one die; a
second `d` is noticed once the first piece is known to be a number. -/
def readDice (p : Pieces) : Except ParseError (Nat × Nat) :=
  if p.lead = [] then .error .empty
  else do
    let lead ← readPiece Decimal.readNatural p.lead
    match p.faces with
    | none => pure (1, lead)
    | some piece =>
      if piece.any isDie then .error .tooManySegments
      else do
        let faces ← readPiece Decimal.readNatural piece
        pure (lead, faces)

/-- The modifier, zero if there is none. -/
def readModifier (p : Pieces) : Except ParseError Int :=
  match p.modifier with
  | none => pure 0
  | some piece => readPiece Decimal.readSigned piece

/-- The threshold, if there is one.  An exclamation mark alone is the
threshold zero, which stands for the highest face. -/
def readThreshold (p : Pieces) : Except ParseError (Option Int) :=
  match p.threshold with
  | none => pure none
  | some [] => pure (some 0)
  | some piece => do
    let threshold ← readPiece Decimal.readNatural piece
    pure (some (threshold : Int))

/-- Reads the pieces: the dice, the modifier, the threshold, and last
whether the die can be rolled. -/
def read (p : Pieces) : Except ParseError Expression := do
  let (count, faces) ← p.readDice
  let modifier ← p.readModifier
  let threshold ← p.readThreshold
  Expression.make count faces modifier threshold

end Pieces

/-- Reads the characters of an expression. -/
def Expression.ofChars (text : List Char) : Except ParseError Expression :=
  (Pieces.ofChars text).read

/-- Reads an expression. -/
def Expression.parse (text : String) : Except ParseError Expression :=
  Expression.ofChars text.toList

end Dicebag
