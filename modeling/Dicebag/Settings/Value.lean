import Dicebag.Library

/-!
# Dicebag.Settings.Value

Values as settings are given them, and how a truth value or a whole
number is read from one.  What a text says is up to the library.  A binary
fraction counts where it is whole and not beyond 64 bits.
-/

namespace Dicebag

/-- A value that a setting is given. -/
inductive Value where
  | null
  | bool (b : Bool)
  | int (n : Int)
  /-- A number that is not written as a whole number, in binary:
  `mantissa * 2 ^ exponent`. -/
  | real (mantissa exponent : Int)
  /-- What is written as a number and is infinite, or none at all. -/
  | nonfinite
  | text (s : List Char)
  /-- Anything with parts of its own. -/
  | compound
  deriving DecidableEq

namespace Value

/-! ## Binary numbers -/

/-- Whether a whole number has a place among the signed numbers of 64
bits. -/
def isWord (n : Int) : Bool := -0x8000000000000000 ≤ n && n < 0x8000000000000000

/-- The whole number that a binary fraction is, if it is one. -/
def whole? (mantissa exponent : Int) : Option Int :=
  if 0 ≤ exponent then some (mantissa * Nat.pow 2 exponent.toNat)
  else
    let scale : Int := Nat.pow 2 (-exponent).toNat
    if mantissa % scale = 0 then some (mantissa / scale) else none

/-- Whether a whole binary fraction counts: it lies strictly between the
ends of the signed numbers of 64 bits. -/
def counts (n : Int) : Bool := -0x8000000000000000 < n && n < 0x8000000000000000

/-! ## Truth values -/

/-- The truth value of a number: zero says false and one says true. -/
def truthOf (n : Int) : Except Complaint Bool :=
  if n = 0 then .ok false else if n = 1 then .ok true else .error .truthUnclear

/-- The truth value that a value says. -/
def readTruth [Library] : Value → Except Complaint Bool
  | .bool b => .ok b
  | .int n => if isWord n then truthOf n else .error .truthType
  | .real mantissa exponent =>
    match whole? mantissa exponent with
    | some n => if counts n then truthOf n else .error .truthType
    | none => .error .truthType
  | .text s => Library.truth s
  | .null | .nonfinite | .compound => .error .truthType

/-! ## Whole numbers -/

/-- The whole number that a value says, if it is not null. -/
def readNumber [Library] : Value → Except Complaint (Option Int)
  | .null => .ok none
  | .bool b => .ok (some (if b then 1 else 0))
  | .int n => .ok (some n)
  | .real mantissa exponent =>
    match whole? mantissa exponent with
    | some n => if counts n then .ok (some n) else .error .numberTooLong
    | none => .error .numberFractional
  | .nonfinite => .error .numberNotFinite
  | .text s => (Library.number s).map some
  | .compound => .error .numberType

end Value

end Dicebag
