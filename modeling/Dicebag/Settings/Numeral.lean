import Dicebag.Decimal
import Dicebag.Text.Blank
import Dicebag.Text.Cut

/-!
# Dicebag.Settings.Numeral

Numerals: whole numbers as they are written in settings.  A plain numeral
has digits with no zero before them, and a minus sign if it is negative.
A text that is no plain numeral is tidied and gets a second chance:

* white space around it goes;
* so does a decimal point that only zeros follow, one at least;
* so does a plus sign;
* so do leading zeros, together with the underscores among them;
* so does each underscore that has something else on either side.

The zeros that go can uncover a minus sign, which then counts: `0-7` and
`0__-7` tidy up to `-7`.

Only digits that open a text can be too many.  A text that needs tidying
and has too many digits after it is just unclear, as if it were no number
at all.
-/

namespace Dicebag.Numeral

/-- Why a text is not read as a numeral. -/
inductive Fault where
  /-- It does not say a whole number. -/
  | unclear
  /-- It starts with too many digits. -/
  | tooLong
  deriving DecidableEq

/-! ## Plain numerals -/

/-- The number that plain digits come to.  Too many digits at the start
are refused as that, whatever follows them. -/
def readUnsigned (text : List Char) : Except Fault Nat :=
  let digits := text.takeWhile Char.isDigit
  if text = ['0'] then .ok 0
  else if digits = [] ∨ digits.head? = some '0' then .error .unclear
  else if Decimal.maxDigits < digits.length then .error .tooLong
  else if digits = text then .ok (Nat.ofDigitChars 10 digits 0)
  else .error .unclear

/-- The number that a plain numeral says. -/
def readPlain : List Char → Except Fault Int
  | '-' :: digits => (readUnsigned digits).map fun n : Nat => -(n : Int)
  | digits => (readUnsigned digits).map fun n : Nat => (n : Int)

/-! ## Tidying -/

/-- Cuts off a decimal point and the zeros behind it, of which there must
be one at least. -/
def cutFraction? (text : List Char) : Option (List Char) :=
  match Text.cutFirst? (· == '.') text with
  | none => some text
  | some (whole, _, zeros) =>
    if zeros ≠ [] ∧ zeros.all (· == '0') then some whole else none

/-- Leading zeros and the underscores among them are dropped, up to a
digit or a minus sign.  Of a text of nothing else the last character
stays. -/
def dropZeros? : List Char → Option (List Char)
  | [] => none
  | c :: rest =>
    if c = '0' then
      match rest.dropWhile (fun c => c == '0' || c == '_') with
      | [] => some [rest.getLastD '0']
      | d :: more => if d.isDigit || d == '-' then some (d :: more) else none
    else if c.isDigit then some (c :: rest)
    else none

/-- Whether no underscore of a text is its last character or stands
before another. -/
def isGrouped : List Char → Bool
  | [] => true
  | ['_'] => false
  | '_' :: '_' :: _ => false
  | _ :: rest => isGrouped rest

/-- The text without its underscores, each of which must have something
else on either side. -/
def ungroup? (text : List Char) : Option (List Char) :=
  if text.head? ≠ some '_' ∧ isGrouped text then some (text.filter (· != '_')) else none

/-- A text without all that is tidied away. -/
def tidy? (text : List Char) : Option (List Char) :=
  match cutFraction? (Text.trim Text.isSpace text) with
  | none => none
  | some ('-' :: digits) => ((dropZeros? digits).bind ungroup?).map ('-' :: ·)
  | some ('+' :: digits) => (dropZeros? digits).bind ungroup?
  | some digits => (dropZeros? digits).bind ungroup?

/-! ## Reading -/

/-- The whole number that a text says. -/
def read (text : List Char) : Except Fault Int :=
  match readPlain text with
  | .ok n => .ok n
  | .error .tooLong => .error .tooLong
  | .error .unclear =>
    match tidy? text with
    | none => .error .unclear
    | some tidied => (readPlain tidied).mapError fun _ => .unclear

end Dicebag.Numeral
