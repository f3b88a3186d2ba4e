import Dicebag.Text.Printable

/-!
# Dicebag.Text.Quoted

Quoted text, as messages show it.  The quote is the apostrophe, and the
double quote where the text holds an apostrophe and no double quote.
Inside, the quote in use and the backslash are escaped, as are the
characters without a visible form: tab, line feed and carriage return by
a letter, the others by their code point in two, four or eight
hexadecimal digits.
-/

namespace Dicebag.Text

/-- The quote that a text is put into. -/
def quoteMark (text : List Char) : Char :=
  if text.contains '\'' && !text.contains '"' then '"' else '\''

/-- The hexadecimal digits of `n`, filled up to `width` with zeros. -/
def hexDigits (width n : Nat) : List Char :=
  let digits := Nat.toDigits 16 n
  List.replicate (width - digits.length) '0' ++ digits

/-- A character by its code point, in the shortest of the three widths. -/
def escapeCode (n : Nat) : List Char :=
  if n < 0x100 then '\\' :: 'x' :: hexDigits 2 n
  else if n < 0x10000 then '\\' :: 'u' :: hexDigits 4 n
  else '\\' :: 'U' :: hexDigits 8 n

/-- How one character is written between two quotes `mark`. -/
def escape (mark c : Char) : List Char :=
  if c = mark ∨ c = '\\' then ['\\', c]
  else if c = '\t' then ['\\', 't']
  else if c = '\n' then ['\\', 'n']
  else if c = '\r' then ['\\', 'r']
  else if isPrintable c then [c]
  else escapeCode c.toNat

/-- The characters of a text in quotes. -/
def quoteChars (text : List Char) : List Char :=
  let mark := quoteMark text
  mark :: text.flatMap (escape mark) ++ [mark]

/-- A text in quotes. -/
def quote (text : String) : String := String.ofList (quoteChars text.toList)

end Dicebag.Text
