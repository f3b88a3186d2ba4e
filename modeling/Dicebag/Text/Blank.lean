/-!
# Dicebag.Text.Blank

White space, and texts without it at their ends.  There are two classes:
white space in the sense of Unicode, and blanks, which are that and the
four separator controls `U+001C` to `U+001F`.  The zero-width space and
the byte order mark belong to neither.
-/

namespace Dicebag.Text

/-! ## Classes -/

/-- Whether a character is white space. -/
def isSpace (c : Char) : Bool :=
  let n := c.toNat
  (0x09 ≤ n && n ≤ 0x0d) || n == 0x20 || n == 0x85 || n == 0xa0 || n == 0x1680
    || (0x2000 ≤ n && n ≤ 0x200a) || n == 0x2028 || n == 0x2029 || n == 0x202f || n == 0x205f
    || n == 0x3000

/-- Whether a character is one of the four separator controls. -/
def isSeparator (c : Char) : Bool := 0x1c ≤ c.toNat && c.toNat ≤ 0x1f

/-- Whether a character is blank: white space or a separator. -/
def isBlank (c : Char) : Bool := isSpace c || isSeparator c

/-! ## Ends of texts -/

/-- The text without the characters of a class at its end. -/
def trimEnd (drop : Char → Bool) (text : List Char) : List Char :=
  (text.reverse.dropWhile drop).reverse

/-- The text without the characters of a class at its two ends. -/
def trim (drop : Char → Bool) (text : List Char) : List Char :=
  trimEnd drop (text.dropWhile drop)

/-- The text without the blanks at its end. -/
def stripEnd (text : List Char) : List Char := trimEnd isBlank text

/-- The text without the blanks at its two ends. -/
def strip (text : List Char) : List Char := trim isBlank text

end Dicebag.Text
