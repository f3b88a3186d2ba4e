/-!
# Dicebag.Text.Plain

Texts without control sequences, the marks that set colours and move the
cursor on a terminal.  A control sequence is an escape character, an
opening bracket, any number of digits, semicolons and question marks, and
a letter.  All that is no control sequence stays, a lone escape character
too.
-/

namespace Dicebag.Text

/-- The characters between the bracket and the letter of a control
sequence. -/
def isParameter (c : Char) : Bool := c.isDigit || c == ';' || c == '?'

/-- The text behind the control sequence that a text starts with. -/
def skipControl? : List Char → Option (List Char)
  | '\x1b' :: '[' :: text =>
    match text.dropWhile isParameter with
    | c :: rest => if c.isAlpha then some rest else none
    | [] => none
  | _ => none

theorem length_lt_of_skipControl? {text rest : List Char} (h : skipControl? text = some rest) :
    rest.length < text.length := by
  unfold skipControl? at h
  split at h
  · rename_i text
    have hle := (List.dropWhile_suffix isParameter (l := text)).length_le
    split at h
    · rename_i heq
      rw [heq] at hle
      split at h
      · cases h
        simp only [List.length_cons] at hle ⊢
        omega
      · cases h
    · cases h
  · cases h

/-- The characters of a text without its control sequences. -/
def plainChars (text : List Char) : List Char :=
  match _h : skipControl? text with
  | some rest => plainChars rest
  | none =>
    match text with
    | [] => []
    | c :: rest => c :: plainChars rest
termination_by text.length
decreasing_by
  · exact length_lt_of_skipControl? (by assumption)
  · exact Nat.lt_succ_self _

/-- A text without its control sequences. -/
def plain (text : String) : String := String.ofList (plainChars text.toList)

/-- A text without escape characters is plain. -/
theorem plainChars_eq_self {text : List Char} (h : '\x1b' ∉ text) : plainChars text = text := by
  induction text with
  | nil => unfold plainChars; simp [skipControl?]
  | cons c rest ih =>
    have hc : c ≠ '\x1b' := fun e => h (e ▸ List.mem_cons_self)
    have hskip : skipControl? (c :: rest) = none := by
      unfold skipControl?
      split
      · rename_i heq
        cases heq
        exact absurd rfl hc
      · rfl
    unfold plainChars
    split
    · rename_i heq
      rw [hskip] at heq
      cases heq
    · exact congrArg (c :: ·) (ih fun hmem => h (List.mem_cons_of_mem _ hmem))

end Dicebag.Text
