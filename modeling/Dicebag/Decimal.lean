import Dicebag.Text.Quoted

/-!
# Dicebag.Decimal

Whole numbers as decimal text.  Writing gives a minus sign where there is
one to give and no leading zeros; reading takes a non-empty run of ASCII
digits, leading zeros allowed.

Both directions share one bound, `maxDigits`: a run of more digits is not
read and a number of more digits is not written.  Reading counts the
digits as they stand, so leading zeros count and a sign does not.

* `ofDigitChars_natural` — a natural number's digits read back as that number;
* `fits_natCast_iff` — the bound on numbers is the bound on their digits.
-/

namespace Dicebag.Decimal

/-- The most digits a number may have where it is read from text or
written as text. -/
def maxDigits : Nat := 4300

/-! ## Failures -/

/-- Why a text is not read as a number. -/
inductive ReadError where
  /-- The text is not a run of digits. -/
  | malformed (text : String)
  /-- The text has this many digits, which is more than `maxDigits`. -/
  | tooLong (digits : Nat)
  deriving DecidableEq

/-- Why a number is not written as text: it has more than `maxDigits`
digits. -/
inductive WriteError where
  | tooLong
  deriving DecidableEq

/-- The wording for a number whose digits exceed the bound; `detail` says
more where more is known. -/
def tooLongMessage (detail : String) : String :=
  "Exceeds the limit (4300 digits) for integer string conversion" ++ detail
    ++ "; use sys.set_int_max_str_digits() to increase the limit"

/-- The wording of a failure to read; the text in question is quoted. -/
def ReadError.message : ReadError → String
  | .malformed text => "invalid literal for int(): " ++ Text.quote text
  | .tooLong digits =>
    tooLongMessage (": value has " ++ String.ofList (Nat.toDigits 10 digits) ++ " digits")

/-- The wording of a failure to write. -/
def WriteError.message : WriteError → String
  | .tooLong => tooLongMessage ""

/-! ## Writing -/

/-- The digits of a natural number, most significant first. -/
def natural (n : Nat) : List Char := Nat.toDigits 10 n

/-- The text of a number: its digits, after a minus sign if it is
negative. -/
def integer : Int → List Char
  | .ofNat n => natural n
  | .negSucc n => '-' :: natural (n + 1)

/-- The text of a number that always shows its sign. -/
def signed : Int → List Char
  | .ofNat n => '+' :: natural n
  | .negSucc n => '-' :: natural (n + 1)

/-- Whether a number is short enough to be written. -/
def fits (n : Int) : Bool := n.natAbs < Nat.pow 10 maxDigits

/-- The finished text of something that shows `numbers`: refused as soon
as one of them is too long. -/
def render (numbers : List Int) (text : List Char) : Except WriteError String :=
  if numbers.all fits then .ok (String.ofList text) else .error .tooLong

/-! ## Reading -/

/-- Reads `digits`, naming `text` where they are no number. -/
def readDigits (text digits : List Char) : Except ReadError Nat :=
  if digits = [] ∨ digits.all Char.isDigit = false then .error (.malformed (String.ofList text))
  else if maxDigits < digits.length then .error (.tooLong digits.length)
  else .ok (Nat.ofDigitChars 10 digits 0)

/-- Reads a run of digits. -/
def readNatural (text : List Char) : Except ReadError Nat := readDigits text text

/-- Reads a plus or minus sign and a run of digits after it. -/
def readSigned (text : List Char) : Except ReadError Int :=
  match text with
  | '+' :: digits => (readDigits text digits).map fun n : Nat => (n : Int)
  | '-' :: digits => (readDigits text digits).map fun n : Nat => -(n : Int)
  | _ => .error (.malformed (String.ofList text))

/-! ## Laws -/

theorem natural_ne_nil (n : Nat) : natural n ≠ [] := Nat.toDigits_ne_nil

theorem isDigit_of_mem_natural {n : Nat} {c : Char} (h : c ∈ natural n) : c.isDigit :=
  Nat.isDigit_of_mem_toDigits (by decide) (by decide) h

theorem ofDigitChars_natural (n : Nat) : Nat.ofDigitChars 10 (natural n) 0 = n :=
  Nat.ofDigitChars_ten_toDigits

theorem fits_natCast_iff (n : Nat) : fits n = true ↔ (natural n).length ≤ maxDigits := by
  rw [natural, Nat.length_toDigits_le_iff (by decide) (by decide)]
  simp [fits]

/-- A run of digits is read exactly when it is not empty and within the
bound. -/
theorem readNatural_eq_ok_iff {text : List Char} {n : Nat} :
    readNatural text = .ok n ↔
      text ≠ [] ∧ (∀ c ∈ text, c.isDigit) ∧ text.length ≤ maxDigits ∧
        Nat.ofDigitChars 10 text 0 = n := by
  unfold readNatural readDigits
  split
  · rename_i h
    rcases h with rfl | h
    · simp
    · simp only [reduceCtorEq, false_iff, not_and]
      intro _ hall
      rw [List.all_eq_true.2 hall] at h
      simp at h
  · rename_i h
    rw [not_or, Bool.not_eq_false, List.all_eq_true] at h
    split
    · simp only [reduceCtorEq, false_iff, not_and]
      omega
    · rename_i hlen
      simp only [Except.ok.injEq]
      exact ⟨fun e => ⟨h.1, h.2, by omega, e⟩, fun e => e.2.2.2⟩

/-- What is written is read back. -/
theorem readNatural_natural {n : Nat} (h : fits n) : readNatural (natural n) = .ok n :=
  readNatural_eq_ok_iff.2
    ⟨natural_ne_nil n, fun _ => isDigit_of_mem_natural, (fits_natCast_iff n).1 h,
      ofDigitChars_natural n⟩

end Dicebag.Decimal
