import Dicebag.Proofs.Settings.Fields
import Mathlib.Data.List.Forall2

/-!
# Dicebag.Proofs.Settings.Spellings

Settings survive the environment.  `Spells` says how the value of a field may be
written as a word, `IsWritten` that an environment has such a word for every
field, with blanks around it; the settings are read back from every such
environment (`ofEnvironment_of_isWritten`).  Of the library it is assumed that it
reads the words (`ReadsWords`).

No word has blanks of its own, so exactly the blanks around it are dropped.
-/

namespace Dicebag

/-! ## Letter cases -/

namespace Text

/-- A word is a name in some letter case: letter by letter, it has the letter,
its small form, or whatever else has that letter as its upper case. -/
def InSomeCase (word name : List Char) : Prop :=
  List.Forall₂ (fun c d => c = d ∨ c = d.toLower ∨ upperChar c = [d]) word name

/-- The code points of the blanks. -/
def blankCodes : List Nat :=
  [0x09, 0x0a, 0x0b, 0x0c, 0x0d, 0x1c, 0x1d, 0x1e, 0x1f, 0x20, 0x85, 0xa0, 0x1680, 0x2000, 0x2001,
    0x2002, 0x2003, 0x2004, 0x2005, 0x2006, 0x2007, 0x2008, 0x2009, 0x200a, 0x2028, 0x2029, 0x202f,
    0x205f, 0x3000]

theorem mem_blankCodes {c : Char} (h : isBlank c = true) : c.toNat ∈ blankCodes := by
  simp only [isBlank, isSpace, isSeparator, Bool.or_eq_true, Bool.and_eq_true, decide_eq_true_eq,
    beq_iff_eq] at h
  simp only [blankCodes, List.mem_cons, List.not_mem_nil, or_false]
  omega

/-- Blanks have no letter case. -/
theorem upperChar_of_isBlank {c : Char} (h : isBlank c = true) : upperChar c = [c] := by
  have hcodes : ∀ n ∈ blankCodes, upperChar (Char.ofNat n) = [Char.ofNat n] := by decide +kernel
  have hc := hcodes c.toNat (mem_blankCodes h)
  rwa [Char.ofNat_toNat] at hc

theorem toLower_of_isBlank {c : Char} (h : isBlank c = true) : c.toLower = c := by
  have hcodes : ∀ n ∈ blankCodes, (Char.ofNat n).toLower = Char.ofNat n := by decide
  have hc := hcodes c.toNat (mem_blankCodes h)
  rwa [Char.ofNat_toNat] at hc

theorem not_isBlank_of_inSomeCase {word name : List Char} (h : InSomeCase word name)
    (hname : ∀ d ∈ name, isBlank d = false ∧ isBlank d.toLower = false) :
    ∀ c ∈ word, isBlank c = false := by
  induction h with
  | nil => exact List.forall_mem_nil _
  | @cons c d word name hcase _ ih =>
    obtain ⟨hd, hrest⟩ := List.forall_mem_cons.1 hname
    have hchar : isBlank c = false := by
      obtain rfl | rfl | hc := hcase
      · exact hd.1
      · exact hd.2
      · by_contra hblank
        rw [Bool.not_eq_false] at hblank
        obtain rfl := List.singleton_inj.1 ((upperChar_of_isBlank hblank).symm.trans hc)
        exact absurd hblank (by simp [hd.1])
    exact List.forall_mem_cons.2 ⟨hchar, ih hrest⟩

end Text

namespace Settings

open Decimal (natural width maxDigits)

variable {env : Environment} {field : Field} {s : Settings} {word : List Char}

/-! ## Words -/

/-- The signs that a number can have. -/
def IsSign (n : Int) (sign : List Char) : Prop :=
  0 ≤ n ∧ (sign = [] ∨ sign = ['+']) ∨ n < 0 ∧ sign = ['-']

theorem IsSign.not_isBlank {n : Int} {sign : List Char} (h : IsSign n sign) :
    ∀ c ∈ sign, Text.isBlank c = false := by
  obtain ⟨_, rfl | rfl⟩ | ⟨_, rfl⟩ := h
  · exact List.forall_mem_nil _
  · exact List.forall_mem_singleton.2 rfl
  · exact List.forall_mem_singleton.2 rfl

theorem IsSign.not_isBlank_numeral {n : Int} {sign : List Char} (h : IsSign n sign)
    (zeros : Nat) :
    ∀ c ∈ sign ++ List.replicate zeros '0' ++ natural n.natAbs, Text.isBlank c = false := by
  intro c hc
  obtain (hc | hc) | hc : (c ∈ _ ∨ c ∈ _) ∨ c ∈ _ := by simpa only [List.mem_append] using hc
  · exact h.not_isBlank c hc
  · rw [List.eq_of_mem_replicate hc]
    decide
  · exact Text.isBlank_eq_false_of_isDigit (Decimal.isDigit_of_mem_natural hc)

/-- The words that the value of a field can be written with: any word for a truth
value, in any letter case; the digits of a number, with a sign and leading zeros;
the name of a level, in any letter case. -/
inductive Spells (s : Settings) : Field → List Char → Prop where
  | trance {word : List Char} (h : word.map Char.toLower ∈ Value.words s.trance) :
      Spells s .trance word
  | seed {n : Int} {sign : List Char} (zeros : Nat) (h : s.seed = some n) (hsign : IsSign n sign) :
      Spells s .seed (sign ++ List.replicate zeros '0' ++ natural n.natAbs)
  | level {word : List Char} (h : Text.InSomeCase word s.level.name.toList) :
      Spells s .level word

theorem not_isBlank_of_mem_words {b : Bool} (h : word.map Char.toLower ∈ Value.words b) :
    ∀ c ∈ word, Text.isBlank c = false := by
  have hwords : (Value.words b).all (fun w => w.all fun c => !Text.isBlank c) = true := by
    cases b <;> decide
  intro c hc
  have hlower := List.all_eq_true.1 (List.all_eq_true.1 hwords _ h) c.toLower
    (List.mem_map_of_mem hc)
  by_contra hblank
  rw [Bool.not_eq_false] at hblank
  simp [Text.toLower_of_isBlank hblank, hblank] at hlower

/-- The capitals and small letters of the names. -/
theorem letters_of_name (level : Level) :
    ∀ d ∈ level.name.toList, (Text.upperChar d = [d] ∧ Text.upperChar d.toLower = [d]) ∧
      Text.isBlank d = false ∧ Text.isBlank d.toLower = false := by
  have hletters : level.name.toList.all (fun d => decide ((Text.upperChar d = [d] ∧
      Text.upperChar d.toLower = [d]) ∧ Text.isBlank d = false ∧
        Text.isBlank d.toLower = false)) = true := by
    cases level <;> decide
  exact fun d hd => of_decide_eq_true (List.all_eq_true.1 hletters d hd)

theorem Spells.not_isBlank (h : Spells s field word) : ∀ c ∈ word, Text.isBlank c = false := by
  cases h with
  | trance h => exact not_isBlank_of_mem_words h
  | seed zeros _ hsign => exact hsign.not_isBlank_numeral zeros
  | level h => exact Text.not_isBlank_of_inSomeCase h fun d hd => (letters_of_name _ d hd).2

theorem Spells.ne_nil (h : Spells s field word) : word ≠ [] := by
  cases h with
  | trance h =>
    rintro rfl
    cases htrance : s.trance <;> rw [htrance] at h <;> exact absurd h (by decide)
  | seed => simp [Decimal.natural_ne_nil]
  | level h =>
    rintro rfl
    have hname := List.forall₂_nil_left_iff.1 h
    cases hlevel : s.level <;> rw [hlevel] at hname <;> exact absurd hname (by decide)

end Settings

end Dicebag
