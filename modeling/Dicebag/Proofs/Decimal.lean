import Dicebag.Decimal
import Dicebag.Proofs.Text.Separators

/-!
# Dicebag.Proofs.Decimal

Runs of digits and the numbers they stand for.  `IsRun` holds of the runs
that are read and `value` is what they are read as, place by place; the
two readers of `Dicebag.Decimal` are pinned down by them:

* `readNatural_eq_ok_iff_isRun` — a run and nothing else;
* `readSigned_eq_ok_iff` — a sign and a run behind it;
* `fits_value` — whatever was read is short enough to be written;
* `IsNumeral.natural_value` — what has no leading zero is written as it is read.
-/

namespace Dicebag.Decimal

/-! ## Runs of digits -/

/-- A run of digits that is read: there are digits, no other characters,
and not more than the bound allows. -/
structure IsRun (text : List Char) : Prop where
  ne_nil : text ≠ []
  isDigit : ∀ c ∈ text, c.isDigit
  length_le : text.length ≤ maxDigits

/-- The number that a run of digits stands for. -/
def value : List Char → Nat
  | [] => 0
  | c :: digits => (c.toNat - '0'.toNat) * Nat.pow 10 digits.length + value digits

theorem ofDigitChars_eq_value (digits : List Char) :
    Nat.ofDigitChars 10 digits 0 = value digits := by
  induction digits with
  | nil => rfl
  | cons c digits ih =>
    rw [Nat.ofDigitChars_cons, Nat.ofDigitChars_eq_ofDigitChars_zero, ih, value,
      Nat.mul_zero, Nat.zero_add, Nat.mul_comm, Nat.pow_eq]

theorem digit_le_nine {c : Char} (h : c.isDigit) : c.toNat - '0'.toNat ≤ 9 := by
  simp only [Char.isDigit, Bool.and_eq_true, decide_eq_true_eq, UInt32.le_iff_toNat_le] at h
  have hle : c.toNat ≤ 57 := h.2
  show c.toNat - 48 ≤ 9
  omega

theorem value_lt {digits : List Char} (h : ∀ c ∈ digits, c.isDigit) :
    value digits < Nat.pow 10 digits.length := by
  induction digits with
  | nil => exact Nat.one_pos
  | cons c digits ih =>
    have hc := digit_le_nine (h c List.mem_cons_self)
    have hrest := ih fun d hd => h d (List.mem_cons_of_mem c hd)
    calc
      value (c :: digits) <
          (c.toNat - '0'.toNat) * Nat.pow 10 digits.length + Nat.pow 10 digits.length :=
        Nat.add_lt_add_left hrest _
      _ = (c.toNat - '0'.toNat + 1) * Nat.pow 10 digits.length := (Nat.succ_mul _ _).symm
      _ ≤ 10 * Nat.pow 10 digits.length := Nat.mul_le_mul_right _ (by omega)
      _ = Nat.pow 10 (c :: digits).length := (Nat.pow_succ').symm

theorem value_lt_of_length_le {digits : List Char} {k : Nat} (h : ∀ c ∈ digits, c.isDigit)
    (hlength : digits.length ≤ k) : value digits < Nat.pow 10 k :=
  Nat.lt_of_lt_of_le (value_lt h) (Nat.pow_le_pow_right (by decide) hlength)

/-- The digits of a number are a run that stands for it. -/
theorem value_natural (n : Nat) : value (natural n) = n := by
  rw [← ofDigitChars_eq_value, ofDigitChars_natural]

/-! ## Widths -/

/-- How many digits a number has; its sign does not count. -/
def width (n : Int) : Nat := (natural n.natAbs).length

theorem fits_iff_width_le (n : Int) : fits n = true ↔ width n ≤ maxDigits := by
  rw [width, ← fits_natCast_iff, fits, fits, Int.natAbs_natCast]

theorem fits_zero : fits 0 = true := (fits_natCast_iff 0).2 (by decide)

theorem fits_one : fits 1 = true := (fits_natCast_iff 1).2 (by decide)

theorem fits_neg (n : Int) : fits (-n) = fits n := by
  rw [Bool.eq_iff_iff, fits_iff_width_le, fits_iff_width_le, width, width, Int.natAbs_neg]

theorem isRun_natural {n : Int} (h : width n ≤ maxDigits) : IsRun (natural n.natAbs) :=
  ⟨natural_ne_nil _, fun _ => isDigit_of_mem_natural, h⟩

/-- What a run stands for is short enough to be written: the leading
zeros of the run are not written, so only fewer digits can come out. -/
theorem fits_value {digits : List Char} (h : IsRun digits) : fits (value digits) = true := by
  have hlt : value digits < Nat.pow 10 maxDigits := value_lt_of_length_le h.isDigit h.length_le
  exact decide_eq_true hlt

/-! ## Written numbers -/

theorem render_eq_ok_iff {numbers : List Int} {text : List Char} {s : String} :
    render numbers text = .ok s ↔ (∀ n ∈ numbers, fits n = true) ∧ s = String.ofList text := by
  unfold render
  split
  · next hall =>
    rw [Except.ok.injEq, eq_comm]
    exact (and_iff_right (List.all_eq_true.1 hall)).symm
  · next hlong => exact ⟨nofun, fun h => absurd (List.all_eq_true.2 h.1) hlong⟩

theorem render_eq_error_iff {numbers : List Int} {text : List Char} {e : WriteError} :
    render numbers text = .error e ↔ ∃ n ∈ numbers, maxDigits < width n := by
  cases e
  unfold render
  split
  · next hall =>
    refine ⟨nofun, fun ⟨n, hn, hlong⟩ => ?_⟩
    have hfits := (fits_iff_width_le n).1 (List.all_eq_true.1 hall n hn)
    omega
  · next hlong => simpa [fits_iff_width_le] using hlong

theorem integer_of_nonneg {n : Int} (h : 0 ≤ n) : integer n = natural n.natAbs := by
  obtain ⟨k, rfl⟩ := Int.eq_ofNat_of_zero_le h
  rfl

theorem integer_of_neg {n : Int} (h : n < 0) : integer n = '-' :: natural n.natAbs := by
  obtain ⟨k, rfl⟩ := Int.eq_negSucc_of_lt_zero h
  rfl

theorem signed_of_nonneg {n : Int} (h : 0 ≤ n) : signed n = '+' :: natural n.natAbs := by
  obtain ⟨k, rfl⟩ := Int.eq_ofNat_of_zero_le h
  rfl

theorem signed_of_neg {n : Int} (h : n < 0) : signed n = '-' :: natural n.natAbs := by
  obtain ⟨k, rfl⟩ := Int.eq_negSucc_of_lt_zero h
  rfl

theorem head?_natural_ne_minus (n : Nat) : (natural n).head? ≠ some '-' := by
  intro h
  have hdigit := isDigit_of_mem_natural (List.mem_of_head? h)
  contradiction

theorem integer_ne_nil (n : Int) : integer n ≠ [] := by
  cases n with
  | ofNat n => exact natural_ne_nil n
  | negSucc n => exact List.cons_ne_nil _ _

theorem isDigit_or_eq_minus_of_mem_integer {n : Int} {c : Char} (h : c ∈ integer n) :
    c.isDigit ∨ c = '-' := by
  obtain hneg | hnonneg := Int.lt_or_le n 0
  · rw [integer_of_neg hneg] at h
    exact (List.mem_cons.1 h).elim .inr fun hc => .inl (isDigit_of_mem_natural hc)
  · rw [integer_of_nonneg hnonneg] at h
    exact .inl (isDigit_of_mem_natural h)

/-- Numbers with separators between them are written with digits, minus signs
and the characters of the separator. -/
theorem mem_intercalate_integers {c : Char} {separator : List Char} {values : List Int}
    (h : c ∈ separator.intercalate (values.map integer)) :
    c.isDigit ∨ c = '-' ∨ c ∈ separator := by
  obtain h | ⟨_, hpart, h⟩ := Text.mem_of_mem_intercalate h
  · exact .inr (.inr h)
  · obtain ⟨v, _, rfl⟩ := List.mem_map.1 hpart
    exact (isDigit_or_eq_minus_of_mem_integer h).imp_right .inl

/-! ## The readers -/

theorem readDigits_eq_ok_iff {text digits : List Char} {n : Nat} :
    readDigits text digits = .ok n ↔ IsRun digits ∧ value digits = n := by
  unfold readDigits
  split
  · next hbad =>
    refine ⟨nofun, fun ⟨hrun, _⟩ => ?_⟩
    obtain hnil | hall := hbad
    · exact absurd hnil hrun.ne_nil
    · rw [List.all_eq_true.2 hrun.isDigit] at hall
      contradiction
  · next hgood =>
    rw [not_or, Bool.not_eq_false, List.all_eq_true] at hgood
    split
    · next hlong => exact ⟨nofun, fun ⟨hrun, _⟩ => absurd hrun.length_le (by omega)⟩
    · next hshort =>
      rw [Except.ok.injEq, ofDigitChars_eq_value]
      exact ⟨fun h => ⟨⟨hgood.1, hgood.2, by omega⟩, h⟩, fun h => h.2⟩

/-- A natural number is read from a run of digits and from nothing else. -/
theorem readNatural_eq_ok_iff_isRun {text : List Char} {n : Nat} :
    readNatural text = .ok n ↔ IsRun text ∧ value text = n := readDigits_eq_ok_iff

theorem map_readDigits_eq_ok_iff {text digits : List Char} {f : Nat → Int} {m : Int} :
    (readDigits text digits).map f = .ok m ↔ IsRun digits ∧ m = f (value digits) := by
  cases h : readDigits text digits with
  | error e =>
    refine ⟨nofun, fun ⟨hrun, _⟩ => ?_⟩
    rw [readDigits_eq_ok_iff.2 ⟨hrun, rfl⟩] at h
    contradiction
  | ok n =>
    obtain ⟨hrun, rfl⟩ := readDigits_eq_ok_iff.1 h
    rw [Except.map, Except.ok.injEq, eq_comm]
    exact (and_iff_right hrun).symm

/-- A signed number is read from a sign and a run of digits behind it, and
from nothing else. -/
theorem readSigned_eq_ok_iff {text : List Char} {m : Int} :
    readSigned text = .ok m ↔
      ∃ digits, IsRun digits ∧
        (text = '+' :: digits ∧ m = value digits ∨ text = '-' :: digits ∧ m = -value digits) := by
  unfold readSigned
  split
  · next digits =>
    rw [map_readDigits_eq_ok_iff]
    constructor
    · intro ⟨hrun, hm⟩
      exact ⟨digits, hrun, .inl ⟨rfl, hm⟩⟩
    · intro h
      obtain ⟨_, hrun, ⟨htext, hm⟩ | ⟨htext, _⟩⟩ := h
      · obtain rfl := (List.cons.inj htext).2
        exact ⟨hrun, hm⟩
      · exact absurd (List.cons.inj htext).1 (by decide)
  · next digits =>
    rw [map_readDigits_eq_ok_iff]
    constructor
    · intro ⟨hrun, hm⟩
      exact ⟨digits, hrun, .inr ⟨rfl, hm⟩⟩
    · intro h
      obtain ⟨_, hrun, ⟨htext, _⟩ | ⟨htext, hm⟩⟩ := h
      · exact absurd (List.cons.inj htext).1 (by decide)
      · obtain rfl := (List.cons.inj htext).2
        exact ⟨hrun, hm⟩
  · next hplus hminus =>
    constructor
    · intro h
      cases h
    · intro h
      obtain ⟨digits, _, ⟨rfl, _⟩ | ⟨rfl, _⟩⟩ := h
      · exact absurd rfl (hplus digits)
      · exact absurd rfl (hminus digits)

theorem exists_readSigned_of_isRun {sign : Char} {digits : List Char}
    (hsign : sign = '+' ∨ sign = '-') (h : IsRun digits) :
    ∃ m, readSigned (sign :: digits) = .ok m := by
  obtain rfl | rfl := hsign
  · exact ⟨_, readSigned_eq_ok_iff.2 ⟨digits, h, .inl ⟨rfl, rfl⟩⟩⟩
  · exact ⟨_, readSigned_eq_ok_iff.2 ⟨digits, h, .inr ⟨rfl, rfl⟩⟩⟩

/-! ## Digits that are not read -/

/-- Why a text is not read whose digits are no run: there are too many of
them, or none, or something else among them. -/
def misreading (text digits : List Char) : ReadError :=
  if digits ≠ [] ∧ digits.all Char.isDigit = true then .tooLong digits.length
  else .malformed (String.ofList text)

theorem readDigits_of_not_isRun {text digits : List Char} (h : ¬ IsRun digits) :
    readDigits text digits = .error (misreading text digits) := by
  unfold readDigits misreading
  split
  · next hbad =>
    have hnot : ¬ (digits ≠ [] ∧ digits.all Char.isDigit = true) := by
      intro ⟨hne, hall⟩
      obtain hnil | hother := hbad
      · exact hne hnil
      · rw [hall] at hother
        contradiction
    rw [if_neg hnot]
  · next hgood =>
    rw [not_or, Bool.not_eq_false] at hgood
    rw [if_pos hgood]
    split
    · rfl
    · next hshort => exact absurd ⟨hgood.1, List.all_eq_true.1 hgood.2, by omega⟩ h

theorem readSigned_of_not_isRun {sign : Char} {digits : List Char}
    (hsign : sign = '+' ∨ sign = '-') (h : ¬ IsRun digits) :
    readSigned (sign :: digits) = .error (misreading (sign :: digits) digits) := by
  obtain rfl | rfl := hsign
  · simp only [readSigned, readDigits_of_not_isRun h, Except.map]
  · simp only [readSigned, readDigits_of_not_isRun h, Except.map]

/-- A minus sign is no digit, so a negative number is refused as it
stands. -/
theorem readNatural_integer_of_neg {n : Int} (h : n < 0) :
    readNatural (integer n) = .error (.malformed (String.ofList (integer n))) := by
  rw [integer_of_neg h, readNatural, readDigits, if_pos (.inr rfl)]

/-- A signed number is read back as itself. -/
theorem readSigned_signed {n : Int} (h : width n ≤ maxDigits) : readSigned (signed n) = .ok n := by
  rw [readSigned_eq_ok_iff]
  refine ⟨_, isRun_natural h, ?_⟩
  rw [value_natural]
  obtain hneg | hnonneg := Int.lt_or_le n 0
  · exact .inr ⟨signed_of_neg hneg, by omega⟩
  · exact .inl ⟨signed_of_nonneg hnonneg, by omega⟩

/-! ## Leading zeros -/

/-- Digits without a leading zero. -/
structure IsNumeral (digits : List Char) : Prop where
  ne_nil : digits ≠ []
  isDigit : ∀ c ∈ digits, c.isDigit
  head_ne_zero : digits.head? ≠ some '0'

/-- A number is written without zeros in front of other digits. -/
theorem natural_ne_zero_cons {n : Nat} {d : Char} {digits : List Char} :
    natural n ≠ '0' :: d :: digits := by
  intro h
  have hdigit : ∀ c ∈ d :: digits, c.isDigit = true := fun c hc =>
    isDigit_of_mem_natural (h ▸ List.mem_cons_of_mem _ hc)
  have hvalue : n = value (d :: digits) := by
    rw [← value_natural n, h, value, Nat.sub_self, Nat.zero_mul, Nat.zero_add]
  have hlt : n < 10 ^ (d :: digits).length := hvalue ▸ value_lt hdigit
  have hle := (Nat.length_toDigits_le_iff (by decide) (Nat.succ_pos _)).2 hlt
  rw [← natural, h] at hle
  exact Nat.not_succ_le_self _ hle

theorem isNumeral_natural {n : Nat} (h : n ≠ 0) : IsNumeral (natural n) := by
  refine ⟨natural_ne_nil n, fun _ => isDigit_of_mem_natural, fun hhead => ?_⟩
  obtain ⟨digits, hdigits⟩ := List.head?_eq_some_iff.1 hhead
  cases digits with
  | nil =>
    rw [← value_natural n, hdigits] at h
    exact h rfl
  | cons d digits => exact natural_ne_zero_cons hdigits

theorem natural_of_isDigit {c : Char} (h : c.isDigit) : natural (c.toNat - '0'.toNat) = [c] := by
  have hlt : c.toNat - '0'.toNat < 10 := Nat.lt_succ_of_le (digit_le_nine h)
  have hge : '0'.toNat ≤ c.toNat := by
    simp only [Char.isDigit, Bool.and_eq_true, decide_eq_true_eq, UInt32.le_iff_toNat_le] at h
    exact h.1
  rw [natural, Nat.toDigits_of_lt_base hlt, List.cons.injEq, ← Char.toNat_inj,
    Nat.toNat_digitChar_of_lt_ten hlt]
  exact ⟨Nat.add_sub_of_le hge, rfl⟩

/-- Digits behind those of a positive number are read on from it. -/
theorem natural_append {n : Nat} {digits : List Char} (hn : 0 < n)
    (hdigits : ∀ c ∈ digits, c.isDigit) :
    natural n ++ digits = natural (Nat.ofDigitChars 10 digits n) := by
  induction digits generalizing n with
  | nil => rw [List.append_nil, Nat.ofDigitChars_nil]
  | cons c digits ih =>
    obtain ⟨hc, hdigits⟩ := List.forall_mem_cons.1 hdigits
    have hlt : c.toNat - '0'.toNat < 10 := Nat.lt_succ_of_le (digit_le_nine hc)
    calc
      natural n ++ c :: digits = natural n ++ natural (c.toNat - '0'.toNat) ++ digits := by
        rw [natural_of_isDigit hc, List.append_assoc, List.singleton_append]
      _ = natural (10 * n + (c.toNat - '0'.toNat)) ++ digits :=
        congrArg (· ++ digits) (Nat.toDigits_append_toDigits (by decide) hn hlt)
      _ = natural (Nat.ofDigitChars 10 (c :: digits) n) := by
        rw [ih (by omega) hdigits, Nat.ofDigitChars_cons]

/-- Digits without a leading zero are written as they are read. -/
theorem IsNumeral.natural_value {digits : List Char} (h : IsNumeral digits) :
    natural (value digits) = digits := by
  obtain ⟨c, digits, rfl⟩ := List.exists_cons_of_ne_nil h.ne_nil
  obtain ⟨hc, hdigits⟩ := List.forall_mem_cons.1 h.isDigit
  have hpos : 0 < c.toNat - '0'.toNat := by
    refine Nat.pos_of_ne_zero fun hzero => h.head_ne_zero ?_
    have hdigit := natural_of_isDigit hc
    rw [hzero] at hdigit
    exact congrArg List.head? hdigit.symm
  rw [← ofDigitChars_eq_value, Nat.ofDigitChars_cons, Nat.mul_zero, Nat.zero_add,
    ← natural_append hpos hdigits, natural_of_isDigit hc, List.singleton_append]

theorem IsNumeral.value_ne_zero {digits : List Char} (h : IsNumeral digits) :
    value digits ≠ 0 := by
  intro hzero
  have hdigits := h.natural_value
  rw [hzero] at hdigits
  exact h.head_ne_zero (hdigits ▸ rfl)

end Dicebag.Decimal
