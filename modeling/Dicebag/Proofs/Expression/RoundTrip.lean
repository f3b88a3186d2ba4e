import Dicebag.Expression.Printer
import Dicebag.Proofs.Expression.Grammar

/-!
# Dicebag.Proofs.Expression.RoundTrip

Writing an expression and reading it back.  The canonical text is read as
the expression it shows, unless that has a negative number of dice or a
negative threshold, which no text can give; it is refused then, at the
first number with a sign that does not belong there.

The text is cut where its parts were joined (`ofChars_chars`), but for one
case: a negative number of dice without a modifier behind it shows the
only sign of the text, so everything from there on is taken for the
modifier and no dice are left (`lead_ofChars_chars`).
-/

namespace Dicebag

open Decimal (IsRun value width)
open Pieces

namespace Expression

/-! ## The parts of the text -/

/-- The characters that show the dice. -/
def diceChars (e : Expression) : List Char :=
  Decimal.integer e.count ++ 'd' :: Decimal.integer e.faces

/-- The characters that show the modifier. -/
def modifierChars (e : Expression) : List Char :=
  if e.modifier = 0 then [] else Decimal.signed e.modifier

/-- The characters that show the threshold. -/
def thresholdChars (e : Expression) : List Char :=
  match e.threshold with
  | none => []
  | some threshold => '!' :: Decimal.integer threshold

theorem chars_eq (e : Expression) : e.chars = e.diceChars ++ e.modifierChars ++ e.thresholdChars :=
  rfl

/-- The pieces that the text shows. -/
def shownPieces (e : Expression) : Pieces where
  lead := Decimal.integer e.count
  faces := some (Decimal.integer e.faces)
  modifier := if e.modifier = 0 then none else some (Decimal.signed e.modifier)
  threshold := e.threshold.map Decimal.integer

theorem faces_nonneg (e : Expression) : 0 ≤ e.faces := by
  have h := e.two_le_faces
  omega

theorem integer_faces (e : Expression) : Decimal.integer e.faces = Decimal.natural e.faces.natAbs :=
  Decimal.integer_of_nonneg e.faces_nonneg

/-! ## Its characters -/

theorem isDigit_or_isSign_of_mem_integer {n : Int} {c : Char} (h : c ∈ Decimal.integer n) :
    c.isDigit ∨ isSign c := by
  obtain hdigit | rfl := Decimal.isDigit_or_eq_minus_of_mem_integer h
  · exact .inl hdigit
  · exact .inr rfl

theorem exists_signed_eq (n : Int) :
    ∃ sign, isSign sign = true ∧ Decimal.signed n = sign :: Decimal.natural n.natAbs := by
  obtain hneg | hnonneg := Int.lt_or_le n 0
  · exact ⟨'-', rfl, Decimal.signed_of_neg hneg⟩
  · exact ⟨'+', rfl, Decimal.signed_of_nonneg hnonneg⟩

theorem isSign_eq_false_of_mem_natural {n : Nat} : ∀ c ∈ Decimal.natural n, isSign c = false :=
  fun _ hc => isSign_of_isDigit (Decimal.isDigit_of_mem_natural hc)

theorem isSign_eq_false_of_mem_dice {count faces : Nat} :
    ∀ c ∈ Decimal.natural count ++ 'd' :: Decimal.natural faces, isSign c = false := by
  intro c hc
  obtain hc | hc := List.mem_append.1 hc
  · exact isSign_eq_false_of_mem_natural c hc
  · obtain rfl | hc := List.mem_cons.1 hc
    · rfl
    · exact isSign_eq_false_of_mem_natural c hc

theorem mem_diceChars {e : Expression} {c : Char} (h : c ∈ e.diceChars) :
    c.isDigit ∨ isSign c ∨ isDie c := by
  obtain h | h := List.mem_append.1 h
  · exact (isDigit_or_isSign_of_mem_integer h).imp_right .inl
  · obtain rfl | h := List.mem_cons.1 h
    · exact .inr (.inr rfl)
    · exact (isDigit_or_isSign_of_mem_integer h).imp_right .inl

theorem mem_modifierChars {e : Expression} {c : Char} (h : c ∈ e.modifierChars) :
    c.isDigit ∨ isSign c := by
  unfold modifierChars at h
  split at h
  · exact absurd h List.not_mem_nil
  · obtain ⟨sign, hsign, heq⟩ := exists_signed_eq e.modifier
    rw [heq] at h
    obtain rfl | h := List.mem_cons.1 h
    · exact .inr hsign
    · exact .inl (Decimal.isDigit_of_mem_natural h)

theorem mem_thresholdChars {e : Expression} {c : Char} (h : c ∈ e.thresholdChars) :
    c.isDigit ∨ isSign c ∨ c = '!' := by
  unfold thresholdChars at h
  split at h
  · exact absurd h List.not_mem_nil
  · obtain rfl | h := List.mem_cons.1 h
    · exact .inr (.inr rfl)
    · exact (isDigit_or_isSign_of_mem_integer h).imp_right .inl

/-- A text is written with digits, signs, the letter of a die and the mark of
a threshold. -/
theorem mem_chars {e : Expression} {c : Char} (h : c ∈ e.chars) :
    c.isDigit ∨ isSign c ∨ isDie c ∨ c = '!' := by
  rw [chars_eq, List.mem_append, List.mem_append] at h
  obtain (h | h) | h := h
  · exact (mem_diceChars h).imp_right (Or.imp_right .inl)
  · exact (mem_modifierChars h).imp_right .inl
  · exact (mem_thresholdChars h).imp_right (Or.imp_right .inr)

/-- The text has no spaces. -/
theorem withoutSpaces_chars (e : Expression) : withoutSpaces e.chars = e.chars := by
  rw [withoutSpaces, List.filter_eq_self]
  intro c hc
  rw [bne_iff_ne]
  intro hspace
  subst hspace
  exact absurd (mem_chars hc) (by decide)

/-! ## How the text is cut -/

theorem thresholdCut_chars (e : Expression) :
    ThresholdCut e.chars (e.diceChars ++ e.modifierChars) (e.threshold.map Decimal.integer) := by
  rw [chars_eq]
  unfold thresholdChars
  cases e.threshold with
  | none =>
    rw [List.append_nil]
    refine .absent fun hmem => ?_
    obtain hmem | hmem := List.mem_append.1 hmem
    · exact absurd (mem_diceChars hmem) (by decide)
    · exact absurd (mem_modifierChars hmem) (by decide)
  | some threshold =>
    exact .present fun hmem => absurd (isDigit_or_isSign_of_mem_integer hmem) (by decide)

theorem modifierCut_chars {e : Expression} (h : 0 ≤ e.count ∨ e.modifier ≠ 0) :
    ModifierCut (e.diceChars ++ e.modifierChars) e.diceChars e.shownPieces.modifier := by
  unfold shownPieces modifierChars
  by_cases hzero : e.modifier = 0
  · have hcount : 0 ≤ e.count := h.resolve_right fun hne => hne hzero
    rw [if_pos hzero, List.append_nil, diceChars, Decimal.integer_of_nonneg hcount, integer_faces]
    simp only [if_pos hzero]
    exact .absent isSign_eq_false_of_mem_dice
  · obtain ⟨sign, hsign, heq⟩ := exists_signed_eq e.modifier
    rw [if_neg hzero]
    simp only [if_neg hzero, heq]
    exact .present hsign isSign_eq_false_of_mem_natural

theorem diceCut_chars (e : Expression) :
    DiceCut e.diceChars (Decimal.integer e.count) (some (Decimal.integer e.faces)) := by
  refine .present rfl fun c hc => ?_
  obtain hdigit | rfl := Decimal.isDigit_or_eq_minus_of_mem_integer hc
  · exact isDie_of_isDigit hdigit
  · rfl

theorem ofChars_chars {e : Expression} (h : 0 ≤ e.count ∨ e.modifier ≠ 0) :
    Pieces.ofChars e.chars = e.shownPieces := by
  refine ofChars_eq ?_
  rw [withoutSpaces_chars]
  exact .intro (thresholdCut_chars e) (modifierCut_chars h) (diceCut_chars e)

/-- A negative number of dice with no modifier behind it: its minus sign is
the last sign of the text, and no dice stand before it. -/
theorem lead_ofChars_chars {e : Expression} (hcount : e.count < 0) (hmodifier : e.modifier = 0) :
    (Pieces.ofChars e.chars).lead = [] := by
  have hmodifierCut : ModifierCut e.diceChars [] (some e.diceChars) := by
    rw [diceChars, Decimal.integer_of_neg hcount, integer_faces, List.cons_append]
    exact @ModifierCut.present [] '-' _ rfl isSign_eq_false_of_mem_dice
  have hthresholdCut := thresholdCut_chars e
  rw [modifierChars, if_pos hmodifier, List.append_nil] at hthresholdCut
  have hdiceCut : DiceCut [] [] none := .absent fun c hc => absurd hc List.not_mem_nil
  have hcut : Cut (withoutSpaces e.chars)
      ⟨[], none, some e.diceChars, e.threshold.map Decimal.integer⟩ := by
    rw [withoutSpaces_chars]
    exact .intro hthresholdCut hmodifierCut hdiceCut
  rw [ofChars_eq hcut]

/-! ## How its pieces are read -/

/-- None of the numbers that an expression shows is too long. -/
def Writable (e : Expression) : Prop := ∀ n ∈ e.numbers, width n ≤ Decimal.maxDigits

theorem readDice_shownPieces {e : Expression} (hwidth : e.Writable) (hcount : 0 ≤ e.count) :
    e.shownPieces.readDice = .ok (e.count.natAbs, e.faces.natAbs) := by
  have hlead : IsRun (Decimal.natural e.count.natAbs) :=
    Decimal.isRun_natural (hwidth _ (by simp [numbers]))
  have hfaces : IsRun (Decimal.natural e.faces.natAbs) :=
    Decimal.isRun_natural (hwidth _ (by simp [numbers]))
  rw [readDice_eq_ok_iff, shownPieces, Decimal.integer_of_nonneg hcount, integer_faces]
  exact ⟨hlead, .inr ⟨_, rfl, hfaces, (Decimal.value_natural _).symm,
    (Decimal.value_natural _).symm⟩⟩

theorem readModifier_shownPieces {e : Expression} (hwidth : e.Writable) :
    e.shownPieces.readModifier = .ok e.modifier := by
  rw [readModifier_eq_ok_iff, shownPieces]
  by_cases hzero : e.modifier = 0
  · exact .inl ⟨if_pos hzero, hzero⟩
  · exact .inr ⟨_, if_neg hzero, Decimal.readSigned_signed (hwidth _ (by simp [numbers]))⟩

theorem readThreshold_shownPieces {e : Expression} (hwidth : e.Writable)
    (hthreshold : ∀ t ∈ e.threshold, 0 < t) : e.shownPieces.readThreshold = .ok e.threshold := by
  rw [readThreshold_eq_ok_iff, shownPieces]
  cases ht : e.threshold with
  | none => exact .inl ⟨rfl, rfl⟩
  | some t =>
    have hpos : 0 < t := hthreshold t ht
    have hrun : IsRun (Decimal.natural t.natAbs) :=
      Decimal.isRun_natural (hwidth t (by simp [numbers, ht]))
    refine .inr (.inr ⟨Decimal.natural t.natAbs, ?_, hrun, ?_⟩)
    · rw [Option.map_some, Decimal.integer_of_nonneg (Int.le_of_lt hpos)]
    · rw [Decimal.value_natural, Int.natAbs_of_nonneg (Int.le_of_lt hpos)]

/-! ## What the text is read as -/

/-- The refusal of a number whose sign does not belong there. -/
def refusal (n : Int) : ParseError :=
  let text := String.ofList (Decimal.integer n)
  .number text (some (.malformed text))

theorem readPiece_integer_of_neg {n : Int} (h : n < 0) :
    readPiece Decimal.readNatural (Decimal.integer n) = .error (refusal n) := by
  rw [readPiece, Decimal.readNatural_integer_of_neg h]
  rfl

theorem ofChars_chars_eq_self {e : Expression} (hwidth : e.Writable) (hcount : 0 ≤ e.count)
    (hthreshold : ∀ t ∈ e.threshold, 0 < t) : Expression.ofChars e.chars = .ok e := by
  rw [Expression.ofChars, ofChars_chars (.inl hcount), read_eq_ok_iff]
  refine ⟨_, _, _, _, readDice_shownPieces hwidth hcount, readModifier_shownPieces hwidth,
    readThreshold_shownPieces hwidth hthreshold, ?_, ?_, rfl, ?_⟩
  · exact (Int.natAbs_of_nonneg hcount).symm
  · exact (Int.natAbs_of_nonneg e.faces_nonneg).symm
  · exact (resolve_of_ne_zero e.threshold_ne_zero).symm

theorem ofChars_chars_of_no_modifier {e : Expression} (hcount : e.count < 0)
    (hmodifier : e.modifier = 0) : Expression.ofChars e.chars = .error .empty := by
  rw [Expression.ofChars, Pieces.read, readDice, if_pos (lead_ofChars_chars hcount hmodifier)]
  rfl

theorem ofChars_chars_of_neg_count {e : Expression} (hcount : e.count < 0)
    (hmodifier : e.modifier ≠ 0) : Expression.ofChars e.chars = .error (refusal e.count) := by
  have hne : e.shownPieces.lead ≠ [] := by
    rw [shownPieces, Decimal.integer_of_neg hcount]
    exact List.cons_ne_nil _ _
  rw [Expression.ofChars, ofChars_chars (.inr hmodifier), Pieces.read, readDice, if_neg hne,
    show readPiece Decimal.readNatural e.shownPieces.lead = .error (refusal e.count) from
      readPiece_integer_of_neg hcount]
  rfl

theorem ofChars_chars_of_neg_threshold {e : Expression} {t : Int} (hwidth : e.Writable)
    (hcount : 0 ≤ e.count) (ht : e.threshold = some t) (hneg : t < 0) :
    Expression.ofChars e.chars = .error (refusal t) := by
  have hread : e.shownPieces.readThreshold = .error (refusal t) := by
    rw [readThreshold, shownPieces, ht, Option.map_some, Decimal.integer_of_neg hneg]
    simp only
    rw [← Decimal.integer_of_neg hneg, readPiece_integer_of_neg hneg]
    rfl
  rw [Expression.ofChars, ofChars_chars (.inl hcount), Pieces.read,
    readDice_shownPieces hwidth hcount, readModifier_shownPieces hwidth, hread]
  rfl

/-- The text is read as no other expression. -/
theorem eq_of_ofChars_chars {e e' : Expression} (hwidth : e.Writable)
    (h : Expression.ofChars e.chars = .ok e') : e' = e := by
  by_cases hcount : 0 ≤ e.count
  · cases ht : e.threshold with
    | none =>
      have hpos : ∀ t ∈ e.threshold, 0 < t := fun t hmem => by simp [ht] at hmem
      rw [ofChars_chars_eq_self hwidth hcount hpos] at h
      exact (Except.ok.inj h).symm
    | some t =>
      by_cases hneg : t < 0
      · rw [ofChars_chars_of_neg_threshold hwidth hcount ht hneg] at h
        cases h
      · have hne : t ≠ 0 := fun hzero => e.threshold_ne_zero (hzero ▸ ht)
        have hpos : ∀ u ∈ e.threshold, 0 < u := by
          intro u hu
          obtain rfl : t = u := Option.some.inj (ht.symm.trans hu)
          omega
        rw [ofChars_chars_eq_self hwidth hcount hpos] at h
        exact (Except.ok.inj h).symm
  · have hcount : e.count < 0 := Int.not_le.1 hcount
    by_cases hmodifier : e.modifier = 0
    · rw [ofChars_chars_of_no_modifier hcount hmodifier] at h
      cases h
    · rw [ofChars_chars_of_neg_count hcount hmodifier] at h
      cases h

/-! ## There and back -/

theorem render_eq {e : Expression} (hwidth : e.Writable) :
    e.render = .ok (String.ofList e.chars) := by
  have hall : e.numbers.all Decimal.fits = true :=
    List.all_eq_true.2 fun n hn => (Decimal.fits_iff_width_le n).2 (hwidth n hn)
  rw [render, Decimal.render, if_pos hall]

theorem parse_ofList (text : List Char) : parse (String.ofList text) = ofChars text := by
  rw [parse, String.toList_ofList]

theorem writable_of_parse {text : String} {e : Expression} (h : parse text = .ok e) :
    e.Writable := fun n hn =>
  (Decimal.fits_iff_width_le n).1 ((spelling_of_ofChars h).fits n hn)

/-- What was read from a text is read from its canonical text. -/
theorem parse_ofList_chars {text : String} {e : Expression} (h : parse text = .ok e) :
    parse (String.ofList e.chars) = .ok e := by
  have hspelling := spelling_of_ofChars h
  rw [parse_ofList]
  exact ofChars_chars_eq_self (writable_of_parse h) hspelling.count_nonneg
    (hspelling.threshold_pos e.two_le_faces)

/-- **Round trip**: an expression whose numbers are short enough is
written, and its text is read as that expression or refused for the sign
of its first negative number.  What was read from a text is always written
and read back. -/
theorem roundtrip_canonical :
    (∀ e : Expression, (∀ n ∈ e.numbers, width n ≤ Decimal.maxDigits) →
      ∃ text, e.render = .ok text ∧
        (0 ≤ e.count → (∀ t ∈ e.threshold, 0 < t) → parse text = .ok e) ∧
        (e.count < 0 → e.modifier = 0 → parse text = .error .empty) ∧
        (e.count < 0 → e.modifier ≠ 0 → parse text = .error (refusal e.count)) ∧
        (0 ≤ e.count → ∀ t ∈ e.threshold, t < 0 → parse text = .error (refusal t)) ∧
        ∀ e', parse text = .ok e' → e' = e) ∧
    ∀ (text : String) (e : Expression), parse text = .ok e →
      ∃ canonical, e.render = .ok canonical ∧ parse canonical = .ok e := by
  constructor
  · intro e hwidth
    refine ⟨_, render_eq hwidth, ?_⟩
    rw [parse_ofList]
    refine ⟨ofChars_chars_eq_self hwidth, ofChars_chars_of_no_modifier,
      ofChars_chars_of_neg_count, fun hcount t => ofChars_chars_of_neg_threshold hwidth hcount,
      fun e' => eq_of_ofChars_chars hwidth⟩
  · exact fun text e h => ⟨_, render_eq (writable_of_parse h), parse_ofList_chars h⟩

theorem roundtrip_canonical_instances :
    (∃ text, (⟨-1, 6, 2, some (-3), by decide, by decide⟩ : Expression).render = .ok text ∧
      parse text = .error (refusal (-1))) ∧
    (∃ text, (⟨3, 8, -2, some (-3), by decide, by decide⟩ : Expression).render = .ok text ∧
      parse text = .error (refusal (-3))) ∧
    ∃ canonical, (⟨3, 8, -2, some 8, by decide, by decide⟩ : Expression).render = .ok canonical ∧
      parse canonical = .ok ⟨3, 8, -2, some 8, by decide, by decide⟩ := by
  refine ⟨?_, ?_, roundtrip_canonical.2 " 03D8 -2!0" _ (by rfl)⟩
  · obtain ⟨text, hrender, _, _, hneg, _⟩ :=
      roundtrip_canonical.1 ⟨-1, 6, 2, some (-3), by decide, by decide⟩ (by decide)
    exact ⟨text, hrender, hneg (by decide) (by decide)⟩
  · obtain ⟨text, hrender, _, _, _, hneg, _⟩ :=
      roundtrip_canonical.1 ⟨3, 8, -2, some (-3), by decide, by decide⟩ (by decide)
    exact ⟨text, hrender, hneg (by decide) _ rfl (by decide)⟩

end Expression

end Dicebag
