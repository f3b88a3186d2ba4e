import Dicebag.Proofs.Expression.Cuts
import Dicebag.Proofs.Expression.Readings

/-!
# Dicebag.Proofs.Expression.Grammar

The grammar of dice expressions, from the front to the end of a text:

```
expression  =  dice modifier threshold
dice        =  faces  |  count die faces          die  =  d | D
modifier    =  nothing  |  sign number            sign =  + | -
threshold   =  nothing  |  !  |  ! number
```

Every number is a run of digits (`Decimal.IsRun`).  `Spelling` relates a
text without spaces to the numbers it gives an expression.  The parser
cuts from the end and checks piece by piece, and still accepts the
grammar and nothing else: `spelling_of_ofChars` and `ofChars_of_spelling`
are the two halves of that, and `parse_accepts_iff_spelling` joins them.
-/

namespace Dicebag

open Decimal (IsRun value)
open Pieces

namespace Spelling

/-! ## The grammar -/

/-- The dice of an expression: how many, and of how many faces.  Faces
alone are one die. -/
inductive Dice : List Char → Nat → Nat → Prop
  | single {faces} (hfaces : IsRun faces) : Dice faces 1 (value faces)
  | several {count die faces} (hcount : IsRun count) (hdie : die = 'd' ∨ die = 'D')
    (hfaces : IsRun faces) : Dice (count ++ die :: faces) (value count) (value faces)

/-- The modifier of an expression, zero if there is none. -/
inductive Modifier : List Char → Int → Prop
  | absent : Modifier [] 0
  | plus {digits} (hdigits : IsRun digits) : Modifier ('+' :: digits) (value digits)
  | minus {digits} (hdigits : IsRun digits) : Modifier ('-' :: digits) (-(value digits : Int))

/-- The threshold of an expression whose dice have so many faces.  The
highest face is meant where no number is given and where it is zero. -/
inductive Threshold (faces : Nat) : List Char → Option Int → Prop
  | absent : Threshold faces [] none
  | highest : Threshold faces ['!'] (some faces)
  | zero {digits} (hdigits : IsRun digits) (hzero : value digits = 0) :
    Threshold faces ('!' :: digits) (some faces)
  | given {digits} (hdigits : IsRun digits) (hne : value digits ≠ 0) :
    Threshold faces ('!' :: digits) (some (value digits))

end Spelling

/-- A text without spaces gives the number of dice, their faces, the
modifier and the threshold. -/
inductive Spelling : List Char → Int → Int → Int → Option Int → Prop
  | intro {dice modifier threshold : List Char} {count faces : Nat} {m : Int} {t : Option Int}
    (hdice : Spelling.Dice dice count faces) (hmodifier : Spelling.Modifier modifier m)
    (hthreshold : Spelling.Threshold faces threshold t) :
    Spelling (dice ++ modifier ++ threshold) count faces m t

namespace Spelling

/-! ## Characters and numbers of the parts -/

theorem Dice.isDigit_or_isDie {dice : List Char} {count faces : Nat} (h : Dice dice count faces) :
    ∀ c ∈ dice, c.isDigit ∨ isDie c := by
  cases h with
  | single hfaces => exact fun c hc => .inl (hfaces.isDigit c hc)
  | several hcount hdie hfaces =>
    intro c hc
    obtain hc | hc := List.mem_append.1 hc
    · exact .inl (hcount.isDigit c hc)
    · obtain rfl | hc := List.mem_cons.1 hc
      · exact .inr (isDie_eq_true_iff.2 hdie)
      · exact .inl (hfaces.isDigit c hc)

theorem Modifier.isDigit_or_isSign {modifier : List Char} {m : Int} (h : Modifier modifier m) :
    ∀ c ∈ modifier, c.isDigit ∨ isSign c := by
  cases h with
  | absent => exact fun c hc => absurd hc List.not_mem_nil
  | plus hdigits | minus hdigits =>
    intro c hc
    obtain rfl | hc := List.mem_cons.1 hc
    · exact .inr rfl
    · exact .inl (hdigits.isDigit c hc)

theorem Threshold.isDigit_or_eq_bang {faces : Nat} {threshold : List Char} {t : Option Int}
    (h : Threshold faces threshold t) : ∀ c ∈ threshold, c.isDigit ∨ c = '!' := by
  cases h with
  | absent => exact fun c hc => absurd hc List.not_mem_nil
  | highest => exact fun c hc => .inr (List.mem_singleton.1 hc)
  | zero hdigits | given hdigits =>
    intro c hc
    obtain rfl | hc := List.mem_cons.1 hc
    · exact .inr rfl
    · exact .inl (hdigits.isDigit c hc)

theorem Dice.fits {dice : List Char} {count faces : Nat} (h : Dice dice count faces) :
    Decimal.fits count = true ∧ Decimal.fits faces = true := by
  cases h with
  | single hfaces => exact ⟨Decimal.fits_one, Decimal.fits_value hfaces⟩
  | several hcount _ hfaces => exact ⟨Decimal.fits_value hcount, Decimal.fits_value hfaces⟩

theorem Modifier.fits {modifier : List Char} {m : Int} (h : Modifier modifier m) :
    Decimal.fits m = true := by
  cases h with
  | absent => exact Decimal.fits_zero
  | plus hdigits => exact Decimal.fits_value hdigits
  | minus hdigits =>
    rw [Decimal.fits_neg]
    exact Decimal.fits_value hdigits

theorem Threshold.fits {threshold : List Char} {faces : Nat} {t : Option Int}
    (h : Threshold faces threshold t) (hfaces : Decimal.fits faces = true) :
    ∀ u ∈ t, Decimal.fits u = true := by
  intro u hu
  cases h with
  | absent => cases hu
  | highest | zero =>
    cases hu
    exact hfaces
  | given hdigits _ =>
    cases hu
    exact Decimal.fits_value hdigits

theorem Dice.isSign_eq_false {dice : List Char} {count faces : Nat} (h : Dice dice count faces) :
    ∀ c ∈ dice, isSign c = false := fun c hc =>
  (h.isDigit_or_isDie c hc).elim isSign_of_isDigit isSign_of_isDie

theorem bang_notMem_body {dice modifier : List Char} {count faces : Nat} {m : Int}
    (hdice : Dice dice count faces) (hmodifier : Modifier modifier m) :
    '!' ∉ dice ++ modifier := by
  intro hmem
  obtain hmem | hmem := List.mem_append.1 hmem
  · exact absurd (hdice.isDigit_or_isDie _ hmem) (by decide)
  · exact absurd (hmodifier.isDigit_or_isSign _ hmem) (by decide)

/-! ## What is accepted is spelled -/

theorem dice_of_readDice {core : List Char} {p : Pieces} {count faces : Nat}
    (hcut : DiceCut core p.lead p.faces) (h : p.readDice = .ok (count, faces)) :
    Dice core count faces := by
  obtain ⟨hlead, ⟨hnone, rfl, rfl⟩ | ⟨piece, hsome, hpiece, rfl, rfl⟩⟩ := readDice_eq_ok_iff.1 h
  · rw [hnone] at hcut
    cases hcut
    exact .single hlead
  · rw [hsome] at hcut
    cases hcut with
    | present hdie _ => exact .several hlead (isDie_eq_true_iff.1 hdie) hpiece

theorem modifier_of_readModifier {body core : List Char} {p : Pieces} {m : Int}
    (hcut : ModifierCut body core p.modifier) (h : p.readModifier = .ok m) :
    ∃ modifier, body = core ++ modifier ∧ Modifier modifier m := by
  obtain ⟨hnone, rfl⟩ | ⟨piece, hsome, hpiece⟩ := readModifier_eq_ok_iff.1 h
  · rw [hnone] at hcut
    cases hcut
    exact ⟨[], (List.append_nil _).symm, .absent⟩
  · rw [hsome] at hcut
    cases hcut
    obtain ⟨digits, hdigits, ⟨htext, rfl⟩ | ⟨htext, rfl⟩⟩ := Decimal.readSigned_eq_ok_iff.1 hpiece
    · exact ⟨_, rfl, htext ▸ .plus hdigits⟩
    · exact ⟨_, rfl, htext ▸ .minus hdigits⟩

theorem threshold_of_readThreshold {text body : List Char} {p : Pieces} {t : Option Int}
    (faces : Nat) (hcut : ThresholdCut text body p.threshold) (h : p.readThreshold = .ok t) :
    ∃ threshold, text = body ++ threshold ∧
      Threshold faces threshold (Expression.resolve faces t) := by
  obtain ⟨hnone, rfl⟩ | ⟨hnil, rfl⟩ | ⟨piece, hsome, hpiece, rfl⟩ := readThreshold_eq_ok_iff.1 h
  · rw [hnone] at hcut
    cases hcut
    exact ⟨[], (List.append_nil _).symm, .absent⟩
  · rw [hnil] at hcut
    cases hcut
    exact ⟨_, rfl, .highest⟩
  · rw [hsome] at hcut
    cases hcut
    refine ⟨_, rfl, ?_⟩
    by_cases hzero : value piece = 0
    · rw [hzero]
      exact .zero hpiece hzero
    · rw [Expression.resolve_of_ne_zero (by simpa using hzero)]
      exact .given hpiece hzero

end Spelling

/-- Whatever the parser makes an expression of is spelled as the grammar
says. -/
theorem spelling_of_ofChars {text : List Char} {e : Expression}
    (h : Expression.ofChars text = .ok e) :
    Spelling (Pieces.withoutSpaces text) e.count e.faces e.modifier e.threshold := by
  obtain ⟨count, faces, m, t, hdice, hmodifier, hthreshold, hcount, hfaces, hm, ht⟩ :=
    Pieces.read_eq_ok_iff.1 h
  have hcut := Pieces.cut_ofChars text
  generalize Pieces.withoutSpaces text = s at hcut ⊢
  obtain ⟨hthresholdCut, hmodifierCut, hdiceCut⟩ := hcut
  have hdice := Spelling.dice_of_readDice hdiceCut hdice
  obtain ⟨modifier, rfl, hmodifier⟩ := Spelling.modifier_of_readModifier hmodifierCut hmodifier
  obtain ⟨threshold, rfl, hthreshold⟩ :=
    Spelling.threshold_of_readThreshold faces hthresholdCut hthreshold
  rw [hcount, hfaces, hm, ht]
  exact .intro hdice hmodifier hthreshold

/-! ## What is spelled is accepted -/

namespace Spelling

theorem Dice.exists_cut {dice : List Char} {count faces : Nat} (h : Dice dice count faces) :
    ∃ lead piece, DiceCut dice lead piece ∧
      ∀ modifier threshold, readDice ⟨lead, piece, modifier, threshold⟩ = .ok (count, faces) := by
  cases h with
  | single hfaces =>
    refine ⟨_, none, .absent hfaces.isDie_eq_false, fun _ _ => ?_⟩
    exact readDice_eq_ok_iff.2 ⟨hfaces, .inl ⟨rfl, rfl, rfl⟩⟩
  | several hcount hdie hfaces =>
    refine ⟨_, _, .present (isDie_eq_true_iff.2 hdie) hcount.isDie_eq_false, fun _ _ => ?_⟩
    exact readDice_eq_ok_iff.2 ⟨hcount, .inr ⟨_, rfl, hfaces, rfl, rfl⟩⟩

theorem Modifier.exists_cut {dice modifier : List Char} {m : Int} (h : Modifier modifier m)
    (hdice : ∀ c ∈ dice, isSign c = false) :
    ∃ piece, ModifierCut (dice ++ modifier) dice piece ∧
      ∀ lead faces threshold, readModifier ⟨lead, faces, piece, threshold⟩ = .ok m := by
  cases h with
  | absent =>
    refine ⟨none, ?_, fun _ _ _ => rfl⟩
    rw [List.append_nil]
    exact .absent hdice
  | plus hdigits =>
    refine ⟨_, .present rfl hdigits.isSign_eq_false, fun _ _ _ => ?_⟩
    have hread := Decimal.readSigned_eq_ok_iff.2 ⟨_, hdigits, .inl ⟨rfl, rfl⟩⟩
    exact readModifier_eq_ok_iff.2 (.inr ⟨_, rfl, hread⟩)
  | minus hdigits =>
    refine ⟨_, .present rfl hdigits.isSign_eq_false, fun _ _ _ => ?_⟩
    have hread := Decimal.readSigned_eq_ok_iff.2 ⟨_, hdigits, .inr ⟨rfl, rfl⟩⟩
    exact readModifier_eq_ok_iff.2 (.inr ⟨_, rfl, hread⟩)

theorem Threshold.exists_cut {body threshold : List Char} {faces : Nat} {t : Option Int}
    (h : Threshold faces threshold t) (hbody : '!' ∉ body) :
    ∃ piece u, ThresholdCut (body ++ threshold) body piece ∧ Expression.resolve faces u = t ∧
      ∀ lead faces modifier, readThreshold ⟨lead, faces, modifier, piece⟩ = .ok u := by
  cases h with
  | absent =>
    refine ⟨none, none, ?_, rfl, fun _ _ _ => rfl⟩
    rw [List.append_nil]
    exact .absent hbody
  | highest => exact ⟨some [], some 0, .present List.not_mem_nil, rfl, fun _ _ _ => rfl⟩
  | @zero digits hdigits hzero =>
    refine ⟨_, some (value digits), .present hdigits.bang_notMem, by rw [hzero]; rfl,
      fun _ _ _ => ?_⟩
    exact readThreshold_eq_ok_iff.2 (.inr (.inr ⟨_, rfl, hdigits, rfl⟩))
  | @given digits hdigits hne =>
    refine ⟨_, some (value digits), .present hdigits.bang_notMem,
      Expression.resolve_of_ne_zero (by simpa using hne), fun _ _ _ => ?_⟩
    exact readThreshold_eq_ok_iff.2 (.inr (.inr ⟨_, rfl, hdigits, rfl⟩))

/-- A spelled text is cut where the grammar joins its parts. -/
theorem exists_cut {text : List Char} {count faces m : Int} {t : Option Int}
    (h : Spelling text count faces m t) :
    ∃ p, Cut text p ∧ ∀ e : Expression, e.count = count → e.faces = faces → e.modifier = m →
      e.threshold = t → p.read = .ok e := by
  obtain ⟨hdice, hmodifier, hthreshold⟩ := h
  obtain ⟨lead, faces, hdiceCut, hreadDice⟩ := hdice.exists_cut
  obtain ⟨modifier, hmodifierCut, hreadModifier⟩ := hmodifier.exists_cut hdice.isSign_eq_false
  obtain ⟨threshold, u, hthresholdCut, hu, hreadThreshold⟩ :=
    hthreshold.exists_cut (bang_notMem_body hdice hmodifier)
  refine ⟨⟨lead, faces, modifier, threshold⟩, .intro hthresholdCut hmodifierCut hdiceCut, ?_⟩
  intro e hcount hfaces hm ht
  exact read_eq_ok_iff.2 ⟨_, _, _, u, hreadDice _ _, hreadModifier _ _ _, hreadThreshold _ _ _,
    hcount, hfaces, hm, ht.trans hu.symm⟩

/-! ## The numbers of a spelling -/

theorem count_nonneg {text : List Char} {count faces m : Int} {t : Option Int}
    (h : Spelling text count faces m t) : 0 ≤ count := by
  obtain ⟨_, _, _⟩ := h
  exact Int.natCast_nonneg _

/-- A spelled threshold is positive: zero means the highest face. -/
theorem threshold_pos {text : List Char} {count faces m : Int} {t : Option Int}
    (h : Spelling text count faces m t) (hfaces : 2 ≤ faces) : ∀ u ∈ t, 0 < u := by
  obtain ⟨_, _, hthreshold⟩ := h
  intro u hu
  cases hthreshold with
  | absent => cases hu
  | highest | zero =>
    cases hu
    omega
  | given _ hne =>
    cases hu
    omega

/-- A spelled number is short enough to be written. -/
theorem fits {text : List Char} {count faces m : Int} {t : Option Int}
    (h : Spelling text count faces m t) :
    ∀ n ∈ count :: faces :: m :: t.toList, Decimal.fits n = true := by
  obtain ⟨hdice, hmodifier, hthreshold⟩ := h
  obtain ⟨hcount, hfaces⟩ := hdice.fits
  simp only [List.forall_mem_cons, Option.mem_toList]
  exact ⟨hcount, hfaces, hmodifier.fits, hthreshold.fits hfaces⟩

end Spelling

/-- Whatever is spelled as the grammar says, the parser makes the
expression with these numbers of it. -/
theorem ofChars_of_spelling {text : List Char} {e : Expression}
    (h : Spelling (Pieces.withoutSpaces text) e.count e.faces e.modifier e.threshold) :
    Expression.ofChars text = .ok e := by
  obtain ⟨p, hcut, hread⟩ := h.exists_cut
  rw [Expression.ofChars, Pieces.ofChars_eq hcut]
  exact hread e rfl rfl rfl rfl

/-! ## The parser and the grammar -/

/-- **Exactness**: a text is accepted if and only if it is, without its
spaces, spelled as the grammar says and with two faces at least; the
expression it is read as has the numbers of the spelling. -/
theorem parse_accepts_iff_spelling (text : String) :
    ((∃ e, Expression.parse text = .ok e) ↔
      ∃ count faces m t, 2 ≤ faces ∧
        Spelling (text.toList.filter (· != ' ')) count faces m t) ∧
    ∀ e, Expression.parse text = .ok e ↔
      Spelling (text.toList.filter (· != ' ')) e.count e.faces e.modifier e.threshold := by
  refine ⟨⟨fun ⟨e, h⟩ => ?_, fun ⟨count, faces, m, t, hfaces, h⟩ => ?_⟩,
    fun e => ⟨spelling_of_ofChars, ofChars_of_spelling⟩⟩
  · exact ⟨_, _, _, _, e.two_le_faces, spelling_of_ofChars h⟩
  · have hne : t ≠ some 0 := fun ht => absurd (h.threshold_pos hfaces 0 ht) (by decide)
    exact ⟨⟨count, faces, m, t, hfaces, hne⟩, ofChars_of_spelling h⟩

end Dicebag
