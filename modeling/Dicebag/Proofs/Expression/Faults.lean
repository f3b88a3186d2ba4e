import Dicebag.Proofs.Expression.Cuts
import Dicebag.Proofs.Expression.Readings

/-!
# Dicebag.Proofs.Expression.Faults

What is told of a text that is no expression.  A text is cut from its end
and its pieces are read from the front, so of several things that are wrong
with it the first in reading order is told, wherever the cuts found it:

```
lead  >  number of d's  >  faces  >  modifier  >  threshold  >  number of faces
```

`Fault` lists them in that order, each with what has to be right before it.
`read_of_fault` has one case for each of them, `exists_read_of_no_fault` is
the case that there is none, and together they leave no other outcome
(`parse_error_iff_fault`).
-/

namespace Dicebag

open Decimal (IsRun value)

namespace Pieces

/-! ## Pieces that are not read -/

/-- The error that names a piece whose digits are not read. -/
def unreadable (piece digits : List Char) : ParseError :=
  .number (String.ofList piece) (some (Decimal.misreading piece digits))

theorem readPiece_of_error {α : Type} {reader : List Char → Except Decimal.ReadError α}
    {piece digits : List Char} (h : reader piece = .error (Decimal.misreading piece digits)) :
    readPiece reader piece = .error (unreadable piece digits) := by
  rw [readPiece, h]
  rfl

theorem readPiece_natural_of_not_isRun {piece : List Char} (h : ¬ IsRun piece) :
    readPiece Decimal.readNatural piece = .error (unreadable piece piece) :=
  readPiece_of_error (Decimal.readDigits_of_not_isRun h)

/-! ## What is right with the pieces -/

/-- The dice are numbers throughout. -/
structure GoodDice (p : Pieces) : Prop where
  lead : IsRun p.lead
  faces : ∀ piece ∈ p.faces, IsRun piece

/-- Behind its sign the modifier is a number, if there is one. -/
def GoodModifier (p : Pieces) : Prop := ∀ piece ∈ p.modifier, IsRun piece.tail

/-- The threshold is a number, if one is given. -/
def GoodThreshold (p : Pieces) : Prop := ∀ piece ∈ p.threshold, piece = [] ∨ IsRun piece

/-- The piece that gives the number of faces. -/
def facesPiece (p : Pieces) : List Char := p.faces.getD p.lead

/-- The first thing that is wrong with the pieces of a text, and the error
that tells it.  The dice were cut out of `core`. -/
inductive Fault (core : List Char) (p : Pieces) : ParseError → Prop
  | empty (hnil : p.lead = []) : Fault core p .empty
  | lead (hne : p.lead ≠ []) (hbad : ¬ IsRun p.lead) : Fault core p (unreadable p.lead p.lead)
  | segments (hlead : IsRun p.lead) (htwo : 2 ≤ core.countP isDie) :
    Fault core p .tooManySegments
  | faces {piece} (hlead : IsRun p.lead) (hone : core.countP isDie < 2)
    (hpiece : p.faces = some piece) (hbad : ¬ IsRun piece) :
    Fault core p (unreadable piece piece)
  | modifier {piece} (hdice : p.GoodDice) (hpiece : p.modifier = some piece)
    (hbad : ¬ IsRun piece.tail) : Fault core p (unreadable piece piece.tail)
  | threshold {piece} (hdice : p.GoodDice) (hmodifier : p.GoodModifier)
    (hpiece : p.threshold = some piece) (hne : piece ≠ []) (hbad : ¬ IsRun piece) :
    Fault core p (unreadable piece piece)
  | die (hdice : p.GoodDice) (hmodifier : p.GoodModifier) (hthreshold : p.GoodThreshold)
    (hfew : value p.facesPiece < 2) : Fault core p .tooFewFaces

/-! ## The readers on good pieces and on others -/

section

variable {p : Pieces} {text body core : List Char}

/-- The first `d` of a core stands before the faces, so a second one is
found in them. -/
theorem DiceCut.two_le_countP_iff {lead : List Char} {faces : Option (List Char)}
    (h : DiceCut core lead faces) :
    2 ≤ core.countP isDie ↔ ∃ piece, faces = some piece ∧ piece.any isDie = true := by
  cases h with
  | absent hcore =>
    have hnone : core.countP isDie = 0 :=
      List.countP_eq_zero.2 fun c hc => Bool.eq_false_iff.1 (hcore c hc)
    rw [hnone]
    exact ⟨nofun, nofun⟩
  | @present lead die faces hdie hlead =>
    have hnone : lead.countP isDie = 0 :=
      List.countP_eq_zero.2 fun c hc => Bool.eq_false_iff.1 (hlead c hc)
    have hcount : (lead ++ die :: faces).countP isDie = faces.countP isDie + 1 := by
      rw [List.countP_append, hnone, List.countP_cons_of_pos hdie, Nat.zero_add]
    rw [hcount]
    constructor
    · intro htwo
      have hpos : 0 < faces.countP isDie := by omega
      exact ⟨faces, rfl, List.any_eq_true.2 (List.countP_pos_iff.1 hpos)⟩
    · intro ⟨_, heq, hany⟩
      cases heq
      have hpos := List.countP_pos_iff.2 (List.any_eq_true.1 hany)
      omega

theorem readDice_of_goodDice (h : p.GoodDice) :
    ∃ count, p.readDice = .ok (count, value p.facesPiece) := by
  cases hfaces : p.faces with
  | none =>
    refine ⟨1, readDice_eq_ok_iff.2 ⟨h.lead, .inl ⟨hfaces, rfl, ?_⟩⟩⟩
    rw [facesPiece, hfaces]
    rfl
  | some piece =>
    refine ⟨value p.lead, readDice_eq_ok_iff.2 ⟨h.lead, .inr ⟨piece, hfaces, ?_⟩⟩⟩
    refine ⟨h.faces piece hfaces, rfl, ?_⟩
    rw [facesPiece, hfaces]
    rfl

theorem readDice_of_two_dice (hcut : DiceCut core p.lead p.faces) (hlead : IsRun p.lead)
    (htwo : 2 ≤ core.countP isDie) : p.readDice = .error .tooManySegments := by
  obtain ⟨piece, hpiece, hany⟩ := hcut.two_le_countP_iff.1 htwo
  rw [readDice, if_neg hlead.ne_nil, readPiece_natural_of_isRun hlead, hpiece]
  simp only [hany, if_true]
  rfl

theorem readDice_of_bad_faces {piece : List Char} (hcut : DiceCut core p.lead p.faces)
    (hlead : IsRun p.lead) (hone : core.countP isDie < 2) (hpiece : p.faces = some piece)
    (hbad : ¬ IsRun piece) : p.readDice = .error (unreadable piece piece) := by
  have hany : piece.any isDie = false := by
    rw [← Bool.not_eq_true]
    intro hany
    exact absurd (hcut.two_le_countP_iff.2 ⟨piece, hpiece, hany⟩) (by omega)
  rw [readDice, if_neg hlead.ne_nil, readPiece_natural_of_isRun hlead, hpiece]
  simp only [hany, Bool.false_eq_true, if_false, readPiece_natural_of_not_isRun hbad]
  rfl

/-- A modifier that was cut off begins with its sign. -/
theorem ModifierCut.exists_sign {piece : List Char} {modifier : Option (List Char)}
    (h : ModifierCut body core modifier) (hpiece : modifier = some piece) :
    ∃ sign digits, piece = sign :: digits ∧ (sign = '+' ∨ sign = '-') := by
  cases h with
  | absent _ => cases hpiece
  | present hsign _ =>
    cases hpiece
    exact ⟨_, _, rfl, isSign_eq_true_iff.1 hsign⟩

theorem readModifier_of_goodModifier (hcut : ModifierCut body core p.modifier)
    (h : p.GoodModifier) : ∃ m, p.readModifier = .ok m := by
  cases hpiece : p.modifier with
  | none => exact ⟨0, readModifier_eq_ok_iff.2 (.inl ⟨hpiece, rfl⟩)⟩
  | some piece =>
    obtain ⟨sign, digits, rfl, hsign⟩ := hcut.exists_sign hpiece
    have hdigits : IsRun digits := h _ hpiece
    obtain ⟨m, hm⟩ := Decimal.exists_readSigned_of_isRun hsign hdigits
    exact ⟨m, readModifier_eq_ok_iff.2 (.inr ⟨_, hpiece, hm⟩)⟩

theorem readModifier_of_bad_modifier {piece : List Char} (hcut : ModifierCut body core p.modifier)
    (hpiece : p.modifier = some piece) (hbad : ¬ IsRun piece.tail) :
    p.readModifier = .error (unreadable piece piece.tail) := by
  obtain ⟨sign, digits, rfl, hsign⟩ := hcut.exists_sign hpiece
  rw [readModifier, hpiece]
  exact readPiece_of_error (Decimal.readSigned_of_not_isRun hsign hbad)

theorem readThreshold_of_goodThreshold (h : p.GoodThreshold) : ∃ t, p.readThreshold = .ok t := by
  cases hpiece : p.threshold with
  | none => exact ⟨none, readThreshold_eq_ok_iff.2 (.inl ⟨hpiece, rfl⟩)⟩
  | some piece =>
    obtain rfl | hrun := h piece hpiece
    · exact ⟨some 0, readThreshold_eq_ok_iff.2 (.inr (.inl ⟨hpiece, rfl⟩))⟩
    · exact ⟨_, readThreshold_eq_ok_iff.2 (.inr (.inr ⟨piece, hpiece, hrun, rfl⟩))⟩

theorem readThreshold_of_bad_threshold {piece : List Char} (hpiece : p.threshold = some piece)
    (hne : piece ≠ []) (hbad : ¬ IsRun piece) :
    p.readThreshold = .error (unreadable piece piece) := by
  obtain ⟨c, digits, rfl⟩ := List.exists_cons_of_ne_nil hne
  rw [readThreshold, hpiece]
  simp only [readPiece_natural_of_not_isRun hbad]
  rfl

/-! ## One error for each fault -/

theorem read_of_fault {err : ParseError} (hmodifierCut : ModifierCut body core p.modifier)
    (hdiceCut : DiceCut core p.lead p.faces) (h : Fault core p err) : p.read = .error err := by
  cases h with
  | empty hnil =>
    rw [read, readDice, if_pos hnil]
    rfl
  | lead hne hbad =>
    rw [read, readDice, if_neg hne, readPiece_natural_of_not_isRun hbad]
    rfl
  | segments hlead htwo =>
    rw [read, readDice_of_two_dice hdiceCut hlead htwo]
    rfl
  | faces hlead hone hpiece hbad =>
    rw [read, readDice_of_bad_faces hdiceCut hlead hone hpiece hbad]
    rfl
  | modifier hdice hpiece hbad =>
    obtain ⟨count, hdice⟩ := readDice_of_goodDice hdice
    rw [read, hdice, readModifier_of_bad_modifier hmodifierCut hpiece hbad]
    rfl
  | threshold hdice hmodifier hpiece hne hbad =>
    obtain ⟨count, hdice⟩ := readDice_of_goodDice hdice
    obtain ⟨m, hmodifier⟩ := readModifier_of_goodModifier hmodifierCut hmodifier
    rw [read, hdice, hmodifier, readThreshold_of_bad_threshold hpiece hne hbad]
    rfl
  | die hdice hmodifier hthreshold hfew =>
    obtain ⟨count, hdice⟩ := readDice_of_goodDice hdice
    obtain ⟨m, hmodifier⟩ := readModifier_of_goodModifier hmodifierCut hmodifier
    obtain ⟨t, hthreshold⟩ := readThreshold_of_goodThreshold hthreshold
    rw [read, hdice, hmodifier, hthreshold]
    exact Expression.make_eq_error_iff.2 ⟨by omega, rfl⟩

/-- Pieces with nothing wrong are read. -/
theorem exists_read_of_no_fault (hmodifierCut : ModifierCut body core p.modifier)
    (hno : ∀ err, ¬ Fault core p err) : ∃ e, p.read = .ok e := by
  have hne : p.lead ≠ [] := fun hnil => hno _ (.empty hnil)
  have hlead : IsRun p.lead := Classical.byContradiction fun hbad => hno _ (.lead hne hbad)
  have hone : core.countP isDie < 2 := Nat.not_le.1 fun htwo => hno _ (.segments hlead htwo)
  have hdice : p.GoodDice := by
    refine ⟨hlead, fun piece hpiece => ?_⟩
    exact Classical.byContradiction fun hbad => hno _ (.faces hlead hone hpiece hbad)
  have hmodifier : p.GoodModifier := fun piece hpiece =>
    Classical.byContradiction fun hbad => hno _ (.modifier hdice hpiece hbad)
  have hthreshold : p.GoodThreshold := by
    intro piece hpiece
    by_cases hnil : piece = []
    · exact .inl hnil
    · refine .inr (Classical.byContradiction fun hbad => ?_)
      exact hno _ (.threshold hdice hmodifier hpiece hnil hbad)
  have hfaces : 2 ≤ value p.facesPiece :=
    Nat.not_lt.1 fun hfew => hno _ (.die hdice hmodifier hthreshold hfew)
  obtain ⟨count, hdice⟩ := readDice_of_goodDice hdice
  obtain ⟨m, hmodifier⟩ := readModifier_of_goodModifier hmodifierCut hmodifier
  obtain ⟨t, hthreshold⟩ := readThreshold_of_goodThreshold hthreshold
  refine ⟨⟨count, value p.facesPiece, m, Expression.resolve (value p.facesPiece) t, ?_, ?_⟩, ?_⟩
  · exact Int.ofNat_le.2 hfaces
  · exact Expression.resolve_ne_zero (Int.ofNat_le.2 hfaces) t
  · exact read_eq_ok_iff.2 ⟨_, _, _, _, hdice, hmodifier, hthreshold, rfl, rfl, rfl, rfl⟩

theorem read_eq_error_iff_fault {err : ParseError}
    (hmodifierCut : ModifierCut body core p.modifier) (hdiceCut : DiceCut core p.lead p.faces) :
    p.read = .error err ↔ Fault core p err := by
  refine ⟨fun h => ?_, read_of_fault hmodifierCut hdiceCut⟩
  by_cases hfault : ∃ other, Fault core p other
  · obtain ⟨other, hother⟩ := hfault
    have hread := read_of_fault hmodifierCut hdiceCut hother
    rw [h] at hread
    rwa [Except.error.inj hread]
  · obtain ⟨e, hread⟩ := exists_read_of_no_fault hmodifierCut (not_exists.1 hfault)
    rw [h] at hread
    cases hread

end

end Pieces

open Pieces

/-- **First error**: cut at its last exclamation mark, at the last sign
before that and at the first `d` before that, a text without its spaces is
refused with an error exactly when that tells the first thing wrong with
the pieces, and it is read exactly when nothing is. -/
theorem parse_error_iff_fault (text : String) :
    ∃ body core p,
      ThresholdCut (text.toList.filter (· != ' ')) body p.threshold ∧
      ModifierCut body core p.modifier ∧ DiceCut core p.lead p.faces ∧
      (∀ err, Expression.parse text = .error err ↔ Fault core p err) ∧
      ((∃ e, Expression.parse text = .ok e) ↔ ∀ err, ¬ Fault core p err) := by
  obtain ⟨hthresholdCut, hmodifierCut, hdiceCut⟩ := cut_ofChars text.toList
  refine ⟨_, _, ofChars text.toList, hthresholdCut, hmodifierCut, hdiceCut,
    fun err => read_eq_error_iff_fault hmodifierCut hdiceCut, ?_, ?_⟩
  · rintro ⟨e, he⟩ err hfault
    have hread : Expression.parse text = .error err :=
      read_of_fault hmodifierCut hdiceCut hfault
    rw [he] at hread
    cases hread
  · exact exists_read_of_no_fault hmodifierCut

/-- Lead, faces, modifier and threshold are all wrong, and the lead is told
first; with the lead mended it is the second `d`, found in the faces. -/
example : Expression.parse "x d6 d+!-1" = .error (unreadable ['x'] ['x']) ∧
    Expression.parse "3 d6 d+!-1" = .error .tooManySegments := ⟨rfl, rfl⟩

end Dicebag
