import Dicebag.Expression.Parser

/-!
# Dicebag.Proofs.Expression.Cuts

How the text of an expression falls apart.  Each of the three cuts is
described by a relation that says where its mark stands and which
characters the pieces around it cannot hold; the functions that cut decide
these relations, and `Pieces.ofChars` finds the one way in which a text
without spaces is cut (`cut_ofChars`, `ofChars_eq`).
-/

namespace Dicebag.Pieces

/-! ## The cuts as relations -/

/-- A text is its body and, behind its last exclamation mark, a
threshold. -/
inductive ThresholdCut : List Char → List Char → Option (List Char) → Prop
  | absent {body} (hbody : '!' ∉ body) : ThresholdCut body body none
  | present {body threshold} (hthreshold : '!' ∉ threshold) :
    ThresholdCut (body ++ '!' :: threshold) body (some threshold)

/-- A body is its core and, from its last sign on, a modifier. -/
inductive ModifierCut : List Char → List Char → Option (List Char) → Prop
  | absent {core} (hcore : ∀ c ∈ core, isSign c = false) : ModifierCut core core none
  | present {core sign digits} (hsign : isSign sign = true)
    (hdigits : ∀ c ∈ digits, isSign c = false) :
    ModifierCut (core ++ sign :: digits) core (some (sign :: digits))

/-- A core is what stands before its first `d` or `D` and the faces behind
it. -/
inductive DiceCut : List Char → List Char → Option (List Char) → Prop
  | absent {core} (hcore : ∀ c ∈ core, isDie c = false) : DiceCut core core none
  | present {lead die faces} (hdie : isDie die = true) (hlead : ∀ c ∈ lead, isDie c = false) :
    DiceCut (lead ++ die :: faces) lead (some faces)

/-- A text without spaces is cut into pieces. -/
inductive Cut : List Char → Pieces → Prop
  | intro {text body core p} (threshold : ThresholdCut text body p.threshold)
    (modifier : ModifierCut body core p.modifier) (dice : DiceCut core p.lead p.faces) :
    Cut text p

/-! ## The functions that cut -/

theorem isBang_eq_false_iff {c : Char} : isBang c = false ↔ c ≠ '!' := by
  simp [isBang]

theorem forall_isBang_eq_false_iff {text : List Char} :
    (∀ c ∈ text, isBang c = false) ↔ '!' ∉ text := by
  simp only [isBang_eq_false_iff]
  exact ⟨fun h hmem => h _ hmem rfl, fun h c hc heq => h (heq ▸ hc)⟩

theorem thresholdCut_cutThreshold (text : List Char) :
    ThresholdCut text (cutThreshold text).1 (cutThreshold text).2 := by
  unfold cutThreshold
  split
  · next body mark threshold hcut =>
    obtain ⟨rfl, hmark, hthreshold⟩ := Text.cutLast?_eq_some_iff.1 hcut
    obtain rfl : mark = '!' := by simpa [isBang] using hmark
    exact .present (forall_isBang_eq_false_iff.1 hthreshold)
  · next hcut =>
    exact .absent (forall_isBang_eq_false_iff.1 (Text.cutLast?_eq_none_iff.1 hcut))

theorem cutThreshold_eq {text body : List Char} {threshold : Option (List Char)}
    (h : ThresholdCut text body threshold) : cutThreshold text = (body, threshold) := by
  unfold cutThreshold
  cases h with
  | absent hbody =>
    rw [Text.cutLast?_eq_none_iff.2 (forall_isBang_eq_false_iff.2 hbody)]
  | present hthreshold =>
    rw [Text.cutLast?_eq_some_iff.2 ⟨rfl, rfl, forall_isBang_eq_false_iff.2 hthreshold⟩]

theorem modifierCut_cutModifier (body : List Char) :
    ModifierCut body (cutModifier body).1 (cutModifier body).2 := by
  unfold cutModifier
  split
  · next core sign digits hcut =>
    obtain ⟨rfl, hsign, hdigits⟩ := Text.cutLast?_eq_some_iff.1 hcut
    exact .present hsign hdigits
  · next hcut => exact .absent (Text.cutLast?_eq_none_iff.1 hcut)

theorem cutModifier_eq {body core : List Char} {modifier : Option (List Char)}
    (h : ModifierCut body core modifier) : cutModifier body = (core, modifier) := by
  unfold cutModifier
  cases h with
  | absent hcore => rw [Text.cutLast?_eq_none_iff.2 hcore]
  | present hsign hdigits => rw [Text.cutLast?_eq_some_iff.2 ⟨rfl, hsign, hdigits⟩]

theorem diceCut_cutDice (core : List Char) : DiceCut core (cutDice core).1 (cutDice core).2 := by
  unfold cutDice
  split
  · next lead die faces hcut =>
    obtain ⟨rfl, hdie, hlead⟩ := Text.cutFirst?_eq_some_iff.1 hcut
    exact .present hdie hlead
  · next hcut => exact .absent (Text.cutFirst?_eq_none_iff.1 hcut)

theorem cutDice_eq {core lead : List Char} {faces : Option (List Char)}
    (h : DiceCut core lead faces) : cutDice core = (lead, faces) := by
  unfold cutDice
  cases h with
  | absent hcore => rw [Text.cutFirst?_eq_none_iff.2 hcore]
  | present hdie hlead => rw [Text.cutFirst?_eq_some_iff.2 ⟨rfl, hdie, hlead⟩]

/-! ## The pieces of a text -/

theorem cut_ofChars (text : List Char) : Cut (withoutSpaces text) (ofChars text) :=
  .intro (thresholdCut_cutThreshold _) (modifierCut_cutModifier _) (diceCut_cutDice _)

theorem ofChars_eq {text : List Char} {p : Pieces} (h : Cut (withoutSpaces text) p) :
    ofChars text = p := by
  obtain ⟨hthreshold, hmodifier, hdice⟩ := h
  simp only [ofChars, cutThreshold_eq hthreshold, cutModifier_eq hmodifier, cutDice_eq hdice]

end Dicebag.Pieces
