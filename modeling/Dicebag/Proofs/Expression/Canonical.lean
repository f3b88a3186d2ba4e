import Dicebag.Proofs.Expression.RoundTrip

/-!
# Dicebag.Proofs.Expression.Canonical

Canonical texts.  The parser lets the number of dice be left out, takes `D`
for `d`, ignores spaces, and reads numbers with leading zeros, a modifier of
zero, and a threshold that is zero or left out.  `IsCanonical` is the grammar
without these liberties, said of the text as it stands:

* `Expression.isCanonical_chars` — nothing else is written of an expression that was read;
* `IsCanonical.exists_cut` — a canonical text is cut where its parts were joined, and
  each part is written as it is read;
* `rewritten_iff_canonical` — so the canonical texts are those that do not change.
-/

namespace Dicebag

open Decimal (IsNumeral value)
open Pieces

/-! ## The canonical grammar -/

namespace Canonical

/-- The number of dice: zero, or a number without leading zero. -/
inductive Count : List Char → Prop
  | zero : Count ['0']
  | given {digits} (hdigits : IsNumeral digits) : Count digits

/-- The dice: how many, a lower-case `d`, and their faces. -/
inductive Dice : List Char → Prop
  | intro {count faces} (hcount : Count count) (hfaces : IsNumeral faces) :
    Dice (count ++ 'd' :: faces)

/-- A modifier, if there is one, has a sign and is not zero. -/
inductive Modifier : List Char → Prop
  | absent : Modifier []
  | given {sign digits} (hsign : sign = '+' ∨ sign = '-') (hdigits : IsNumeral digits) :
    Modifier (sign :: digits)

/-- A threshold, if there is one, is a number that is not zero. -/
inductive Threshold : List Char → Prop
  | absent : Threshold []
  | given {digits} (hdigits : IsNumeral digits) : Threshold ('!' :: digits)

end Canonical

/-- A text is canonical as it stands: it is dice, perhaps a modifier behind
them, and perhaps a threshold behind that, without spaces or leading
zeros. -/
inductive IsCanonical : List Char → Prop
  | intro {dice modifier threshold} (hdice : Canonical.Dice dice)
    (hmodifier : Canonical.Modifier modifier) (hthreshold : Canonical.Threshold threshold) :
    IsCanonical (dice ++ modifier ++ threshold)

/-! ## What is written is canonical -/

namespace Expression

variable {e : Expression}

theorem count_chars (h : 0 ≤ e.count) : Canonical.Count (Decimal.integer e.count) := by
  rw [Decimal.integer_of_nonneg h]
  by_cases hzero : e.count = 0
  · rw [hzero]
    exact .zero
  · exact .given (Decimal.isNumeral_natural (Int.natAbs_ne_zero.2 hzero))

theorem modifier_chars (e : Expression) : Canonical.Modifier e.modifierChars := by
  unfold modifierChars
  split
  · exact .absent
  · next hne =>
    obtain ⟨sign, hsign, heq⟩ := exists_signed_eq e.modifier
    rw [heq]
    exact .given (isSign_eq_true_iff.1 hsign)
      (Decimal.isNumeral_natural (Int.natAbs_ne_zero.2 hne))

theorem threshold_chars (h : ∀ t ∈ e.threshold, 0 < t) : Canonical.Threshold e.thresholdChars := by
  unfold thresholdChars
  split
  · exact .absent
  · next t ht =>
    have hpos : 0 < t := h t ht
    rw [Decimal.integer_of_nonneg (Int.le_of_lt hpos)]
    exact .given (Decimal.isNumeral_natural (by omega))

theorem isCanonical_chars (hcount : 0 ≤ e.count) (hthreshold : ∀ t ∈ e.threshold, 0 < t) :
    IsCanonical e.chars := by
  have hfaces : IsNumeral (Decimal.integer e.faces) := by
    have htwo := e.two_le_faces
    rw [integer_faces]
    exact Decimal.isNumeral_natural (by omega)
  exact .intro (.intro (count_chars hcount) hfaces) (modifier_chars e)
    (threshold_chars hthreshold)

end Expression

/-! ## What is canonical is written as it is read -/

namespace Canonical

theorem Count.isDigit {count : List Char} (h : Count count) : ∀ c ∈ count, c.isDigit := by
  cases h with
  | zero => exact List.forall_mem_singleton.2 rfl
  | given hdigits => exact hdigits.isDigit

theorem Count.natural_value {count : List Char} (h : Count count) :
    Decimal.natural (value count) = count := by
  cases h with
  | zero => rfl
  | given hdigits => exact hdigits.natural_value

theorem Dice.isDigit_or_eq_d {dice : List Char} (h : Dice dice) :
    ∀ c ∈ dice, c.isDigit ∨ c = 'd' := by
  obtain ⟨hcount, hfaces⟩ := h
  exact List.forall_mem_append.2 ⟨fun c hc => .inl (hcount.isDigit c hc),
    List.forall_mem_cons.2 ⟨.inr rfl, fun c hc => .inl (hfaces.isDigit c hc)⟩⟩

theorem Dice.isSign_eq_false {dice : List Char} (h : Dice dice) :
    ∀ c ∈ dice, isSign c = false := by
  intro c hc
  obtain hdigit | rfl := h.isDigit_or_eq_d c hc
  · exact isSign_of_isDigit hdigit
  · rfl

theorem Modifier.isDigit_or_isSign {modifier : List Char} (h : Modifier modifier) :
    ∀ c ∈ modifier, c.isDigit ∨ isSign c := by
  cases h with
  | absent => exact fun c hc => absurd hc List.not_mem_nil
  | given hsign hdigits =>
    exact List.forall_mem_cons.2
      ⟨.inr (isSign_eq_true_iff.2 hsign), fun c hc => .inl (hdigits.isDigit c hc)⟩

theorem Threshold.isDigit_or_eq_bang {threshold : List Char} (h : Threshold threshold) :
    ∀ c ∈ threshold, c.isDigit ∨ c = '!' := by
  cases h with
  | absent => exact fun c hc => absurd hc List.not_mem_nil
  | given hdigits =>
    exact List.forall_mem_cons.2 ⟨.inr rfl, fun c hc => .inl (hdigits.isDigit c hc)⟩

theorem bang_notMem_body {dice modifier : List Char} (hdice : Dice dice)
    (hmodifier : Modifier modifier) : '!' ∉ dice ++ modifier := by
  intro hmem
  obtain hmem | hmem := List.mem_append.1 hmem
  · exact absurd (hdice.isDigit_or_eq_d _ hmem) (by decide)
  · exact absurd (hmodifier.isDigit_or_isSign _ hmem) (by decide)

/-- The dice are cut where they were joined, and written as they are read. -/
theorem Dice.exists_cut {dice : List Char} (h : Dice dice) :
    ∃ lead piece, DiceCut dice lead piece ∧ ∀ (p : Pieces) (e : Expression) (count faces : Nat),
      p.lead = lead → p.faces = piece → p.readDice = .ok (count, faces) → e.count = count →
      e.faces = faces → e.diceChars = dice := by
  obtain ⟨hcount, hfaces⟩ := h
  refine ⟨_, _, .present rfl fun c hc => isDie_of_isDigit (hcount.isDigit c hc), ?_⟩
  intro p e n k hlead hpiece hread hn hk
  obtain ⟨_, ⟨hnone, _⟩ | ⟨_, hsome, _, rfl, rfl⟩⟩ := readDice_eq_ok_iff.1 hread
  · rw [hpiece] at hnone
    cases hnone
  rw [hpiece] at hsome
  cases hsome
  rw [Expression.diceChars, hn, hk, hlead]
  show Decimal.natural (value _) ++ 'd' :: Decimal.natural (value _) = _
  rw [hcount.natural_value, hfaces.natural_value]

/-- The modifier is cut off where it was joined, and written as it is
read. -/
theorem Modifier.exists_cut {dice modifier : List Char} (h : Modifier modifier)
    (hdice : ∀ c ∈ dice, isSign c = false) :
    ∃ piece, ModifierCut (dice ++ modifier) dice piece ∧ ∀ (p : Pieces) (e : Expression),
      p.modifier = piece → p.readModifier = .ok e.modifier → e.modifierChars = modifier := by
  cases h with
  | absent =>
    refine ⟨none, ?_, fun p e hp hread => ?_⟩
    · rw [List.append_nil]
      exact .absent hdice
    · obtain ⟨_, hzero⟩ | ⟨_, hsome, _⟩ := readModifier_eq_ok_iff.1 hread
      · exact if_pos hzero
      · rw [hp] at hsome
        cases hsome
  | @given sign digits hsign hdigits =>
    refine ⟨_, .present (isSign_eq_true_iff.2 hsign)
      fun c hc => isSign_of_isDigit (hdigits.isDigit c hc), fun p e hp hread => ?_⟩
    obtain ⟨hnone, _⟩ | ⟨_, hsome, hpiece⟩ := readModifier_eq_ok_iff.1 hread
    · rw [hp] at hnone
      cases hnone
    rw [hp] at hsome
    cases hsome
    have hne := hdigits.value_ne_zero
    obtain ⟨_, _, ⟨heq, hm⟩ | ⟨heq, hm⟩⟩ := Decimal.readSigned_eq_ok_iff.1 hpiece
    · cases heq
      rw [Expression.modifierChars, if_neg (by omega), Decimal.signed_of_nonneg (by omega), hm,
        Int.natAbs_natCast, hdigits.natural_value]
    · cases heq
      rw [Expression.modifierChars, if_neg (by omega), Decimal.signed_of_neg (by omega), hm,
        Int.natAbs_neg, Int.natAbs_natCast, hdigits.natural_value]

/-- The threshold is cut off where it was joined, and written as it is
read. -/
theorem Threshold.exists_cut {body threshold : List Char} (h : Threshold threshold)
    (hbody : '!' ∉ body) :
    ∃ piece, ThresholdCut (body ++ threshold) body piece ∧
      ∀ (p : Pieces) (e : Expression) (faces : Int) (t : Option Int), p.threshold = piece →
        p.readThreshold = .ok t → e.threshold = Expression.resolve faces t →
        e.thresholdChars = threshold := by
  cases h with
  | absent =>
    refine ⟨none, ?_, fun p e faces t hp hread ht => ?_⟩
    · rw [List.append_nil]
      exact .absent hbody
    · rw [readThreshold, hp] at hread
      cases hread
      rw [Expression.thresholdChars, ht]
      rfl
  | @given digits hdigits =>
    refine ⟨_, .present fun hmem => ne_bang_of_isDigit (hdigits.isDigit _ hmem) rfl,
      fun p e faces t hp hread ht => ?_⟩
    obtain ⟨hnone, _⟩ | ⟨hnil, _⟩ | ⟨_, hsome, _, rfl⟩ := readThreshold_eq_ok_iff.1 hread
    · rw [hp] at hnone
      cases hnone
    · rw [hp] at hnil
      exact absurd (Option.some.inj hnil) hdigits.ne_nil
    · rw [hp] at hsome
      cases hsome
      have hne : some (value digits : Int) ≠ some 0 := by simpa using hdigits.value_ne_zero
      rw [Expression.resolve_of_ne_zero hne] at ht
      rw [Expression.thresholdChars, ht]
      exact congrArg (_ :: ·) hdigits.natural_value

end Canonical

/-- A canonical text is cut where its parts were joined, and written as it is
read. -/
theorem IsCanonical.exists_cut {text : List Char} (h : IsCanonical text) :
    ∃ p, Cut text p ∧ ∀ e, p.read = .ok e → e.chars = text := by
  obtain ⟨hdice, hmodifier, hthreshold⟩ := h
  obtain ⟨lead, faces, hdiceCut, hdiceChars⟩ := hdice.exists_cut
  obtain ⟨modifier, hmodifierCut, hmodifierChars⟩ := hmodifier.exists_cut hdice.isSign_eq_false
  obtain ⟨threshold, hthresholdCut, hthresholdChars⟩ :=
    hthreshold.exists_cut (Canonical.bang_notMem_body hdice hmodifier)
  refine ⟨⟨lead, faces, modifier, threshold⟩, .intro hthresholdCut hmodifierCut hdiceCut, ?_⟩
  intro e hread
  obtain ⟨n, k, _, t, hreadDice, hreadModifier, hreadThreshold, hn, hk, rfl, ht⟩ :=
    read_eq_ok_iff.1 hread
  rw [Expression.chars_eq, hdiceChars _ e n k rfl rfl hreadDice hn hk,
    hmodifierChars _ e rfl hreadModifier, hthresholdChars _ e k t rfl hreadThreshold ht]

theorem IsCanonical.withoutSpaces {text : List Char} (h : IsCanonical text) :
    Pieces.withoutSpaces text = text := by
  obtain ⟨hdice, hmodifier, hthreshold⟩ := h
  rw [Pieces.withoutSpaces, List.filter_eq_self]
  intro c hc
  rw [bne_iff_ne]
  intro hspace
  subst hspace
  rw [List.mem_append, List.mem_append] at hc
  obtain (hc | hc) | hc := hc
  · exact absurd (hdice.isDigit_or_eq_d _ hc) (by decide)
  · exact absurd (hmodifier.isDigit_or_isSign _ hc) (by decide)
  · exact absurd (hthreshold.isDigit_or_eq_bang _ hc) (by decide)

theorem Expression.chars_of_isCanonical {text : List Char} {e : Expression}
    (htext : IsCanonical text) (h : Expression.ofChars text = .ok e) : e.chars = text := by
  obtain ⟨p, hcut, hchars⟩ := htext.exists_cut
  have hpieces : Pieces.ofChars text = p := by
    refine ofChars_eq ?_
    rw [htext.withoutSpaces]
    exact hcut
  rw [Expression.ofChars, hpieces] at h
  exact hchars e h

/-! ## Texts that are written as they were read -/

/-- **Canonical texts**: what was read from a text is written, and it is
written as that text if and only if the text is canonical. -/
theorem rewritten_iff_canonical (text : String) (e : Expression)
    (h : Expression.parse text = .ok e) :
    ∃ written, e.render = .ok written ∧ (written = text ↔ IsCanonical text.toList) := by
  have hspelling := spelling_of_ofChars h
  refine ⟨_, Expression.render_eq (Expression.writable_of_parse h), ?_, fun htext => ?_⟩
  · intro hwritten
    rw [← hwritten, String.toList_ofList]
    exact Expression.isCanonical_chars hspelling.count_nonneg
      (hspelling.threshold_pos e.two_le_faces)
  · rw [Expression.chars_of_isCanonical htext h, String.ofList_toList]

/-- No dice under disadvantage with a threshold of their own, which is
canonical, and the highest face as a threshold left out, which is not. -/
theorem rewritten_iff_canonical_instances :
    IsCanonical "0d20-13!19".toList ∧ ¬ IsCanonical "3d8!".toList := by
  have hparse : Expression.parse "0d20-13!19" =
      .ok ⟨0, 20, -13, some 19, by decide, by decide⟩ := by rfl
  have hparse' : Expression.parse "3d8!" = .ok ⟨3, 8, 0, some 8, by decide, by decide⟩ := by rfl
  obtain ⟨written, hwritten, hiff⟩ := rewritten_iff_canonical _ _ hparse
  obtain ⟨written', hwritten', hiff'⟩ := rewritten_iff_canonical _ _ hparse'
  rw [Expression.render_eq (Expression.writable_of_parse hparse), Except.ok.injEq] at hwritten
  rw [Expression.render_eq (Expression.writable_of_parse hparse'), Except.ok.injEq] at hwritten'
  subst hwritten hwritten'
  exact ⟨hiff.1 (by decide), fun h => absurd (hiff'.2 h) (by decide)⟩

end Dicebag
