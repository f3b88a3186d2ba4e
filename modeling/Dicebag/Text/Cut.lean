/-!
# Dicebag.Text.Cut

Cutting a text at a mark: at the first character of a class, or at the
last.  Each cut is pinned down by one equivalence — it found its mark
exactly when the text is the two pieces around that mark and the piece
that was searched holds no other — and by when it finds none.
-/

namespace Dicebag.Text

/-- Cuts a text at its first character in `mark`: what stands before it,
the character, and what follows it. -/
def cutFirst? (mark : Char → Bool) : List Char → Option (List Char × Char × List Char)
  | [] => none
  | c :: rest =>
    if mark c then some ([], c, rest)
    else (cutFirst? mark rest).map fun (before, m, after) => (c :: before, m, after)

/-- Cuts a text at its last character in `mark`: what stands before it,
the character, and what follows it. -/
def cutLast? (mark : Char → Bool) (text : List Char) : Option (List Char × Char × List Char) :=
  (cutFirst? mark text.reverse).map fun (after, m, before) => (before.reverse, m, after.reverse)

/-! ## Laws -/

theorem cutFirst?_eq_none_iff {mark : Char → Bool} {text : List Char} :
    cutFirst? mark text = none ↔ ∀ c ∈ text, mark c = false := by
  induction text with
  | nil => simp [cutFirst?]
  | cons c rest ih => by_cases h : mark c <;> simp [cutFirst?, h, ih]

theorem cutFirst?_append {mark : Char → Bool} {before after : List Char} {m : Char}
    (hm : mark m) (hbefore : ∀ c ∈ before, mark c = false) :
    cutFirst? mark (before ++ m :: after) = some (before, m, after) := by
  induction before with
  | nil => simp [cutFirst?, hm]
  | cons c rest ih =>
    have hc := hbefore c List.mem_cons_self
    simp [cutFirst?, hc, ih fun d hd => hbefore d (List.mem_cons_of_mem _ hd)]

/-- A text is cut at a character behind what does not hold that character. -/
theorem cutFirst?_of_notMem {before : List Char} {c : Char} (h : c ∉ before) (after : List Char) :
    cutFirst? (· == c) (before ++ c :: after) = some (before, c, after) := by
  refine cutFirst?_append (beq_self_eq_true c) fun d hd => ?_
  rw [beq_eq_false_iff_ne]
  exact fun hdc => h (hdc ▸ hd)

theorem cutFirst?_eq_some {mark : Char → Bool} {text before after : List Char} {m : Char}
    (h : cutFirst? mark text = some (before, m, after)) :
    text = before ++ m :: after ∧ mark m ∧ ∀ c ∈ before, mark c = false := by
  induction text generalizing before with
  | nil => simp [cutFirst?] at h
  | cons c rest ih =>
    unfold cutFirst? at h
    split at h
    · cases h; simp_all
    · obtain ⟨⟨x, y, z⟩, hcut, heq⟩ := Option.map_eq_some_iff.1 h
      cases heq
      have := ih hcut
      simp_all

theorem cutFirst?_eq_some_iff {mark : Char → Bool} {text before after : List Char} {m : Char} :
    cutFirst? mark text = some (before, m, after) ↔
      text = before ++ m :: after ∧ mark m ∧ ∀ c ∈ before, mark c = false :=
  ⟨cutFirst?_eq_some, fun ⟨htext, hm, hbefore⟩ => htext ▸ cutFirst?_append hm hbefore⟩

theorem cutLast?_eq_none_iff {mark : Char → Bool} {text : List Char} :
    cutLast? mark text = none ↔ ∀ c ∈ text, mark c = false := by
  simp [cutLast?, cutFirst?_eq_none_iff]

theorem cutLast?_eq_some_iff {mark : Char → Bool} {text before after : List Char} {m : Char} :
    cutLast? mark text = some (before, m, after) ↔
      text = before ++ m :: after ∧ mark m ∧ ∀ c ∈ after, mark c = false := by
  constructor
  · intro h
    obtain ⟨⟨x, y, z⟩, hcut, heq⟩ := Option.map_eq_some_iff.1 h
    cases heq
    have ⟨htext, hm, hx⟩ := cutFirst?_eq_some hcut
    exact ⟨by simpa using congrArg List.reverse htext, hm, fun c hc => hx c (by simpa using hc)⟩
  · rintro ⟨rfl, hm, hafter⟩
    have hcut : cutFirst? mark (after.reverse ++ m :: before.reverse)
        = some (after.reverse, m, before.reverse) :=
      cutFirst?_append hm fun c hc => hafter c (by simpa using hc)
    simp [cutLast?, hcut]

end Dicebag.Text
