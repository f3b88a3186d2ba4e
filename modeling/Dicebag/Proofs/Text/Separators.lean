import Mathlib.Data.List.Basic

/-!
# Dicebag.Proofs.Text.Separators

Texts taken apart at separators of several characters, each time at the
first place where the separator stands (`List.dropInfix?`).

A text may hold some characters of a separator, as padding holds spaces, and
still be found whole in front of it: it is enough that it holds no
occurrence of one chosen character, the first of the separator
(`dropInfix?_of_first_notMem`) or the second (`dropInfix?_of_second_notMem`).
So parts that are joined by a separator and do not hold its second character
are the parts that it is split into (`splitAt_intercalate`).
-/

namespace Dicebag.Text

theorem length_lt_of_dropInfix? {separator text before after : List Char} (hne : separator ≠ [])
    (h : text.dropInfix? separator = some (before, after)) : after.length < text.length := by
  obtain ⟨⟨found, htext, hfound⟩, _⟩ := List.dropInfix?_eq_some_iff.1 h
  have hpos : 0 < found.length := List.length_pos_iff.2 (eq_of_beq hfound ▸ hne)
  simp only [htext, List.length_append]
  omega

/-- The parts of a text between the places where a separator stands.  An
empty one stands nowhere. -/
def splitAt (separator text : List Char) : List (List Char) :=
  if _hne : separator = [] then [text]
  else
    match _h : text.dropInfix? separator with
    | none => [text]
    | some (before, after) => before :: splitAt separator after
termination_by text.length
decreasing_by exact length_lt_of_dropInfix? _hne _h

/-! ## Cutting at a separator -/

section

variable {c d : Char} {others text before after : List Char}

theorem dropInfix?_eq_some {separator : List Char}
    (hfirst : ∀ front back, before ++ separator ++ after = front ++ separator ++ back →
      before.length ≤ front.length) :
    (before ++ separator ++ after).dropInfix? separator = some (before, after) := by
  rw [List.dropInfix?_eq_some_iff]
  refine ⟨⟨separator, rfl, beq_self_eq_true _⟩, fun front found back htext hfound => ?_⟩
  rw [eq_of_beq hfound] at htext
  exact hfirst front back htext

theorem dropSuffix?_append (front rest : List Char) :
    (front ++ rest).dropSuffix? rest = some front :=
  List.dropSuffix?_eq_some_iff.2 ⟨rest, rfl, beq_self_eq_true _⟩

/-- A separator is found behind what does not hold its first character. -/
theorem dropInfix?_of_first_notMem (h : c ∉ before) (after : List Char) :
    (before ++ c :: others ++ after).dropInfix? (c :: others) = some (before, after) := by
  refine dropInfix?_eq_some fun front back htext => ?_
  induction before generalizing front with
  | nil => exact Nat.zero_le _
  | cons b before ih =>
    simp only [List.mem_cons, not_or] at h
    cases front with
    | nil => exact absurd (List.cons.inj htext).1.symm h.1
    | cons f front => exact Nat.succ_le_succ (ih h.2 front (List.cons.inj htext).2)

/-- A separator is found behind what does not hold its second character,
unless that is also its first. -/
theorem dropInfix?_of_second_notMem (hcd : c ≠ d) (h : d ∉ before) (after : List Char) :
    (before ++ c :: d :: others ++ after).dropInfix? (c :: d :: others) =
      some (before, after) := by
  refine dropInfix?_eq_some fun front back htext => ?_
  induction before generalizing front with
  | nil => exact Nat.zero_le _
  | cons b before ih =>
    simp only [List.mem_cons, not_or] at h
    cases front with
    | nil =>
      -- the second character would stand where `before` goes on or the separator begins
      have hsecond := (List.cons.inj htext).2
      cases before with
      | nil => exact absurd (List.cons.inj hsecond).1 hcd
      | cons e before => simp_all
    | cons f front => exact Nat.succ_le_succ (ih h.2 front (List.cons.inj htext).2)

theorem not_isInfix_of_second_notMem (h : d ∉ text) : ¬ c :: d :: others <:+: text := fun hoccurs =>
  h (hoccurs.subset (by simp))

theorem dropInfix?_eq_none (h : d ∉ text) : text.dropInfix? (c :: d :: others) = none := by
  cases hcut : text.dropInfix? (c :: d :: others) with
  | none => rfl
  | some parts =>
    obtain ⟨⟨found, htext, hfound⟩, _⟩ := List.dropInfix?_eq_some_iff.1 hcut
    rw [eq_of_beq hfound] at htext
    exact absurd ⟨parts.1, parts.2, htext.symm⟩ (not_isInfix_of_second_notMem h)

/-! ## Splitting at a separator -/

theorem splitAt_eq (text : List Char) :
    splitAt (c :: others) text =
      match text.dropInfix? (c :: others) with
      | none => [text]
      | some (before, after) => before :: splitAt (c :: others) after := by
  rw [splitAt, dif_neg (List.cons_ne_nil _ _)]
  split <;> simp [*]

theorem splitAt_of_notMem (h : d ∉ text) : splitAt (c :: d :: others) text = [text] := by
  rw [splitAt_eq, dropInfix?_eq_none h]

theorem splitAt_append (hcd : c ≠ d) (h : d ∉ before) (after : List Char) :
    splitAt (c :: d :: others) (before ++ c :: d :: others ++ after) =
      before :: splitAt (c :: d :: others) after := by
  rw [splitAt_eq, dropInfix?_of_second_notMem hcd h]

theorem mem_of_mem_intercalate {c : Char} {separator : List Char} {parts : List (List Char)}
    (h : c ∈ separator.intercalate parts) : c ∈ separator ∨ ∃ part ∈ parts, c ∈ part := by
  induction parts with
  | nil => exact absurd h List.not_mem_nil
  | cons part parts ih =>
    cases parts with
    | nil => exact .inr ⟨part, List.mem_cons_self, by simpa using h⟩
    | cons next parts =>
      simp only [List.intercalate_cons_cons, List.mem_append] at h
      obtain (h | h) | h := h
      · exact .inr ⟨part, List.mem_cons_self, h⟩
      · exact .inl h
      · exact (ih h).imp_right fun ⟨other, hother, hc⟩ => ⟨other, List.mem_cons_of_mem _ hother, hc⟩

/-- Parts that are joined by a separator are what it is split into, if none
of them holds the second character of the separator. -/
theorem splitAt_intercalate {parts : List (List Char)} (hcd : c ≠ d)
    (hparts : ∀ part ∈ parts, d ∉ part) (hne : parts ≠ []) :
    splitAt (c :: d :: others) ((c :: d :: others).intercalate parts) = parts := by
  induction parts with
  | nil => exact absurd rfl hne
  | cons part parts ih =>
    obtain ⟨hpart, hparts⟩ := List.forall_mem_cons.1 hparts
    cases parts with
    | nil => rw [List.intercalate_singleton, splitAt_of_notMem hpart]
    | cons next parts =>
      rw [List.intercalate_cons_cons, splitAt_append hcd hpart,
        ih hparts (List.cons_ne_nil _ _)]

end

end Dicebag.Text
