import Dicebag.Text.Blank
import Mathlib.Data.List.TakeWhile

/-!
# Dicebag.Proofs.Text.Stripping

Texts without the characters of a class at their ends.  What is dropped there
makes no difference (`trim_append`), every text is what remains of it with
droppable characters around it (`exists_eq_append_trim`), and what remains
keeps its ends (`trim_trim`).
-/

namespace Dicebag.Text

variable {drop : Char → Bool} {text before after : List Char}

theorem isBlank_eq_false_of_isDigit {c : Char} (h : c.isDigit = true) :
    isBlank c = false := by
  simp only [Char.isDigit, Bool.and_eq_true, decide_eq_true_eq, UInt32.le_iff_toNat_le] at h
  obtain ⟨hlow, hhigh⟩ := h
  have hlow : 48 ≤ c.toNat := hlow
  have hhigh : c.toNat ≤ 57 := hhigh
  simp only [isBlank, isSpace, isSeparator, Bool.or_eq_false_iff, Bool.and_eq_false_iff,
    decide_eq_false_iff_not, beq_eq_false_iff_ne]
  omega

/-! ## Dropping -/

theorem trimEnd_append (text : List Char) (h : ∀ c ∈ after, drop c = true) :
    trimEnd drop (text ++ after) = trimEnd drop text := by
  have hreverse : ∀ c ∈ after.reverse, drop c = true := by simpa using h
  rw [trimEnd, List.reverse_append, List.dropWhile_append_of_pos hreverse, trimEnd]

/-- What is dropped at the ends makes no difference to what remains. -/
theorem trim_append (hbefore : ∀ c ∈ before, drop c = true) (text : List Char)
    (hafter : ∀ c ∈ after, drop c = true) :
    trim drop (before ++ text ++ after) = trim drop text := by
  rw [trim, List.append_assoc, List.dropWhile_append_of_pos hbefore, List.dropWhile_append]
  split
  · next hall =>
    have hnone : after.dropWhile drop = [] := List.dropWhile_eq_nil_iff.2 hafter
    rw [hnone, trim, List.isEmpty_iff.1 hall]
  · rw [trimEnd_append _ hafter, trim]

theorem exists_eq_append_trim (drop : Char → Bool) (text : List Char) :
    ∃ before after, text = before ++ trim drop text ++ after ∧
      (∀ c ∈ before, drop c = true) ∧ ∀ c ∈ after, drop c = true := by
  have hend : ∀ rest : List Char,
      trimEnd drop rest ++ (rest.reverse.takeWhile drop).reverse = rest := by
    intro rest
    rw [trimEnd, ← List.reverse_append, List.takeWhile_append_dropWhile, List.reverse_reverse]
  refine ⟨text.takeWhile drop, ((text.dropWhile drop).reverse.takeWhile drop).reverse, ?_,
    fun c hc => List.mem_takeWhile_imp hc,
    fun c hc => List.mem_takeWhile_imp (List.mem_reverse.1 hc)⟩
  rw [trim, List.append_assoc, hend, List.takeWhile_append_dropWhile]

theorem trim_eq_nil_iff : trim drop text = [] ↔ ∀ c ∈ text, drop c = true := by
  constructor
  · intro hnil
    obtain ⟨before, after, htext, hbefore, hafter⟩ := exists_eq_append_trim drop text
    rw [hnil, List.append_nil] at htext
    rw [htext]
    exact fun c hc => (List.mem_append.1 hc).elim (hbefore c) (hafter c)
  · intro hall
    have hempty := trim_append hall [] (List.forall_mem_nil fun c => drop c = true)
    rwa [List.append_nil, List.append_nil] at hempty

/-! ## Keeping -/

/-- A text that keeps its two ends stays as it is. -/
theorem trim_eq_self (hhead : ∀ c, text.head? = some c → drop c = false)
    (hlast : ∀ c, text.getLast? = some c → drop c = false) : trim drop text = text := by
  have hstart : text.dropWhile drop = text := by
    cases text with
    | nil => rfl
    | cons c rest => simp [hhead c rfl]
  have hend : text.reverse.dropWhile drop = text.reverse := by
    cases hreverse : text.reverse with
    | nil => rfl
    | cons c rest =>
      have hc : text.getLast? = some c := by simp [← List.head?_reverse, hreverse]
      simp [hlast c hc]
  rw [trim, hstart, trimEnd, hend, List.reverse_reverse]

theorem trim_eq_self_of_forall (h : ∀ c ∈ text, drop c = false) : trim drop text = text :=
  trim_eq_self (fun c hc => h c (List.mem_of_mem_head? hc))
    fun c hc => h c (List.mem_of_mem_getLast? hc)

theorem trimEnd_cons {c : Char} (h : drop c = false) (rest : List Char) :
    trimEnd drop (c :: rest) = c :: trimEnd drop rest := by
  rw [trimEnd, List.reverse_cons, List.dropWhile_append, trimEnd]
  split
  · next hall => simp [h, List.isEmpty_iff.1 hall]
  · simp

/-- Nothing is dropped up to a character that stays. -/
theorem trim_append_of_keep {keep : List Char} (h : ∀ c ∈ keep, drop c = false) (hne : keep ≠ [])
    (rest : List Char) : trim drop (keep ++ rest) = keep ++ trimEnd drop rest := by
  have hend : trimEnd drop (keep ++ rest) = keep ++ trimEnd drop rest := by
    clear hne
    induction keep with
    | nil => rfl
    | cons c keep ih =>
      obtain ⟨hc, hkeep⟩ := List.forall_mem_cons.1 h
      rw [List.cons_append, trimEnd_cons hc, ih hkeep, List.cons_append]
  obtain ⟨c, others, rfl⟩ := List.exists_cons_of_ne_nil hne
  have hc : drop c = false := h c List.mem_cons_self
  rw [trim, List.cons_append, List.dropWhile_cons_of_neg (by simp [hc]), ← List.cons_append, hend]

theorem keep_head_trim {c : Char} (h : (trim drop text).head? = some c) : drop c = false := by
  cases hstart : text.dropWhile drop with
  | nil => simp [trim, hstart, trimEnd] at h
  | cons d rest =>
    have hd : drop d = false := by
      have hnot := List.head?_dropWhile_not drop text
      simpa [hstart] using hnot
    rw [trim, hstart, trimEnd_cons hd, List.head?_cons, Option.some.injEq] at h
    exact h ▸ hd

theorem keep_getLast_trim {c : Char} (h : (trim drop text).getLast? = some c) :
    drop c = false := by
  have hnot := List.head?_dropWhile_not drop (text.dropWhile drop).reverse
  rw [trim, trimEnd, List.getLast?_reverse] at h
  simpa [h] using hnot

@[simp] theorem trim_trim (drop : Char → Bool) (text : List Char) :
    trim drop (trim drop text) = trim drop text :=
  trim_eq_self (fun _ => keep_head_trim) fun _ => keep_getLast_trim

@[simp] theorem strip_strip (text : List Char) : strip (strip text) = strip text :=
  trim_trim isBlank text

end Dicebag.Text
