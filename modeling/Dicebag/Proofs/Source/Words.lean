import Dicebag.Source.Twister
import Mathlib.Algebra.Order.Group.Nat
import Mathlib.Data.Nat.Digits.Defs
import Mathlib.Order.Nat

/-!
# Dicebag.Proofs.Source.Words

A generator is the stream of its words: all that is ever done with it is to
take the next of them.  What the generator puts together is said here by their
positions in the stream, so that nothing is left of the order in which it is
computed.

* `bits_eq` — a number of any width has words as its digits in base 2³², and of
  the highest of them only the upper bits;
* `below?_eq_some_iff`, `below?_eq_none_iff` — a number below a bound is the
  first of the numbers of its width that is, and there is none only if all of
  them miss.
-/

namespace Dicebag

namespace Twister

variable {g g' : Twister} {k bound n : Nat}

/-! ## The stream -/

/-- The generator after `n` more words. -/
def skip : (n : Nat) → Twister → Twister
  | 0, g => g
  | n + 1, g => skip n g.next.2

/-- The word behind `n` others. -/
def word (n : Nat) (g : Twister) : UInt32 := (g.skip n).next.1

@[simp] theorem skip_zero (g : Twister) : g.skip 0 = g := rfl

theorem skip_succ (n : Nat) (g : Twister) : g.skip (n + 1) = g.next.2.skip n := rfl

theorem skip_add (m n : Nat) (g : Twister) : g.skip (m + n) = (g.skip m).skip n := by
  induction m generalizing g with
  | zero => rw [Nat.zero_add, skip_zero]
  | succ m ih => rw [Nat.succ_add, skip_succ, skip_succ, ih]

theorem word_skip (m n : Nat) (g : Twister) : (g.skip m).word n = g.word (m + n) := by
  rw [word, word, skip_add]

/-- The next `n` words. -/
def first (n : Nat) (g : Twister) : List UInt32 := (List.range n).map fun i => g.word i

theorem first_succ (n : Nat) (g : Twister) :
    g.first (n + 1) = g.word 0 :: (g.skip 1).first n := by
  rw [first, List.range_succ_eq_map, List.map_cons, List.map_map, first]
  refine congrArg _ (List.map_congr_left fun i _ => ?_)
  rw [Function.comp_apply, word_skip, Nat.add_comm]

/-! ## Numbers of a width -/

/-- How many words a number of `k` bits takes whole. -/
def whole (k : Nat) : Nat := (k - 1) / 32

/-- The digits of a number of `k` bits in base 2³², lowest first: words, and
behind them the upper bits of one word more, as many as are still missing. -/
def digits (k : Nat) (g : Twister) : List Nat :=
  (List.range (whole k)).map (fun i => (g.word i).toNat) ++
    [(g.word (whole k)).toNat >>> (32 * (whole k + 1) - k)]

theorem whole_of_le (h : k ≤ 32) : whole k = 0 := by
  unfold whole
  omega

theorem whole_of_lt (h : 32 < k) : whole k = whole (k - 32) + 1 := by
  unfold whole
  omega

theorem digits_of_le (h : k ≤ 32) (g : Twister) :
    digits k g = [g.next.1.toNat >>> (32 - k)] := by
  rw [digits, whole_of_le h]
  rfl

theorem digits_of_lt (h : 32 < k) (g : Twister) :
    digits k g = g.next.1.toNat :: digits (k - 32) g.next.2 := by
  have hshift : 32 * (whole (k - 32) + 1 + 1) - k = 32 * (whole (k - 32) + 1) - (k - 32) := by
    omega
  rw [digits, whole_of_lt h, hshift, List.range_succ_eq_map, List.map_cons, List.map_map]
  rfl

/-- A number of `k` bits is told by its digits, and takes a word for each of
them. -/
theorem bits_eq (k : Nat) (g : Twister) :
    bits k g = (Nat.ofDigits (2 ^ 32) (digits k g), g.skip (whole k + 1)) := by
  fun_induction bits k g with
  | case1 k g hk word g' hnext =>
    rw [digits_of_le hk, whole_of_le hk, hnext, Nat.ofDigits_singleton, skip_succ, hnext, skip_zero]
  | case2 k g hk word g' hnext rest g'' hbits ih =>
    have hk : 32 < k := Nat.lt_of_not_le hk
    rw [hbits, Prod.mk.injEq] at ih
    rw [digits_of_lt hk, whole_of_lt hk, hnext, Nat.ofDigits_cons, skip_succ, hnext, ih.1, ih.2]
    rfl

/-! ## Numbers below a bound -/

/-- How many words one attempt at a number below `bound` takes. -/
def span (bound : Nat) : Nat := whole (bound.log2 + 1) + 1

/-- The bound itself counts: a second word is taken from 2³² on, although the
numbers below that bound have room in one. -/
example : span (2 ^ 32 - 1) = 1 ∧ span (2 ^ 32) = 2 := by decide

/-- What the attempt at a number below `bound` comes to that stands behind `i`
others. -/
def attempt (bound i : Nat) (g : Twister) : Nat :=
  Nat.ofDigits (2 ^ 32) (digits (bound.log2 + 1) (g.skip (i * span bound)))

/-- The attempt behind `i` others is the first that hits. -/
structure HitsAt (bound i : Nat) (g : Twister) : Prop where
  lt : attempt bound i g < bound
  le : ∀ j < i, bound ≤ attempt bound j g

/-- For a bound below 2³² an attempt takes one word. -/
theorem span_of_lt (h : bound.log2 < 32) : span bound = 1 := by rw [span, whole_of_le h]

/-- A word comes to its upper bits, as many as the bound has. -/
theorem attempt_zero_of_lt (h : bound.log2 < 32) (g : Twister) :
    attempt bound 0 g = (g.word 0).toNat >>> (31 - bound.log2) := by
  rw [attempt, Nat.zero_mul, skip_zero, digits_of_le h, Nat.ofDigits_singleton,
    Nat.succ_sub_succ, word, skip_zero]

theorem attempt_succ (bound i : Nat) (g : Twister) :
    attempt bound (i + 1) g = attempt bound i (g.skip (span bound)) := by
  rw [attempt, attempt, ← skip_add, Nat.succ_mul, Nat.add_comm (i * span bound)]

theorem hitsAt_zero_iff : HitsAt bound 0 g ↔ attempt bound 0 g < bound :=
  ⟨HitsAt.lt, fun h => ⟨h, fun _ hj => absurd hj (Nat.not_lt_zero _)⟩⟩

theorem hitsAt_succ_iff {i : Nat} :
    HitsAt bound (i + 1) g ↔ bound ≤ attempt bound 0 g ∧ HitsAt bound i (g.skip (span bound)) := by
  constructor
  · intro ⟨hlt, hle⟩
    refine ⟨hle 0 (Nat.succ_pos i), attempt_succ bound i g ▸ hlt, fun j hj => ?_⟩
    exact attempt_succ bound j g ▸ hle (j + 1) (Nat.succ_lt_succ hj)
  · intro ⟨hzero, hlt, hle⟩
    refine ⟨(attempt_succ bound i g).symm ▸ hlt, fun j hj => ?_⟩
    cases j with
    | zero => exact hzero
    | succ j => exact (attempt_succ bound j g).symm ▸ hle j (Nat.lt_of_succ_lt_succ hj)

/-- There is a first attempt that hits if there is any. -/
theorem exists_hitsAt_iff : (∃ i, HitsAt bound i g) ↔ ∃ i, attempt bound i g < bound := by
  constructor
  · intro ⟨i, h⟩
    exact ⟨i, h.lt⟩
  · intro h
    classical
    exact ⟨Nat.find h, Nat.find_spec h, fun j hj => Nat.le_of_not_lt (Nat.find_min h hj)⟩

/-- One attempt takes its words and comes to its number. -/
theorem bits_eq_attempt (bound : Nat) (g : Twister) :
    bits (bound.log2 + 1) g = (attempt bound 0 g, g.skip (span bound)) := by
  rw [bits_eq, attempt, Nat.zero_mul, skip_zero, span]

theorem below?_of_lt (h : attempt bound 0 g < bound) :
    below? bound g = some (attempt bound 0 g, g.skip (span bound)) := by
  rw [below?, bits_eq_attempt]
  exact if_pos h

/-- The search goes on behind an attempt that misses. -/
theorem below?_of_le (h : bound ≤ attempt bound 0 g) :
    below? bound g = below? bound (g.skip (span bound)) := by
  rw [below?, bits_eq_attempt]
  exact if_neg (Nat.not_lt_of_le h)

/-- What is found is what the first attempt that hits comes to. -/
theorem below?_eq_some_iff :
    below? bound g = some (n, g') ↔
      ∃ i, HitsAt bound i g ∧ n = attempt bound i g ∧ g' = g.skip ((i + 1) * span bound) := by
  constructor
  · -- the search is a least fixed point, so this is shown of every search that is cut short
    refine below?.partial_correctness (fun bound g found => ∃ i, HitsAt bound i g ∧
      found.1 = attempt bound i g ∧ found.2 = g.skip ((i + 1) * span bound)) ?_ bound g (n, g')
    intro search ih bound g found hfound
    simp only [bits_eq_attempt] at hfound
    split at hfound
    · next hhit =>
      obtain rfl := Option.some.inj hfound
      exact ⟨0, hitsAt_zero_iff.2 hhit, rfl, by rw [Nat.zero_add, Nat.one_mul]⟩
    · next hmiss =>
      obtain ⟨i, hhits, hnumber, hafter⟩ := ih _ _ _ hfound
      refine ⟨i + 1, hitsAt_succ_iff.2 ⟨Nat.le_of_not_lt hmiss, hhits⟩, ?_, ?_⟩
      · rw [hnumber, attempt_succ]
      · rw [hafter, ← skip_add, Nat.succ_mul (i + 1), Nat.add_comm (span bound)]
  · rintro ⟨i, hhits, rfl, rfl⟩
    induction i generalizing g with
    | zero => rw [below?_of_lt hhits.lt, Nat.zero_add, Nat.one_mul]
    | succ i ih =>
      obtain ⟨hmiss, hhits⟩ := hitsAt_succ_iff.1 hhits
      rw [below?_of_le hmiss, ih hhits, attempt_succ, ← skip_add, Nat.succ_mul (i + 1),
        Nat.add_comm (span bound)]

theorem below?_eq_none_iff : below? bound g = none ↔ ∀ i, bound ≤ attempt bound i g := by
  have hsome : (∃ found, below? bound g = some found) ↔ ∃ i, attempt bound i g < bound := by
    rw [← exists_hitsAt_iff]
    constructor
    · intro ⟨_, hfound⟩
      obtain ⟨i, hhits, _⟩ := below?_eq_some_iff.1 hfound
      exact ⟨i, hhits⟩
    · intro ⟨i, hhits⟩
      exact ⟨_, below?_eq_some_iff.2 ⟨i, hhits, rfl, rfl⟩⟩
  rw [Option.eq_none_iff_forall_ne_some]
  simpa only [not_exists, Nat.not_lt] using not_congr hsome

end Twister

end Dicebag
