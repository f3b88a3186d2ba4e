import Dicebag.Proofs.Roll.Dealing

/-!
# Dicebag.Proofs.Roll.Windows

What a window keeps of a pool and what it drops.  A window takes one end
of the pool in ascending order, and `dropped` is the other end, so nothing
gets lost between the two and no die on one side is out of order with one
on the other:

* `ascending_eq_of_advantage`, `ascending_eq_of_disadvantage` — the pool in
  ascending order is the two ends;
* `length_window` — how many dice are kept, from the size of the pool alone;
* `window_eq_of_perm` — the order of the pool does not matter.

A pool as large as the expression rolls it leaves as many dice in the
window as the expression counts, and they are the highest of the pool or
the lowest (`window_law`).
-/

namespace Dicebag

/-! ## Sorted values -/

variable {pool pool' front back : List Int}

theorem length_ascending (pool : List Int) : (ascending pool).length = pool.length :=
  (ascending_perm pool).length_eq

theorem eq_of_perm_of_pairwise_le (h : pool.Perm pool') (hpool : pool.Pairwise (· ≤ ·))
    (hpool' : pool'.Pairwise (· ≤ ·)) : pool = pool' :=
  h.eq_of_pairwise (fun _ _ _ _ => Int.le_antisymm) hpool hpool'

theorem ascending_eq_of_perm (h : pool.Perm pool') : ascending pool = ascending pool' := by
  have hperm := (ascending_perm pool).trans (h.trans (ascending_perm pool').symm)
  exact eq_of_perm_of_pairwise_le hperm (pairwise_ascending pool) (pairwise_ascending pool')

theorem descending_eq_reverse (pool : List Int) : descending pool = (ascending pool).reverse := by
  have hperm : (descending pool).reverse.Perm (ascending pool) :=
    (List.reverse_perm _).trans ((descending_perm pool).trans (ascending_perm pool).symm)
  have hsorted : (descending pool).reverse.Pairwise (· ≤ ·) :=
    List.pairwise_reverse.2 (pairwise_descending pool)
  rw [← eq_of_perm_of_pairwise_le hperm hsorted (pairwise_ascending pool), List.reverse_reverse]

/-- Wherever ascending values are cut in two, nothing in front is above
anything behind. -/
theorem le_of_ascending_eq (h : ascending pool = front ++ back) :
    ∀ low ∈ front, ∀ high ∈ back, low ≤ high :=
  (List.pairwise_append.1 (h ▸ pairwise_ascending pool)).2.2

theorem length_takeSigned (n : Int) (values : List Int) :
    (takeSigned n values).length =
      if 0 ≤ n then min n.toNat values.length else values.length - n.natAbs := by
  cases n with
  | ofNat n => simp [takeSigned, List.length_take]
  | negSucc n => simp [takeSigned, List.length_take, Int.natAbs]

theorem takeSigned_isPrefix (n : Int) (values : List Int) : takeSigned n values <+: values := by
  cases n <;> exact List.take_prefix _ _

namespace Expression

variable {e : Expression}

/-! ## The two ends of a pool -/

/-- The dice that a window drops: the lowest for advantage, the highest for
disadvantage. -/
def dropped (e : Expression) (pool : List Int) : List Int :=
  if 0 < e.modifier then (ascending pool).take e.modifier.toNat
  else (ascending pool).drop (e.window pool).length

theorem ascending_eq_of_advantage (h : 0 < e.modifier) (pool : List Int) :
    ascending pool = e.dropped pool ++ e.window pool := by
  rw [dropped, window, if_pos h, if_pos h, List.take_append_drop]

theorem window_isPrefix (h : ¬ 0 < e.modifier) (pool : List Int) :
    e.window pool <+: ascending pool := by
  rw [window, if_neg h]
  split
  · exact takeSigned_isPrefix _ _
  · exact List.prefix_refl _

theorem ascending_eq_of_disadvantage (h : ¬ 0 < e.modifier) (pool : List Int) :
    ascending pool = e.window pool ++ e.dropped pool := by
  have htake : e.window pool = (ascending pool).take (e.window pool).length :=
    List.prefix_iff_eq_take.1 (window_isPrefix h pool)
  conv => rhs; rw [dropped, if_neg h, htake]
  rw [List.length_take_of_le (window_isPrefix h pool).length_le, List.take_append_drop]

/-- Without a modifier the window is the whole pool. -/
theorem window_eq_ascending (h : e.modifier = 0) (pool : List Int) :
    e.window pool = ascending pool := by
  rw [window, if_neg (by omega), if_neg (by omega)]

/-- Nothing gets lost between what a window keeps and what it drops. -/
theorem window_append_dropped_perm (e : Expression) (pool : List Int) :
    (e.window pool ++ e.dropped pool).Perm pool := by
  refine List.Perm.trans ?_ (ascending_perm pool)
  by_cases h : 0 < e.modifier
  · rw [ascending_eq_of_advantage h]
    exact List.perm_append_comm
  · rw [ascending_eq_of_disadvantage h]

theorem pairwise_window (e : Expression) (pool : List Int) :
    (e.window pool).Pairwise (· ≤ ·) := by
  have hsorted := pairwise_ascending pool
  by_cases h : 0 < e.modifier
  · rw [ascending_eq_of_advantage h] at hsorted
    exact (List.pairwise_append.1 hsorted).2.1
  · rw [ascending_eq_of_disadvantage h] at hsorted
    exact (List.pairwise_append.1 hsorted).1

theorem mem_of_mem_window {v : Int} (h : v ∈ e.window pool) : v ∈ pool :=
  (window_append_dropped_perm e pool).subset (List.mem_append_left _ h)

@[simp] theorem window_nil (e : Expression) : e.window [] = [] :=
  List.eq_nil_iff_forall_not_mem.2 fun _ h => absurd (mem_of_mem_window h) List.not_mem_nil

/-- The order of the pool does not matter. -/
theorem window_eq_of_perm (e : Expression) (h : pool.Perm pool') :
    e.window pool = e.window pool' := by
  rw [window, window, ascending_eq_of_perm h]

/-! ## How many dice are kept -/

/-- How many dice the window keeps of a pool of `n`. -/
def keeps (e : Expression) (n : Nat) : Nat :=
  if 0 < e.modifier then n - e.modifier.toNat
  else if e.modifier < 0 then if 0 ≤ e.count then min e.count.toNat n else n - e.count.natAbs
  else n

theorem length_window (e : Expression) (pool : List Int) :
    (e.window pool).length = e.keeps pool.length := by
  unfold window keeps
  split
  · rw [List.length_drop, length_ascending]
  · split
    · rw [length_takeSigned, length_ascending]
    · exact length_ascending pool

theorem keeps_poolSize (h : 0 ≤ e.count) : (e.keeps e.poolSize.toNat : Int) = e.count := by
  unfold keeps poolSize
  split
  · omega
  · split <;> omega

theorem length_dropped_of_advantage (h : 0 < e.modifier) (pool : List Int) :
    (e.dropped pool).length = min e.modifier.toNat pool.length := by
  rw [dropped, if_pos h, List.length_take, length_ascending]

theorem dropped_of_no_modifier (h : e.modifier = 0) (pool : List Int) : e.dropped pool = [] := by
  rw [dropped, if_neg (by omega), window_eq_ascending h, List.drop_length]

/-! ## The window of a whole pool -/

/-- The highest dice in descending order are the window of a whole pool
under advantage, from its end. -/
theorem window_eq_take_descending (hcount : 0 ≤ e.count) (h : 0 < e.modifier)
    (hpool : (pool.length : Int) = e.poolSize) :
    e.window pool = ((descending pool).take e.count.toNat).reverse := by
  have hlength : (ascending pool).length - e.count.toNat = e.modifier.toNat := by
    rw [length_ascending]
    unfold poolSize at hpool
    omega
  rw [descending_eq_reverse, List.take_reverse, List.reverse_reverse, hlength, window, if_pos h]

theorem window_eq_take_ascending (hcount : 0 ≤ e.count) (h : e.modifier < 0) (pool : List Int) :
    e.window pool = (ascending pool).take e.count.toNat := by
  obtain ⟨n, hn⟩ := Int.eq_ofNat_of_zero_le hcount
  rw [window, if_neg (by omega), if_pos h, hn]
  rfl

/-- **The window**: in ascending order, and of any pool it keeps and drops
what the modifier says.  For advantage it drops so many dice, none of them
above a die that it keeps; for disadvantage it keeps as many dice as are
counted, none of them above a die that it drops, and where the count is
negative it drops that many instead; otherwise it drops nothing.  Of a pool
as large as a roll draws it, it keeps as many dice as are counted: the
highest for advantage and the lowest for disadvantage. -/
theorem window_law (e : Expression) (pool : List Int) :
    (e.window pool).Pairwise (· ≤ ·) ∧
    (∃ dropped, (e.window pool ++ dropped).Perm pool ∧
      (0 < e.modifier → dropped.length = min e.modifier.toNat pool.length ∧
        ∀ low ∈ dropped, ∀ high ∈ e.window pool, low ≤ high) ∧
      (e.modifier < 0 → (∀ low ∈ e.window pool, ∀ high ∈ dropped, low ≤ high) ∧
        (0 ≤ e.count → (e.window pool).length = min e.count.toNat pool.length) ∧
        (e.count < 0 → (e.window pool).length = pool.length - e.count.natAbs)) ∧
      (e.modifier = 0 → dropped = [])) ∧
    (∀ pool', pool'.Perm pool → e.window pool' = e.window pool) ∧
    (0 ≤ e.count → (pool.length : Int) = e.poolSize →
      ((e.window pool).length : Int) = e.count ∧
      (0 < e.modifier → e.window pool = ((descending pool).take e.count.toNat).reverse) ∧
      (e.modifier < 0 → e.window pool = (ascending pool).take e.count.toNat)) ∧
    ∀ mode t t', 0 ≤ e.count → ((e.die mode).pool e.poolSize.toNat).run t = .ok pool t' →
      (pool.length : Int) = e.poolSize := by
  refine ⟨pairwise_window e pool, ⟨e.dropped pool, window_append_dropped_perm e pool, ?_, ?_,
    fun h => dropped_of_no_modifier h pool⟩, fun pool' => window_eq_of_perm e, ?_, ?_⟩
  · intro h
    exact ⟨length_dropped_of_advantage h pool,
      le_of_ascending_eq (ascending_eq_of_advantage h pool)⟩
  · intro h
    have hnot : ¬ 0 < e.modifier := by omega
    refine ⟨le_of_ascending_eq (ascending_eq_of_disadvantage hnot pool), ?_, ?_⟩
    · intro hcount
      rw [length_window, keeps, if_neg hnot, if_pos h, if_pos hcount]
    · intro hcount
      rw [length_window, keeps, if_neg hnot, if_pos h, if_neg (by omega)]
  · intro hcount hpool
    have hsize : pool.length = e.poolSize.toNat := by omega
    refine ⟨?_, fun h => window_eq_take_descending hcount h hpool,
      fun h => window_eq_take_ascending hcount h pool⟩
    rw [length_window, hsize, keeps_poolSize hcount]
  · intro mode t t' hcount hrun
    have hsize := (Die.run_pool_eq_ok_iff.1 hrun).1
    unfold poolSize at hsize ⊢
    omega

/-- Ties at the edge of the window, a pool smaller than was asked for, and
a negative count, for which two of five dice are kept. -/
theorem window_law_instances :
    (∃ dropped, ([5, 5] ++ dropped).Perm [5, 1, 5, 5] ∧ dropped.length = 2 ∧
      ∀ low ∈ dropped, ∀ high ∈ [(5 : Int), 5], low ≤ high) ∧
    [5, 5] = ((descending [5, 1, 5, 5]).take 2).reverse ∧
    ((⟨4, 6, -1, none, by decide, by decide⟩ : Expression).window [2, 6, 2]).length = 3 ∧
    ((⟨-3, 6, -1, none, by decide, by decide⟩ : Expression).window [4, 1, 6, 3, 3]).length = 2 := by
  have hsorted : ascending [5, 1, 5, 5] = [1, 5, 5, 5] :=
    eq_of_perm_of_pairwise_le ((ascending_perm _).trans (by decide)) (pairwise_ascending _)
      (by decide)
  have hwindow : (⟨2, 6, 2, none, by decide, by decide⟩ : Expression).window [5, 1, 5, 5] =
      [5, 5] := by
    rw [window, hsorted]
    rfl
  obtain ⟨_, ⟨dropped, hperm, hadvantage, _⟩, _, hwhole, _⟩ :=
    window_law ⟨2, 6, 2, none, by decide, by decide⟩ [5, 1, 5, 5]
  rw [hwindow] at hperm hadvantage hwhole
  obtain ⟨hlength, horder⟩ := hadvantage (by decide)
  refine ⟨⟨dropped, hperm, hlength, horder⟩, (hwhole (by decide) rfl).2.1 (by decide), ?_, ?_⟩
  · obtain ⟨_, ⟨_, _, _, hkept, _⟩, _⟩ :=
      window_law ⟨4, 6, -1, none, by decide, by decide⟩ [2, 6, 2]
    exact (hkept (by decide)).2.1 (by decide)
  · obtain ⟨_, ⟨_, _, _, hkept, _⟩, _⟩ :=
      window_law ⟨-3, 6, -1, none, by decide, by decide⟩ [4, 1, 6, 3, 3]
    exact (hkept (by decide)).2.2 (by decide)

end Expression

end Dicebag
