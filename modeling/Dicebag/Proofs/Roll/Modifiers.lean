import Dicebag.Proofs.Roll.Finishing

/-!
# Dicebag.Proofs.Roll.Modifiers

What a modifier does to a roll without threshold, which is the window of
its pool and nothing else (`exists_run_roll_of_no_threshold`).

Two such rolls with different modifiers draw pools of different sizes and
cut them at different ends, so their dice do not match one by one before
they are sorted.  They are compared by counting: `upTo v` is how many values
are not above `v`, a window changes this number in a way that does not
depend on the dice (`upTo_window_of_advantage`,
`upTo_window_of_no_advantage`), and of two ascending lists the one with the
higher numbers has the lower items, place by place
(`forall₂_le_of_upTo_le`):

* `modifier_monotone` — a higher modifier and higher draws lower no die;
* `roll_of_opposites` — with the opposite modifier, the opposite faces come
  to the opposite values.
-/

namespace Dicebag

/-! ## Values up to a bound -/

/-- How many of the values are not above `v`: these are the values counted
here. -/
def upTo (v : Int) (values : List Int) : Nat := values.countP (· ≤ v)

section

variable {v : Int} {values low high : List Int}

theorem upTo_ascending (v : Int) (values : List Int) : upTo v (ascending values) = upTo v values :=
  (ascending_perm values).countP_eq _

theorem upTo_append (v : Int) (low high : List Int) :
    upTo v (low ++ high) = upTo v low + upTo v high := List.countP_append

theorem upTo_le_length (v : Int) (values : List Int) : upTo v values ≤ values.length :=
  List.countP_le_length

theorem upTo_cons (v w : Int) (values : List Int) :
    upTo v (w :: values) = upTo v values + if w ≤ v then 1 else 0 := by
  simp only [upTo, List.countP_cons, decide_eq_true_eq]

/-- No value is counted where even a lower bound of them is above `v`. -/
theorem upTo_eq_zero {w : Int} (hw : ∀ u ∈ values, w ≤ u) (h : ¬ w ≤ v) : upTo v values = 0 :=
  List.countP_eq_zero.2 fun u hu hle => h (Int.le_trans (hw u hu) (of_decide_eq_true hle))

/-- The first items of ascending values are the first to be counted. -/
theorem upTo_take (h : values.Pairwise (· ≤ ·)) (v : Int) (n : Nat) :
    upTo v (values.take n) = min n (upTo v values) := by
  induction values generalizing n with
  | nil => simp [upTo]
  | cons w values ih =>
    obtain ⟨hw, hvalues⟩ := List.pairwise_cons.1 h
    cases n with
    | zero => simp [upTo]
    | succ n =>
      rw [List.take_succ_cons, upTo_cons, upTo_cons, ih hvalues]
      by_cases hle : w ≤ v
      · rw [if_pos hle]
        omega
      · rw [if_neg hle, upTo_eq_zero hw hle]
        omega

theorem upTo_drop (h : values.Pairwise (· ≤ ·)) (v : Int) (n : Nat) :
    upTo v (values.drop n) = upTo v values - n := by
  have hsplit := upTo_append v (values.take n) (values.drop n)
  rw [List.take_append_drop, upTo_take h] at hsplit
  omega

/-- Where no value is above its counterpart, no more of the counterparts are
counted. -/
theorem upTo_le_of_forall₂ (h : List.Forall₂ (· ≤ ·) low high) (v : Int) :
    upTo v high ≤ upTo v low := by
  induction h with
  | nil => exact Nat.le_refl _
  | @cons a b low high hab _ ih =>
    rw [upTo_cons, upTo_cons]
    split <;> split <;> omega

/-- Of two ascending lists, the one of which never more items are counted has
no item below its counterpart. -/
theorem forall₂_le_of_upTo_le (hlow : low.Pairwise (· ≤ ·)) (hhigh : high.Pairwise (· ≤ ·))
    (hlength : low.length = high.length) (h : ∀ v, upTo v high ≤ upTo v low) :
    List.Forall₂ (· ≤ ·) low high := by
  induction low generalizing high with
  | nil =>
    obtain rfl := List.eq_nil_of_length_eq_zero hlength.symm
    exact .nil
  | cons a low ih =>
    obtain ⟨b, high, rfl⟩ := List.exists_cons_of_length_eq_add_one hlength.symm
    obtain ⟨ha, hlow⟩ := List.pairwise_cons.1 hlow
    obtain ⟨hb, hhigh⟩ := List.pairwise_cons.1 hhigh
    have hab : a ≤ b := by
      refine Decidable.byContradiction fun hnot => ?_
      have hcounted := h b
      rw [upTo_eq_zero (List.forall_mem_cons.2 ⟨Int.le_refl a, ha⟩) hnot, upTo_cons,
        if_pos (Int.le_refl b)] at hcounted
      omega
    refine .cons hab (ih hlow hhigh (Nat.succ.inj hlength) fun v => ?_)
    have hv := h v
    rw [upTo_cons, upTo_cons] at hv
    by_cases hbv : b ≤ v
    · rw [if_pos hbv, if_pos (Int.le_trans hab hbv)] at hv
      omega
    · rw [upTo_eq_zero hb hbv]
      exact Nat.zero_le _

/-- One item more is counted at most once. -/
theorem upTo_take_bounds {m n : Nat} (h : m ≤ n) (v : Int) (values : List Int) :
    upTo v (values.take m) ≤ upTo v (values.take n) ∧
      upTo v (values.take n) ≤ upTo v (values.take m) + (n - m) := by
  have hsplit : values.take n = values.take m ++ (values.drop m).take (n - m) := by
    rw [← List.take_add, Nat.add_sub_of_le h]
  have hlength : ((values.drop m).take (n - m)).length ≤ n - m := List.length_take_le _ _
  have hle := upTo_le_length v ((values.drop m).take (n - m))
  rw [hsplit, upTo_append]
  omega

/-- In no place that both lists have, the item of the first is above that of
the second. -/
def NowhereAbove (low high : List Int) : Prop :=
  ∀ i (h : i < low.length) (h' : i < high.length), low[i] ≤ high[i]

theorem nowhereAbove_of_forall₂ (h : List.Forall₂ (· ≤ ·) low high) : NowhereAbove low high :=
  fun i hi hi' => (List.forall₂_iff_get.1 h).2 i hi hi'

theorem NowhereAbove.upTo_take_le (h : NowhereAbove low high) {n : Nat} (hlow : n ≤ low.length)
    (hhigh : n ≤ high.length) (v : Int) : upTo v (high.take n) ≤ upTo v (low.take n) := by
  refine upTo_le_of_forall₂ (List.forall₂_iff_get.2 ⟨?_, fun i hi hi' => ?_⟩) v
  · rw [List.length_take_of_le hlow, List.length_take_of_le hhigh]
  · simp only [List.get_eq_getElem, List.getElem_take]
    exact h i _ _

end

namespace Expression

variable {e : Expression} {mode : RollMode} {items items' : List Int}

/-! ## Rolls without threshold -/

/-- The expression with another modifier. -/
def withModifier (e : Expression) (m : Int) : Expression := { e with modifier := m }

@[simp] theorem withModifier_count (e : Expression) (m : Int) :
    (e.withModifier m).count = e.count := rfl

@[simp] theorem withModifier_modifier (e : Expression) (m : Int) :
    (e.withModifier m).modifier = m := rfl

theorem poolSize_withModifier (e : Expression) (m : Int) :
    (e.withModifier m).poolSize = e.count + m.natAbs := rfl

theorem descending_window (e : Expression) (pool : List Int) :
    descending (e.window pool) = (e.window pool).reverse := by
  rw [descending_eq_reverse, eq_of_perm_of_pairwise_le (ascending_perm _) (pairwise_ascending _)
    (pairwise_window e pool)]

/-- Without a threshold a roll is the window of its pool, highest first. -/
theorem exists_run_roll_of_no_threshold (hnone : e.threshold = none) (mode : RollMode)
    (hitems : e.poolSize ≤ items.length) :
    ∃ t, (e.roll mode).run (.ofSource (.script items)) =
      .ok ⟨(e.window (e.poolOf items)).reverse⟩ t := by
  have heffective : (e.die mode).effective e.threshold = none := by
    rw [hnone]
    rfl
  have howed : e.owed mode (e.poolOf items) = 0 :=
    List.countP_eq_zero.2 fun v _ => by simp [Die.explodesAt_of_none heffective]
  have hsettled : e.IsSettled mode (e.poolOf items) [] :=
    ⟨length_poolOf (Int.toNat_le.2 hitems), by rw [howed]; exact .nil⟩
  obtain ⟨t, hrun, _⟩ := exists_run_roll_of_isSettled hsettled (e.behindPool items)
  rw [List.nil_append, poolOf_append_behindPool, List.append_nil, descending_window] at hrun
  exact ⟨t, hrun⟩

theorem length_window_poolOf (hcount : 0 ≤ e.count) (hitems : e.poolSize ≤ items.length) :
    ((e.window (e.poolOf items)).length : Int) = e.count := by
  rw [length_window, length_poolOf (Int.toNat_le.2 hitems), keeps_poolSize hcount]

/-! ## Windows under different modifiers -/

theorem upTo_window_of_advantage (h : 0 < e.modifier) (v : Int) (pool : List Int) :
    upTo v (e.window pool) = upTo v pool - e.modifier.toNat := by
  rw [window, if_pos h, upTo_drop (pairwise_ascending pool), upTo_ascending]

theorem upTo_window_of_no_advantage (hcount : 0 ≤ e.count) (h : e.modifier ≤ 0)
    {pool : List Int} (hpool : pool.length = e.poolSize.toNat) (v : Int) :
    upTo v (e.window pool) = min e.count.toNat (upTo v pool) := by
  obtain hneg | hzero := Int.lt_or_eq_of_le h
  · rw [window_eq_take_ascending hcount hneg, upTo_take (pairwise_ascending pool), upTo_ascending]
  · have hle := upTo_le_length v pool
    rw [window_eq_ascending hzero, upTo_ascending]
    unfold poolSize at hpool
    omega

/-- Of a pool with draws that are nowhere lower no more dice are counted than
of the other, but for those that the other pool is too small to have. -/
theorem upTo_poolOf_le {a b : Int} (hcount : 0 ≤ e.count)
    (hlow : (e.withModifier a).poolSize ≤ items.length)
    (hhigh : (e.withModifier b).poolSize ≤ items'.length) (hle : NowhereAbove items items')
    (v : Int) :
    upTo v ((e.withModifier b).poolOf items') ≤
      upTo v ((e.withModifier a).poolOf items) + (b.natAbs - a.natAbs) := by
  rw [poolSize_withModifier] at hlow hhigh
  -- the pools begin with as many dice as the smaller of them has
  have hshared := hle.upTo_take_le (n := e.count.toNat + min a.natAbs b.natAbs)
    (by omega) (by omega) v
  have hsize : ∀ m : Int, (e.withModifier m).poolSize.toNat = e.count.toNat + m.natAbs := by
    intro m
    rw [poolSize_withModifier]
    omega
  have hfewer := (upTo_take_bounds (m := e.count.toNat + min a.natAbs b.natAbs)
    (n := e.count.toNat + a.natAbs) (by omega) v items).1
  have hmore := (upTo_take_bounds (m := e.count.toNat + min a.natAbs b.natAbs)
    (n := e.count.toNat + b.natAbs) (by omega) v items').2
  rw [poolOf, poolOf, hsize, hsize]
  omega

/-- Under a higher modifier and with draws that are nowhere lower no more dice
of the window are counted. -/
theorem upTo_window_le {a b : Int} (hcount : 0 ≤ e.count) (hab : a ≤ b)
    (hlow : (e.withModifier a).poolSize ≤ items.length)
    (hhigh : (e.withModifier b).poolSize ≤ items'.length) (hle : NowhereAbove items items')
    (v : Int) :
    upTo v ((e.withModifier b).window ((e.withModifier b).poolOf items')) ≤
      upTo v ((e.withModifier a).window ((e.withModifier a).poolOf items)) := by
  have hpools := upTo_poolOf_le hcount hlow hhigh hle v
  have hpool := length_poolOf (Int.toNat_le.2 hlow)
  have hpool' := length_poolOf (Int.toNat_le.2 hhigh)
  obtain hb | hb := Int.lt_or_le 0 b
  · rw [upTo_window_of_advantage hb, withModifier_modifier]
    obtain ha | ha := Int.lt_or_le 0 a
    · rw [upTo_window_of_advantage ha, withModifier_modifier]
      omega
    · have hall := upTo_le_length v ((e.withModifier b).poolOf items')
      rw [hpool', poolSize_withModifier] at hall
      rw [upTo_window_of_no_advantage (e := e.withModifier a) hcount ha hpool,
        withModifier_count]
      omega
  · have ha : a ≤ 0 := Int.le_trans hab hb
    rw [upTo_window_of_no_advantage (e := e.withModifier b) hcount hb hpool',
      upTo_window_of_no_advantage (e := e.withModifier a) hcount ha hpool, withModifier_count,
      withModifier_count]
    omega

/-! ## Rolls under different modifiers -/

/-- Rolled of the one script and of the other, the two rolls come to so many
dice each; those of the first are nowhere above those of the second, and
neither is their total. -/
def ComesOutBelow (count : Int) (items items' : List Int) (low high : Deal Roll) : Prop :=
  ∃ r t r' t', low.run (.ofSource (.script items)) = .ok r t ∧
    high.run (.ofSource (.script items')) = .ok r' t' ∧
    (r.values.length : Int) = count ∧ (r'.values.length : Int) = count ∧
    NowhereAbove r.values r'.values ∧ r.total ≤ r'.total

theorem comesOutBelow_of_le {a b : Int} (hcount : 0 ≤ e.count) (hnone : e.threshold = none)
    (hab : a ≤ b) (mode mode' : RollMode) (hlow : (e.withModifier a).poolSize ≤ items.length)
    (hhigh : (e.withModifier b).poolSize ≤ items'.length) (hle : NowhereAbove items items') :
    ComesOutBelow e.count items items' ((e.withModifier a).roll mode)
      ((e.withModifier b).roll mode') := by
  obtain ⟨t, hrun⟩ := exists_run_roll_of_no_threshold (e := e.withModifier a) hnone mode hlow
  obtain ⟨t', hrun'⟩ := exists_run_roll_of_no_threshold (e := e.withModifier b) hnone mode' hhigh
  have hlength := length_window_poolOf (e := e.withModifier a) hcount hlow
  have hlength' := length_window_poolOf (e := e.withModifier b) hcount hhigh
  have hvalues := List.forall₂_reverse_iff.2 <|
    forall₂_le_of_upTo_le (pairwise_window _ _) (pairwise_window _ _)
      (Int.ofNat.inj (hlength.trans hlength'.symm)) (upTo_window_le hcount hab hlow hhigh hle)
  refine ⟨_, t, _, t', hrun, hrun', ?_, ?_, nowhereAbove_of_forall₂ hvalues, ?_⟩
  · rw [List.length_reverse]
    exact hlength
  · rw [List.length_reverse]
    exact hlength'
  · rw [Roll.total_eq_sum, Roll.total_eq_sum]
    exact hvalues.sum_le_sum

/-- **Monotonicity in the modifier and in the draws**: without a threshold, a
higher modifier and draws that are nowhere lower give as many dice and lower
none of them, nor their total, though the pools have different sizes and
are cut at different ends.  So of one script disadvantage comes to no more
than the roll without modifier, that to no more than advantage, and that to
no more than a greater advantage. -/
theorem modifier_monotone :
    (∀ (e : Expression) (mode mode' : RollMode) (a b : Int) (items items' : List Int),
      0 ≤ e.count → e.threshold = none → a ≤ b →
      (e.withModifier a).poolSize ≤ items.length → (e.withModifier b).poolSize ≤ items'.length →
      NowhereAbove items items' →
      ComesOutBelow e.count items items' ((e.withModifier a).roll mode)
        ((e.withModifier b).roll mode')) ∧
    ∀ (e : Expression) (mode : RollMode) (worse better more : Nat) (items : List Int),
      0 ≤ e.count → e.threshold = none → e.count + max worse (better + more) ≤ items.length →
      ComesOutBelow e.count items items ((e.withModifier (-worse)).roll mode)
          ((e.withModifier 0).roll mode) ∧
        ComesOutBelow e.count items items ((e.withModifier 0).roll mode)
          ((e.withModifier better).roll mode) ∧
        ComesOutBelow e.count items items ((e.withModifier better).roll mode)
          ((e.withModifier (better + more)).roll mode) := by
  constructor
  · intro e mode mode' a b items items' hcount hnone hab hlow hhigh hle
    exact comesOutBelow_of_le hcount hnone hab mode mode' hlow hhigh hle
  · intro e mode worse better more items hcount hnone hitems
    have hself : NowhereAbove items items := fun _ _ _ => Int.le_refl _
    have hsame : ∀ a b : Int, a ≤ b → a.natAbs ≤ max worse (better + more) →
        b.natAbs ≤ max worse (better + more) → ComesOutBelow e.count items items
          ((e.withModifier a).roll mode) ((e.withModifier b).roll mode) := by
      intro a b hab ha hb
      refine comesOutBelow_of_le hcount hnone hab mode mode ?_ ?_ hself
      all_goals
        rw [poolSize_withModifier]
        omega
    exact ⟨hsame _ _ (by omega) (by omega) (by omega), hsame _ _ (by omega) (by omega) (by omega),
      hsame _ _ (by omega) (by omega) (by omega)⟩

/-- Of two dice the lower two of 4, 1 and 6 are nowhere above the upper two of
5, 2, 6 and 3, and of one script neither modifier crosses the roll without
one. -/
theorem modifier_monotone_instances :
    ComesOutBelow 2 [4, 1, 6] [5, 2, 6, 3]
        (((⟨2, 6, 0, none, by decide, by decide⟩ : Expression).withModifier (-1)).roll {})
        (((⟨2, 6, 0, none, by decide, by decide⟩ : Expression).withModifier 2).roll {}) ∧
      ComesOutBelow 2 [3, 5, 1, 6, 6] [3, 5, 1, 6, 6]
        (((⟨2, 6, 0, none, by decide, by decide⟩ : Expression).withModifier (-1)).roll {})
        (((⟨2, 6, 0, none, by decide, by decide⟩ : Expression).withModifier 0).roll {}) := by
  constructor
  · exact modifier_monotone.1 ⟨2, 6, 0, none, by decide, by decide⟩ {} {} (-1) 2 [4, 1, 6]
      [5, 2, 6, 3] (by decide) rfl (by decide) (by decide) (by decide)
      (by unfold NowhereAbove; decide)
  · exact (modifier_monotone.2 ⟨2, 6, 0, none, by decide, by decide⟩ {} 1 2 1 [3, 5, 1, 6, 6]
      (by decide) rfl (by decide)).1

/-! ## Opposite faces -/

/-- The face opposite to a value: both together are one more than the die has
faces. -/
def opposite (e : Expression) (v : Int) : Int := e.faces + 1 - v

theorem ascending_map_opposite (e : Expression) (pool : List Int) :
    ascending (pool.map e.opposite) = (descending pool).map e.opposite := by
  refine (List.map_mergeSort fun v _ w _ => decide_eq_decide.2 ?_).symm
  unfold opposite
  omega

theorem descending_map_opposite (e : Expression) (pool : List Int) :
    descending (pool.map e.opposite) = (ascending pool).map e.opposite := by
  refine (List.map_mergeSort fun v _ w _ => decide_eq_decide.2 ?_).symm
  unfold opposite
  omega

theorem poolSize_withModifier_neg (e : Expression) :
    (e.withModifier (-e.modifier)).poolSize = e.poolSize := by
  rw [poolSize_withModifier, Int.natAbs_neg, poolSize]

/-- With the opposite modifier, a window keeps of the opposite faces those
that are opposite to the dice it keeps. -/
theorem window_map_opposite {pool : List Int} (hcount : 0 ≤ e.count)
    (hpool : (pool.length : Int) = e.poolSize) :
    (e.withModifier (-e.modifier)).window (pool.map e.opposite) =
      ((e.window pool).map e.opposite).reverse := by
  obtain hneg | hzero | hpos := Int.lt_trichotomy e.modifier 0
  · have hadvantage : 0 < (e.withModifier (-e.modifier)).modifier := Int.neg_pos_of_neg hneg
    have hpool' : ((pool.map e.opposite).length : Int) =
        (e.withModifier (-e.modifier)).poolSize := by
      rw [List.length_map, hpool, poolSize_withModifier_neg]
    rw [window_eq_take_descending (e := e.withModifier (-e.modifier)) hcount hadvantage hpool',
      window_eq_take_ascending hcount hneg, descending_map_opposite, List.map_take,
      withModifier_count]
  · have hzero' : (e.withModifier (-e.modifier)).modifier = 0 := Int.neg_eq_zero.2 hzero
    rw [window_eq_ascending hzero, window_eq_ascending hzero', ascending_map_opposite,
      descending_eq_reverse, List.map_reverse]
  · have hdisadvantage : (e.withModifier (-e.modifier)).modifier < 0 := Int.neg_neg_of_pos hpos
    rw [window_eq_take_ascending (e := e.withModifier (-e.modifier)) hcount hdisadvantage,
      window_eq_take_descending hcount hpos hpool, ascending_map_opposite, List.map_reverse,
      List.reverse_reverse, List.map_take, withModifier_count]

theorem sum_map_opposite (e : Expression) (values : List Int) :
    values.sum + (values.map e.opposite).sum = values.length * (e.faces + 1) := by
  induction values with
  | nil => simp
  | cons v values ih =>
    rw [List.map_cons, List.sum_cons, List.sum_cons, List.length_cons, Nat.cast_succ, add_mul,
      ← ih, opposite]
    omega

/-- **Advantage and disadvantage are opposites**: without a threshold, a
script of the opposite faces, rolled with the opposite modifier, comes to the
values opposite to those of the roll, from the last to the first.  Together
the two totals are one more than the faces for each die. -/
theorem roll_of_opposites (e : Expression) (mode mode' : RollMode) (items : List Int)
    (hcount : 0 ≤ e.count) (hnone : e.threshold = none) (hitems : e.poolSize ≤ items.length) :
    ∃ r t r' t', (e.roll mode).run (.ofSource (.script items)) = .ok r t ∧
      ((e.withModifier (-e.modifier)).roll mode').run
        (.ofSource (.script (items.map e.opposite))) = .ok r' t' ∧
      r'.values = (r.values.map e.opposite).reverse ∧
      r.total + r'.total = e.count * (e.faces + 1) := by
  have hitems' : (e.withModifier (-e.modifier)).poolSize ≤ (items.map e.opposite).length := by
    rw [poolSize_withModifier_neg, List.length_map]
    exact hitems
  obtain ⟨t, hrun⟩ := exists_run_roll_of_no_threshold hnone mode hitems
  obtain ⟨t', hrun'⟩ :=
    exists_run_roll_of_no_threshold (e := e.withModifier (-e.modifier)) hnone mode' hitems'
  have hpool : ((e.poolOf items).length : Int) = e.poolSize := by
    rw [length_poolOf (Int.toNat_le.2 hitems)]
    unfold poolSize
    omega
  have hpool' : (e.withModifier (-e.modifier)).poolOf (items.map e.opposite) =
      (e.poolOf items).map e.opposite := by
    rw [poolOf, poolOf, poolSize_withModifier_neg, List.map_take]
  rw [hpool', window_map_opposite hcount hpool, List.reverse_reverse] at hrun'
  refine ⟨_, t, _, t', hrun, hrun', ?_, ?_⟩
  · rw [List.map_reverse, List.reverse_reverse]
  · rw [Roll.total_eq_sum, Roll.total_eq_sum, List.sum_reverse, sum_map_opposite,
      length_window_poolOf hcount hitems]

/-- The upper two of 6, 2 and 5, and the lower two of their opposites. -/
theorem roll_of_opposites_instance :
    ∃ t t', ((⟨2, 6, 1, none, by decide, by decide⟩ : Expression).roll {}).run
        (.ofSource (.script [6, 2, 5])) = .ok ⟨[6, 5]⟩ t ∧
      (((⟨2, 6, 1, none, by decide, by decide⟩ : Expression).withModifier (-1)).roll {}).run
        (.ofSource (.script [1, 5, 2])) = .ok ⟨[2, 1]⟩ t' ∧
      Roll.total ⟨[6, 5]⟩ + Roll.total ⟨[2, 1]⟩ = 2 * 7 := by
  obtain ⟨r, t, ⟨values⟩, t', hrun, hrun', hvalues, htotal⟩ :=
    roll_of_opposites ⟨2, 6, 1, none, by decide, by decide⟩ {} {} [6, 2, 5] (by decide) rfl
      (by decide)
  have hupper : ((⟨2, 6, 1, none, by decide, by decide⟩ : Expression).roll {}).run
      (.ofSource (.script [6, 2, 5])) =
        .ok ⟨[6, 5]⟩ ⟨.script [], List.replicate 3 ⟨1, 6⟩, []⟩ := by cbv
  obtain ⟨rfl, rfl⟩ := EStateM.Result.ok.inj (hrun.symm.trans hupper)
  obtain rfl : values = [2, 1] := hvalues
  exact ⟨_, t', hrun, hrun', htotal⟩

end Expression

end Dicebag
