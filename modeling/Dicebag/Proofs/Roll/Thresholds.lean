import Dicebag.Proofs.Roll.Settling

/-!
# Dicebag.Proofs.Roll.Thresholds

What a lower threshold adds to a roll.  Below a lower threshold fewer
values end a chain and more dice of the window owe one, so the chains of
the two rolls do not match one by one; but the draws that settle the lower
threshold hold enough values that end a chain above the higher one, so they
begin with draws that settle that (`Settles.exists_prefix`).  The pool and
its window are the same for both, so a lower threshold only adds dice
(`lower_threshold_adds`), and so does trance.
-/

namespace Dicebag

/-! ## Draws under two thresholds -/

/-- Draws that settle dice which explode more often begin with draws that
settle as many dice, or fewer, which explode less often. -/
theorem Settles.exists_prefix {low high : Int → Bool} {owed fewer : Nat} {draws : List Int}
    (hsub : ∀ v, high v = true → low v = true) (hle : fewer ≤ owed)
    (h : Settles low owed draws) :
    ∃ first more, draws = first ++ more ∧ Settles high fewer first := by
  have hends : draws.countP (fun v => !low v) ≤ draws.countP (fun v => !high v) := by
    refine List.countP_mono_left fun v _ hv => ?_
    rw [Bool.not_eq_true'] at hv ⊢
    exact Bool.eq_false_iff.2 fun hhigh => Bool.eq_false_iff.1 hv (hsub v hhigh)
  rw [h.countP_ends] at hends
  exact exists_settles_append (Nat.le_trans hle hends)

/-- A die that explodes at a threshold explodes at a lower one. -/
theorem Die.explodesAt_of_le {low high : Die} {lowThreshold highThreshold : Option Int}
    (h : ∀ t ∈ high.effective highThreshold, ∃ t' ∈ low.effective lowThreshold, t' ≤ t)
    {v : Int} (hv : high.explodesAt highThreshold v = true) :
    low.explodesAt lowThreshold v = true := by
  cases hhigh : high.effective highThreshold with
  | none =>
    rw [Die.explodesAt_of_none hhigh] at hv
    contradiction
  | some t =>
    obtain ⟨t', hlow, hle⟩ := h t hhigh
    rw [Die.explodesAt_of_some hhigh, decide_eq_true_eq] at hv
    rw [Die.explodesAt_of_some hlow]
    exact decide_eq_true (Int.le_trans hle hv)

/-- Trance lowers the threshold, or leaves it as it is. -/
theorem Die.exists_effective_trance_le {faces t : Int} {threshold : Option Int}
    (h : t ∈ (⟨faces, false⟩ : Die).effective threshold) :
    ∃ t' ∈ (⟨faces, true⟩ : Die).effective threshold, t' ≤ t := by
  obtain ⟨lowest, rfl, rfl⟩ := Option.map_eq_some_iff.1 h
  exact ⟨min lowest (faces - 1), rfl, Int.min_le_left _ _⟩

namespace Expression

/-! ## Rolls under two thresholds -/

section

variable {high low : Expression} {highMode lowMode : RollMode} {pool draws : List Int}

/-- The window does not depend on the threshold. -/
theorem window_eq_of_eq (hcount : high.count = low.count) (hmodifier : high.modifier = low.modifier)
    (pool : List Int) : high.window pool = low.window pool := by
  rw [window, window, hcount, hmodifier]

theorem poolSize_eq_of_eq (hcount : high.count = low.count)
    (hmodifier : high.modifier = low.modifier) : high.poolSize = low.poolSize := by
  rw [poolSize, poolSize, hcount, hmodifier]

theorem IsSettled.exists_prefix (hcount : high.count = low.count)
    (hmodifier : high.modifier = low.modifier)
    (hsub : ∀ v, high.explodes highMode v = true → low.explodes lowMode v = true)
    (h : low.IsSettled lowMode pool draws) :
    ∃ first more, draws = first ++ more ∧ high.IsSettled highMode pool first := by
  have hfewer : high.owed highMode pool ≤ low.owed lowMode pool := by
    rw [owed, owed, window_eq_of_eq hcount hmodifier]
    exact List.countP_mono_left fun v _ => hsub v
  obtain ⟨first, more, hdraws, hfirst⟩ := h.settles.exists_prefix hsub hfewer
  have hpool : pool.length = high.poolSize.toNat := by
    rw [poolSize_eq_of_eq hcount hmodifier, h.length_pool]
  exact ⟨first, more, hdraws, hpool, hfirst⟩

end

/-- On the script the second roll only adds to the first.  If it ends, then
the first has ended before: it drew some of the same draws from the front
and its dice are some of the same dice, so it has no more of them, and no
higher total unless a draw is negative. -/
def OnlyAdds (items : List Int) (first second : Deal Roll) : Prop :=
  ∀ r t, second.run (.ofSource (.script items)) = .ok r t →
    ∃ r' t' drawn more rest, first.run (.ofSource (.script items)) = .ok r' t' ∧
      items = drawn ++ (more ++ rest) ∧ t'.source = .script (more ++ rest) ∧
      t.source = .script rest ∧ r'.values.Subperm r.values ∧
      r'.values.length ≤ r.values.length ∧
      ((∀ v ∈ drawn ++ more, 0 ≤ v) → r'.total ≤ r.total)

theorem onlyAdds_of_explodes {high low : Expression} {highMode lowMode : RollMode}
    (hcount : high.count = low.count) (hmodifier : high.modifier = low.modifier)
    (hsub : ∀ v, high.explodes highMode v = true → low.explodes lowMode v = true)
    (items : List Int) : OnlyAdds items (high.roll highMode) (low.roll lowMode) := by
  intro r t hrun
  obtain ⟨pool, draws, rest, hsettled, rfl, rfl, hrest⟩ := isSettled_of_run_roll hrun
  obtain ⟨first, more, rfl, hfirst⟩ := hsettled.exists_prefix hcount hmodifier hsub
  obtain ⟨t', hrun', hrest'⟩ := exists_run_roll_of_isSettled hfirst (more ++ rest)
  rw [← List.append_assoc first, window_eq_of_eq hcount hmodifier] at hrun'
  have hsubperm : (descending (low.window pool ++ first)).Subperm
      (descending (low.window pool ++ (first ++ more))) := by
    have hsublist := List.sublist_append_left (low.window pool ++ first) more
    rw [List.append_assoc] at hsublist
    exact (descending_perm _).subperm.trans
      (hsublist.subperm.trans (descending_perm _).symm.subperm)
  refine ⟨_, t', pool ++ first, more, rest, hrun', ?_, hrest', hrest, hsubperm,
    hsubperm.length_le, ?_⟩
  · simp only [List.append_assoc]
  · intro hnonneg
    have hmore : 0 ≤ more.sum :=
      List.sum_nonneg fun v hv => hnonneg v (List.mem_append_right _ hv)
    have hsum : (low.window pool ++ (first ++ more)).sum =
        (low.window pool ++ first).sum + more.sum := by
      rw [← List.append_assoc, List.sum_append]
    rw [Roll.total_descending, Roll.total_descending, hsum]
    exact Int.le_add_of_nonneg_right hmore

/-- **Monotonicity in the threshold**: of two rolls that keep as many of as
many dice, the one with the lower threshold only adds to the one with the
higher threshold, or with none; so does a roll in trance to the same roll
out of it.  (How many faces the dice have is nothing to a script.) -/
theorem lower_threshold_adds :
    (∀ (high low : Expression) (highMode lowMode : RollMode) (items : List Int),
      high.count = low.count → high.modifier = low.modifier →
      (∀ t ∈ (high.die highMode).effective high.threshold,
        ∃ t' ∈ (low.die lowMode).effective low.threshold, t' ≤ t) →
      OnlyAdds items (high.roll highMode) (low.roll lowMode)) ∧
    ∀ (e : Expression) (audit audit' : Bool) (items : List Int),
      OnlyAdds items (e.roll ⟨false, audit⟩) (e.roll ⟨true, audit'⟩) := by
  constructor
  · intro high low highMode lowMode items hcount hmodifier hthreshold
    exact onlyAdds_of_explodes hcount hmodifier (fun _ => Die.explodesAt_of_le hthreshold) items
  · intro e audit audit' items
    refine onlyAdds_of_explodes rfl rfl (fun _ => Die.explodesAt_of_le ?_) items
    exact fun t => Die.exists_effective_trance_le

/-- Two sixes and a five with threshold six, and with five: the lower
threshold owes a chain more, and its first chain ends at another die. -/
theorem lower_threshold_adds_chain :
    ∃ r t, ((⟨3, 6, 0, some 6, by decide, by decide⟩ : Expression).roll {}).run
        (.ofSource (.script [6, 5, 6, 5, 1, 6, 2, 3])) = .ok r t ∧
      r.values.Subperm [6, 6, 6, 5, 5, 3, 2, 1] ∧ r.total ≤ 34 := by
  have hrun : ((⟨3, 6, 0, some 5, by decide, by decide⟩ : Expression).roll {}).run
      (.ofSource (.script [6, 5, 6, 5, 1, 6, 2, 3])) =
        .ok ⟨[6, 6, 6, 5, 5, 3, 2, 1]⟩ ⟨.script [], List.replicate 8 ⟨1, 6⟩, []⟩ := by cbv
  have hadds := lower_threshold_adds.1 ⟨3, 6, 0, some 6, by decide, by decide⟩
    ⟨3, 6, 0, some 5, by decide, by decide⟩ {} {} [6, 5, 6, 5, 1, 6, 2, 3] rfl rfl
    fun t ht => ⟨5, rfl, by cases ht; decide⟩
  obtain ⟨r, t, drawn, more, rest, hhigh, hitems, _, hrest, hsubperm, _, htotal⟩ :=
    hadds _ _ hrun
  obtain rfl : rest = [] := (Source.script.inj hrest).symm
  rw [List.append_nil] at hitems
  exact ⟨r, t, hhigh, hsubperm, htotal (by rw [← hitems]; decide)⟩

end Expression

end Dicebag
