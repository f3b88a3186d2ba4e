import Dicebag.Proofs.Roll.Finishing

/-!
# Dicebag.Proofs.Roll.Shuffling

The order in which the dice of a pool come does not matter.  A roll knows
of its pool only the window, which sorts it, and the size; the chains behind
it depend on the dice of the window alone (`IsRoll.of_window_eq`).  So two
scripts that differ in the order of their pools come to the same, draw by
draw, also where they run out (`roll_of_shuffled_pool`).
-/

namespace Dicebag.Expression

variable {e : Expression} {mode : RollMode} {pool pool' items items' : List Int}
  {chains : List (List Int)}

/-- The chains of a roll go with any pool of the same size and window. -/
theorem IsRoll.of_window_eq (h : e.IsRoll mode pool chains) (hlength : pool'.length = pool.length)
    (hwindow : e.window pool' = e.window pool) : e.IsRoll mode pool' chains where
  length_pool := hlength.trans h.length_pool
  length_chains := by rw [hwindow, h.length_chains]
  isChain := h.isChain

/-- A script is rolled like one that has another pool with the same window
in front of the same draws. -/
theorem exists_run_roll_of_window_eq {r : Roll} {t : Table}
    (hlength : (e.poolOf items').length = (e.poolOf items).length)
    (hwindow : e.window (e.poolOf items') = e.window (e.poolOf items))
    (hbehind : e.behindPool items' = e.behindPool items)
    (h : (e.roll mode).run (.ofSource (.script items)) = .ok r t) :
    ∃ t', (e.roll mode).run (.ofSource (.script items')) = .ok r t' ∧ t'.calls = t.calls ∧
      t'.source = t.source := by
  obtain ⟨pool, chains, rest, hroll, hitems, rfl, rfl⟩ := run_roll_script_eq_ok_iff.1 h
  have hsettled := isSettled_iff_exists_isRoll.2 ⟨chains, hroll, rfl⟩
  rw [List.append_assoc] at hitems
  obtain ⟨rfl, hdraws⟩ := hsettled.eq_poolOf hitems
  have hroll' := hroll.of_window_eq hlength hwindow
  have hitems' : items' = e.poolOf items' ++ chains.flatten ++ rest := by
    rw [List.append_assoc, ← hdraws, ← hbehind, poolOf_append_behindPool]
  refine ⟨_, run_roll_script_eq_ok_iff.2 ⟨_, chains, rest, hroll', hitems', ?_, rfl⟩, ?_, rfl⟩
  · rw [hwindow]
  · simp only [List.length_append, hlength]

/-- **The order of the pool does not matter**: of two scripts with the same
dice in their pools and the same items behind them, either both are rolled, to
the same values on the same requests with the same items left, or both run
out on the same requests. -/
theorem roll_of_shuffled_pool (e : Expression) (mode : RollMode) (items items' : List Int)
    (hpool : (e.poolOf items').Perm (e.poolOf items))
    (hbehind : e.behindPool items' = e.behindPool items) :
    match (e.roll mode).run (.ofSource (.script items)),
      (e.roll mode).run (.ofSource (.script items')) with
    | .ok r t, .ok r' t' => r'.values = r.values ∧ t'.calls = t.calls ∧ t'.source = t.source
    | .error err t, .error err' t' =>
        err = .scriptExhausted ∧ err' = .scriptExhausted ∧ t'.calls = t.calls ∧
          t'.source = t.source
    | _, _ => False := by
  have hlength : items'.length = items.length := by
    rw [← poolOf_append_behindPool e items', ← poolOf_append_behindPool e items, hbehind,
      List.length_append, List.length_append, hpool.length_eq]
  have hwindow := window_eq_of_perm e hpool
  cases hrun : (e.roll mode).run (.ofSource (.script items)) with
  | ok r t =>
    obtain ⟨t', hrun', hcalls, hsource⟩ :=
      exists_run_roll_of_window_eq hpool.length_eq hwindow hbehind hrun
    rw [hrun']
    exact ⟨rfl, hcalls, hsource⟩
  | error err t =>
    cases hrun' : (e.roll mode).run (.ofSource (.script items')) with
    | ok r' t' =>
      -- what is rolled of one order is rolled of the other
      obtain ⟨_, hok, _⟩ :=
        exists_run_roll_of_window_eq hpool.length_eq.symm hwindow.symm hbehind.symm hrun'
      rw [hrun] at hok
      contradiction
    | error err' t' =>
      obtain ⟨herr, hsource, hcalls⟩ := run_roll_script_eq_error hrun
      obtain ⟨herr', hsource', hcalls'⟩ := run_roll_script_eq_error hrun'
      exact ⟨herr, herr', by rw [hcalls', hcalls, hlength], hsource'.trans hsource.symm⟩

/-- Two dice of the window explode in either order of the pool, and neither
order has a second chain without a draw that ends it. -/
theorem roll_of_shuffled_pool_instances :
    (∃ t, ((⟨2, 6, 1, some 5, by decide, by decide⟩ : Expression).roll {}).run
      (.ofSource (.script [5, 3, 6, 2, 6, 1, 4])) = .ok ⟨[6, 6, 5, 2, 1]⟩ t ∧
        t.source = .script [4]) ∧
    ∃ t, ((⟨2, 6, 1, some 5, by decide, by decide⟩ : Expression).roll {}).run
      (.ofSource (.script [5, 3, 6, 2, 6])) = .error .scriptExhausted t ∧ t.calls.length = 6 := by
  constructor
  · have hrun : ((⟨2, 6, 1, some 5, by decide, by decide⟩ : Expression).roll {}).run
        (.ofSource (.script [3, 6, 5, 2, 6, 1, 4])) =
          .ok ⟨[6, 6, 5, 2, 1]⟩ ⟨.script [4], List.replicate 6 ⟨1, 6⟩, []⟩ := by cbv
    have hsame := roll_of_shuffled_pool ⟨2, 6, 1, some 5, by decide, by decide⟩ {}
      [3, 6, 5, 2, 6, 1, 4] [5, 3, 6, 2, 6, 1, 4] (by decide) rfl
    rw [hrun] at hsame
    split at hsame
    · next r' t' heq hrun' =>
      obtain ⟨rfl, rfl⟩ := EStateM.Result.ok.inj heq
      obtain rfl : r' = ⟨[6, 6, 5, 2, 1]⟩ := congrArg Roll.mk hsame.1
      exact ⟨t', hrun', hsame.2.2⟩
    · next heq _ => cases heq
    · exact hsame.elim
  · have hrun : ((⟨2, 6, 1, some 5, by decide, by decide⟩ : Expression).roll {}).run
        (.ofSource (.script [3, 6, 5, 2, 6])) =
          .error .scriptExhausted ⟨.script [], List.replicate 6 ⟨1, 6⟩, []⟩ := by cbv
    have hsame := roll_of_shuffled_pool ⟨2, 6, 1, some 5, by decide, by decide⟩ {}
      [3, 6, 5, 2, 6] [5, 3, 6, 2, 6] (by decide) rfl
    rw [hrun] at hsame
    split at hsame
    · next heq _ => cases heq
    · next err' t' heq hrun' =>
      obtain ⟨rfl, rfl⟩ := EStateM.Result.error.inj heq
      obtain ⟨_, rfl, hcalls, _⟩ := hsame
      exact ⟨t', hrun', congrArg List.length hcalls⟩
    · exact hsame.elim

end Dicebag.Expression
