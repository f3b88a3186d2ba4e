import Mathlib
import Dicebag.Proofs.Roll.Windows

/-!
# Dicebag.Proofs.Roll.Accounting

Where the draws of a roll go.  What a roll draws falls into a pool and
chains in one way only, nothing is drawn that is not in the result unless
the window drops it, and nothing is in the result that was not drawn
(`roll_script_accounts`).  Every chain adds one value that does not
explode, and there is a chain for each value of the window that does, so
as many values below the threshold come out as the window had dice
(`roll_below_threshold`).
-/

namespace Dicebag

/-! ## Totals -/

theorem Roll.total_eq_sum (r : Roll) : r.total = r.values.sum := List.sum_eq_foldl.symm

theorem Roll.total_descending (values : List Int) :
    Roll.total ⟨descending values⟩ = values.sum := by
  rw [Roll.total_eq_sum]
  exact (descending_perm values).sum_eq

/-! ## Tables with a script -/

namespace Table

theorem dealt_script_iff {faces : Int} {items values : List Int} {calls : List Call}
    {log entries : List LogEntry} {t' : Table} :
    (⟨.script items, calls, log⟩ : Table).Dealt faces values entries t' ↔
      ∃ rest, items = values ++ rest ∧
        t' = ⟨.script rest, List.replicate values.length ⟨1, faces⟩ ++ calls,
          entries.reverse ++ log⟩ := by
  constructor
  · intro ⟨hyields, hcalls, hlog⟩
    obtain ⟨rest, hitems, hsource⟩ := Source.Yields.script_iff.1 hyields
    obtain ⟨source', calls', log'⟩ := t'
    obtain rfl : source' = .script rest := hsource
    exact ⟨rest, hitems, by rw [show calls' = _ from hcalls, show log' = _ from hlog]⟩
  · intro ⟨rest, hitems, ht⟩
    rw [ht]
    exact ⟨Source.Yields.script_iff.2 ⟨rest, hitems, rfl⟩, rfl, rfl⟩

/-- A script stops a deal only when all its items are drawn. -/
theorem stopped_script_iff {faces : Int} {items values : List Int} {calls : List Call}
    {log entries : List LogEntry} {e : DrawError} {t' : Table} :
    (⟨.script items, calls, log⟩ : Table).Stopped faces values entries e t' ↔
      items = values ∧ e = .scriptExhausted ∧
        t' = ⟨.script [], List.replicate (values.length + 1) ⟨1, faces⟩ ++ calls,
          entries.reverse ++ log⟩ := by
  constructor
  · intro ⟨t₁, hdealt, hdraw⟩
    obtain ⟨rest, hitems, ht₁⟩ := dealt_script_iff.1 hdealt
    obtain ⟨hsource, ht'⟩ := run_draw_eq_error_iff.1 hdraw
    rw [ht₁] at hsource ht'
    cases rest with
    | nil =>
      rw [List.append_nil] at hitems
      exact ⟨hitems, (Except.error.inj hsource).symm, ht'⟩
    | cons item rest => cases hsource
  · intro ⟨hitems, he, ht'⟩
    refine ⟨⟨.script [], List.replicate values.length ⟨1, faces⟩ ++ calls,
      entries.reverse ++ log⟩, dealt_script_iff.2 ⟨[], ?_, rfl⟩, ?_⟩
    · rw [List.append_nil, hitems]
    · exact run_draw_eq_error_iff.2 ⟨he ▸ rfl, ht'⟩

end Table

/-! ## Chains within the draws -/

section

variable {explodes : Int → Bool}

/-- A chain ends at its first value that does not explode, so it is found
at the front of whatever follows it. -/
theorem IsChain.append_inj {c d rest rest' : List Int} (hc : IsChain explodes c)
    (hd : IsChain explodes d) (h : c ++ rest = d ++ rest') : c = d ∧ rest = rest' := by
  induction c generalizing d with
  | nil => exact absurd hc not_isChain_nil
  | cons v c ih =>
    cases d with
    | nil => exact absurd hd not_isChain_nil
    | cons w d =>
      obtain ⟨rfl, htail⟩ := List.cons.inj h
      obtain ⟨hv, hc⟩ | ⟨hv, rfl⟩ := isChain_cons_iff.1 hc
      · obtain ⟨_, hd⟩ | ⟨hv', _⟩ := isChain_cons_iff.1 hd
        · obtain ⟨rfl, hrest⟩ := ih hc hd htail
          exact ⟨rfl, hrest⟩
        · rw [hv] at hv'
          contradiction
      · obtain ⟨hv', _⟩ | ⟨_, rfl⟩ := isChain_cons_iff.1 hd
        · rw [hv] at hv'
          contradiction
        · exact ⟨rfl, htail⟩

/-- As many chains on both sides are the same chains. -/
theorem flatten_append_inj {cs ds : List (List Int)} {rest rest' : List Int}
    (hcs : ∀ c ∈ cs, IsChain explodes c) (hds : ∀ d ∈ ds, IsChain explodes d)
    (hlength : cs.length = ds.length) (h : cs.flatten ++ rest = ds.flatten ++ rest') :
    cs = ds ∧ rest = rest' := by
  induction cs generalizing ds with
  | nil =>
    obtain rfl := List.eq_nil_of_length_eq_zero hlength.symm
    exact ⟨rfl, h⟩
  | cons c cs ih =>
    cases ds with
    | nil => cases hlength
    | cons d ds =>
      obtain ⟨hc, hcs⟩ := List.forall_mem_cons.1 hcs
      obtain ⟨hd, hothers⟩ := List.forall_mem_cons.1 hds
      rw [List.flatten_cons, List.flatten_cons, List.append_assoc, List.append_assoc] at h
      obtain ⟨hhead, htail⟩ := hc.append_inj hd h
      obtain ⟨hchains, hrest⟩ := ih hcs hothers (Nat.succ.inj hlength) htail
      rw [hhead, hchains]
      exact ⟨rfl, hrest⟩

theorem IsChain.countP_ends {c : List Int} (h : IsChain explodes c) :
    c.countP (fun v => !explodes v) = 1 := by
  obtain ⟨front, last, rfl, hfront, hlast⟩ := h
  have hnone : front.countP (fun v => !explodes v) = 0 :=
    List.countP_eq_zero.2 fun v hv => by simp [hfront v hv]
  rw [List.countP_append, hnone]
  simp [hlast]

theorem countP_explodes_add_ends (explodes : Int → Bool) (values : List Int) :
    values.countP explodes + values.countP (fun v => !explodes v) = values.length := by
  rw [List.length_eq_countP_add_countP explodes]
  simp

/-- Chains hold one value each that does not explode. -/
theorem countP_ends_flatten {cs : List (List Int)} (h : ∀ c ∈ cs, IsChain explodes c) :
    cs.flatten.countP (fun v => !explodes v) = cs.length := by
  induction cs with
  | nil => rfl
  | cons c cs ih =>
    obtain ⟨hc, hcs⟩ := List.forall_mem_cons.1 h
    rw [List.flatten_cons, List.countP_append, hc.countP_ends, ih hcs, List.length_cons,
      Nat.add_comm]

end

namespace Expression

variable {e : Expression} {mode : RollMode} {pool pool' : List Int}
  {chains chains' : List (List Int)} {rest rest' : List Int}

/-- Items begin with a roll in one way at most. -/
theorem IsRoll.unique (h : e.IsRoll mode pool chains) (h' : e.IsRoll mode pool' chains')
    (heq : pool ++ chains.flatten ++ rest = pool' ++ chains'.flatten ++ rest') :
    pool = pool' ∧ chains = chains' ∧ rest = rest' := by
  rw [List.append_assoc, List.append_assoc] at heq
  obtain ⟨hpool, hrest⟩ := List.append_inj heq (h.length_pool.trans h'.length_pool.symm)
  have hlength : chains.length = chains'.length := by
    rw [h.length_chains, h'.length_chains, hpool]
  exact ⟨hpool, flatten_append_inj h.isChain h'.isChain hlength hrest⟩

/-- As many values that do not explode come out of a roll as its window
has dice: a die of the window that explodes is made up for by the end of
its chain. -/
theorem IsRoll.countP_ends (h : e.IsRoll mode pool chains) :
    (e.window pool ++ chains.flatten).countP (fun v => !e.explodes mode v) =
      (e.window pool).length := by
  rw [List.countP_append, countP_ends_flatten h.isChain, h.length_chains, Nat.add_comm]
  exact countP_explodes_add_ends _ _

/-- A window takes the number of dice asked for from a whole pool. -/
theorem IsRoll.length_window (h : e.IsRoll mode pool chains) (hcount : 0 ≤ e.count) :
    ((e.window pool).length : Int) = e.count := by
  rw [Expression.length_window, h.length_pool, keeps_poolSize hcount]

/-! ## Rolls of a script -/

variable {items : List Int} {t' : Table}

/-- A script is rolled if it begins with a roll. -/
theorem run_roll_script_eq_ok_iff {r : Roll} :
    (e.roll mode).run (.ofSource (.script items)) = .ok r t' ↔
      ∃ pool chains rest, e.IsRoll mode pool chains ∧ items = pool ++ chains.flatten ++ rest ∧
        r = ⟨descending (e.window pool ++ chains.flatten)⟩ ∧
        t' = ⟨.script rest, List.replicate (pool ++ chains.flatten).length ⟨1, e.faces⟩,
          (noted mode.audit (.pool e pool (e.window pool)) ++
            e.chainEntries mode chains).reverse⟩ := by
  rw [run_roll_eq_ok_iff]
  simp only [Table.ofSource, Table.dealt_script_iff, List.append_nil]
  constructor
  · intro ⟨pool, chains, hroll, hr, rest, hitems, ht⟩
    exact ⟨pool, chains, rest, hroll, hitems, hr, ht⟩
  · intro ⟨pool, chains, rest, hroll, hitems, hr, ht⟩
    exact ⟨pool, chains, hroll, hr, rest, hitems, ht⟩

/-- A script that is not rolled is drawn to its end, and asked once
more. -/
theorem run_roll_script_eq_error {err : DrawError}
    (h : (e.roll mode).run (.ofSource (.script items)) = .error err t') :
    err = .scriptExhausted ∧ t'.source = .script [] ∧
      t'.calls = List.replicate (items.length + 1) ⟨1, e.faces⟩ := by
  have hstopped : ∃ entries, (Table.ofSource (.script items)).Stopped e.faces items entries
      err t' := by
    obtain ⟨values, _, h⟩ | ⟨pool, chains, values, _, _, _, _, h⟩ := run_roll_eq_error_iff.1 h
    · obtain ⟨rfl, _⟩ := Table.stopped_script_iff.1 h
      exact ⟨_, h⟩
    · obtain ⟨rfl, _⟩ := Table.stopped_script_iff.1 h
      exact ⟨_, h⟩
  obtain ⟨entries, hstopped⟩ := hstopped
  obtain ⟨_, herr, ht⟩ := Table.stopped_script_iff.1 hstopped
  rw [ht, List.append_nil]
  exact ⟨herr, rfl, rfl⟩

/-- What a script is asked for and what becomes of it.  If it begins with
a roll, that roll is drawn from it and nothing behind it; the result holds
the window and the chains, and only what the window drops is missing.  If
it does not, it is drawn to its end. -/
theorem roll_script_accounts (e : Expression) (mode : RollMode) (items : List Int) :
    match (e.roll mode).run (.ofSource (.script items)) with
    | .ok r t => ∃ pool chains rest,
        e.IsRoll mode pool chains ∧ items = pool ++ chains.flatten ++ rest ∧
        (∀ pool' chains' rest', e.IsRoll mode pool' chains' →
          items = pool' ++ chains'.flatten ++ rest' →
          pool' = pool ∧ chains' = chains ∧ rest' = rest) ∧
        r.values.Pairwise (· ≥ ·) ∧ r.values.Perm (e.window pool ++ chains.flatten) ∧
        t.source = .script rest ∧
        t.calls = List.replicate (pool ++ chains.flatten).length ⟨1, e.faces⟩
    | .error err t =>
        err = .scriptExhausted ∧ t.source = .script [] ∧
        t.calls = List.replicate (items.length + 1) ⟨1, e.faces⟩ ∧
        ∀ pool chains rest, e.IsRoll mode pool chains →
          items ≠ pool ++ chains.flatten ++ rest := by
  split
  · next r t hrun =>
    obtain ⟨pool, chains, rest, hroll, hitems, hr, ht⟩ := run_roll_script_eq_ok_iff.1 hrun
    have hunique : ∀ pool' chains' rest', e.IsRoll mode pool' chains' →
        items = pool' ++ chains'.flatten ++ rest' →
        pool' = pool ∧ chains' = chains ∧ rest' = rest := by
      intro pool' chains' rest' hroll' hitems'
      exact hroll'.unique hroll (hitems' ▸ hitems)
    rw [hr, ht]
    exact ⟨pool, chains, rest, hroll, hitems, hunique, pairwise_descending _,
      descending_perm _, rfl, rfl⟩
  · next err t hrun =>
    obtain ⟨herr, hsource, hcalls⟩ := run_roll_script_eq_error hrun
    refine ⟨herr, hsource, hcalls, ?_⟩
    intro pool chains rest hroll hitems
    -- a script that begins with a roll is rolled
    have hok := run_roll_script_eq_ok_iff.2 ⟨pool, chains, rest, hroll, hitems, rfl, rfl⟩
    rw [hrun] at hok
    contradiction

/-! ## The values of a roll -/

/-- However long the chains are, as many values below the threshold come
out of a roll as its window has dice; a roll without threshold comes to
its window. -/
theorem roll_below_threshold (e : Expression) (mode : RollMode) (t t' : Table) (r : Roll)
    (h : (e.roll mode).run t = .ok r t') :
    ∃ pool s, t.source.Yields 1 e.faces pool s ∧ pool.length = e.poolSize.toNat ∧
      (0 ≤ e.count → ((e.window pool).length : Int) = e.count) ∧
      match (e.die mode).effective e.threshold with
      | none => r.values.length = (e.window pool).length
      | some lowest =>
          r.values.countP (· < lowest) = (e.window pool).length ∧
            r.values.length = (e.window pool).length + r.values.countP (lowest ≤ ·) := by
  obtain ⟨pool, chains, hroll, hr, hdealt⟩ := run_roll_eq_ok_iff.1 h
  obtain ⟨s, hpool, _⟩ := Source.Yields.append_iff.1 hdealt.yields
  have hperm : r.values.Perm (e.window pool ++ chains.flatten) := hr ▸ descending_perm _
  have hends : r.values.countP (fun v => !e.explodes mode v) = (e.window pool).length := by
    rw [hperm.countP_eq, hroll.countP_ends]
  refine ⟨pool, s, hpool, hroll.length_pool, hroll.length_window, ?_⟩
  split
  · next hnone =>
    simp only [Die.explodesAt_of_none hnone, Bool.not_false, List.countP_true] at hends
    exact hends
  · next lowest hsome =>
    simp only [Die.explodesAt_of_some hsome, ← decide_not, Int.not_le] at hends
    have hsplit := List.length_eq_countP_add_countP (fun v => decide (v < lowest))
      (l := r.values)
    simp only [decide_eq_true_eq, Int.not_lt] at hsplit
    rw [hsplit, hends]
    exact ⟨rfl, rfl⟩

/-- Two of three dice are kept and both explode, the second chain goes on
for one more value, and two values of the result are below five. -/
theorem roll_below_threshold_two_chains :
    ∃ t, ((⟨2, 6, 1, some 5, by decide, by decide⟩ : Expression).roll {}).run
        (.ofSource (.script [3, 6, 5, 2, 6, 1, 4])) = .ok ⟨[6, 6, 5, 2, 1]⟩ t ∧
      [6, 6, 5, 2, 1].countP (· < (5 : Int)) = 2 ∧
      [6, 6, 5, 2, 1].length = 2 + [6, 6, 5, 2, 1].countP ((5 : Int) ≤ ·) := by
  have hrun : ((⟨2, 6, 1, some 5, by decide, by decide⟩ : Expression).roll {}).run
      (.ofSource (.script [3, 6, 5, 2, 6, 1, 4])) =
        .ok ⟨[6, 6, 5, 2, 1]⟩ ⟨.script [4], List.replicate 6 ⟨1, 6⟩, []⟩ := by cbv
  obtain ⟨pool, _, _, _, hwindow, hbelow, hlength⟩ := roll_below_threshold _ _ _ _ _ hrun
  have hkept := Int.ofNat.inj (hwindow (by decide))
  rw [hkept] at hbelow hlength
  exact ⟨_, hrun, hbelow, hlength⟩

end Expression

end Dicebag
