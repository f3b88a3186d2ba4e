import Dicebag.Proofs.Roll.Settling

/-!
# Dicebag.Proofs.Roll.Waves

Explosions in waves instead of chains.  A roll follows the explosions of
one die to their end before it turns to the next die; the dice can as well
be rolled wave by wave, one for each die of the wave before that explodes.
The same draws belong to other dice then and are made in batches of other
sizes, but as many are owed after each of them (`Settles.append_iff`), so
both ways of rolling take the same draws from every source and come to the
same dice (`run_rollByWaves`).
-/

namespace Dicebag

/-! ## Tables without their logs -/

namespace Table

variable {faces : Int} {t t' : Table} {values others : List Int} {entries : List LogEntry}
  {err : DrawError}

theorem Dealt.withoutLog (h : t.Dealt faces values entries t') :
    t.Dealt faces values [] { t' with log := t.log } :=
  ⟨h.yields, h.calls, rfl⟩

theorem Stopped.withoutLog (h : t.Stopped faces values entries err t') :
    t.Stopped faces values [] err { t' with log := t.log } := by
  obtain ⟨t₁, hdealt, hdraw⟩ := h
  obtain ⟨hsource, rfl⟩ := run_draw_eq_error_iff.1 hdraw
  exact ⟨_, hdealt.withoutLog, run_draw_eq_error_iff.2 ⟨hsource, rfl⟩⟩

theorem dealt_values_iff :
    t.Dealt faces (values ++ others) [] t' ↔
      ∃ t₁, t.Dealt faces values [] t₁ ∧ t₁.Dealt faces others [] t' :=
  @dealt_append_iff _ _ _ _ _ [] []

theorem stopped_values_iff :
    t.Stopped faces (values ++ others) [] err t' ↔
      ∃ t₁, t.Dealt faces values [] t₁ ∧ t₁.Stopped faces others [] err t' :=
  @stopped_append_iff _ _ _ _ _ [] [] _

end Table

/-! ## Rolling in waves -/

namespace Die

variable {die : Die} {threshold : Option Int}

theorem supply_lt_of_pool {n : Nat} {values : List Int} {t t' : Table} (hn : n ≠ 0)
    (h : (die.pool n).run t = .ok values t') : t'.source.supply < t.source.supply := by
  obtain ⟨hlength, hdealt⟩ := run_pool_eq_ok_iff.1 h
  have hsupply := hdealt.yields.supply_eq
  omega

/-- Rolls a die for each die of a wave that explodes, then for each of
these that explodes, and so on until none does. -/
def wavesAfter (die : Die) (threshold : Option Int) (wave : List Int) (table : Table) :
    EStateM.Result DrawError Table (List (List Int)) :=
  if _hnone : wave.countP (die.explodesAt threshold) = 0 then .ok [] table
  else
    match _hnext : (die.pool (wave.countP (die.explodesAt threshold))).run table with
    | .error e table => .error e table
    | .ok next table =>
      match wavesAfter die threshold next table with
      | .error e table => .error e table
      | .ok others table => .ok (next :: others) table
termination_by table.source.supply
decreasing_by exact supply_lt_of_pool (by assumption) (by assumption)

/-- The waves that follow a wave. -/
def waves (die : Die) (threshold : Option Int) (wave : List Int) : Deal (List (List Int)) :=
  die.wavesAfter threshold wave

/-- A wave with dice that explode is followed by as many dice and by the
waves behind these; no other wave is followed by any. -/
theorem waves_eq (die : Die) (threshold : Option Int) (wave : List Int) :
    die.waves threshold wave =
      if wave.countP (die.explodesAt threshold) = 0 then pure []
      else (do
        let next ← die.pool (wave.countP (die.explodesAt threshold))
        let others ← die.waves threshold next
        pure (next :: others)) := by
  by_cases hnone : wave.countP (die.explodesAt threshold) = 0
  · rw [if_pos hnone]
    funext table
    show die.wavesAfter threshold wave table = .ok [] table
    rw [wavesAfter, dif_pos hnone]
  · rw [if_neg hnone]
    funext table
    show die.wavesAfter threshold wave table = EStateM.run _ table
    rw [wavesAfter, dif_neg hnone, EStateM.run_bind]
    cases (die.pool (wave.countP (die.explodesAt threshold))).run table with
    | error e table' => rfl
    | ok next table' =>
      have hrun : (die.waves threshold next).run table' = die.wavesAfter threshold next table' :=
        rfl
      simp only
      rw [EStateM.run_bind, hrun]
      cases die.wavesAfter threshold next table' <;> rfl

/-! ## The draws of waves -/

/-- Draws that settle a wave are the waves that follow it. -/
theorem exists_run_waves {wave draws : List Int} {t t' : Table}
    (hsettles : Settles (die.explodesAt threshold) (wave.countP (die.explodesAt threshold)) draws)
    (hdealt : t.Dealt die.faces draws [] t') :
    ∃ waves, (die.waves threshold wave).run t = .ok waves t' ∧ waves.flatten = draws := by
  -- every wave that is rolled leaves fewer draws
  generalize hn : draws.length = n
  induction n using Nat.strongRecOn generalizing wave draws t with
  | ind n ih =>
    rw [waves_eq]
    by_cases hnone : wave.countP (die.explodesAt threshold) = 0
    · rw [hnone, settles_zero_iff] at hsettles
      rw [hsettles, Table.dealt_nil_iff] at hdealt
      rw [if_pos hnone, hsettles, hdealt]
      exact ⟨[], rfl, rfl⟩
    · obtain ⟨next, rest, rfl, hlength, hrest⟩ := hsettles.exists_batch
      obtain ⟨t₁, hnext, hothers⟩ := Table.dealt_values_iff.1 hdealt
      have hshorter : rest.length < n := by
        rw [← hn, List.length_append]
        omega
      obtain ⟨others, hrun, hflatten⟩ := ih _ hshorter hrest hothers rfl
      rw [if_neg hnone]
      refine ⟨next :: others, ?_, by rw [List.flatten_cons, hflatten]⟩
      rw [run_bind_eq_ok_iff]
      refine ⟨next, t₁, run_pool_eq_ok_iff.2 ⟨hlength, hnext⟩, ?_⟩
      exact run_bind_eq_ok_iff.2 ⟨others, t', hrun, rfl⟩

/-- A source that stops before enough values do not explode stops the waves
that follow a wave. -/
theorem run_waves_eq_error {wave values : List Int} {t t' : Table} {err : DrawError}
    (hshort : values.countP (fun v => !die.explodesAt threshold v) <
      wave.countP (die.explodesAt threshold))
    (hstopped : t.Stopped die.faces values [] err t') :
    (die.waves threshold wave).run t = .error err t' := by
  generalize hn : values.length = n
  induction n using Nat.strongRecOn generalizing wave values t with
  | ind n ih =>
    have hsome : wave.countP (die.explodesAt threshold) ≠ 0 := by omega
    rw [waves_eq, if_neg hsome, run_bind_eq_error_iff]
    by_cases hlt : values.length < wave.countP (die.explodesAt threshold)
    · exact .inl (run_pool_eq_error_iff.2 ⟨values, hlt, hstopped⟩)
    · obtain ⟨next, rest, rfl, hlength, hrest⟩ :=
        exists_batch_of_countP_ends_lt hshort (Nat.not_lt.1 hlt)
      obtain ⟨t₁, hnext, hothers⟩ := Table.stopped_values_iff.1 hstopped
      have hshorter : rest.length < n := by
        rw [← hn, List.length_append]
        omega
      refine .inr ⟨next, t₁, run_pool_eq_ok_iff.2 ⟨hlength, hnext⟩, ?_⟩
      exact run_bind_eq_error_iff.2 (.inl (ih _ hshorter hrest hothers rfl))

end Die

/-! ## Both ways of rolling -/

namespace Expression

variable {e : Expression} {mode : RollMode} {t t' : Table}

/-- Rolls an expression wave by wave; the first wave is the window of the
pool. -/
def rollByWaves (e : Expression) (mode : RollMode) : Deal Roll := do
  let pool ← (e.die mode).pool e.poolSize.toNat
  let window := e.window pool
  let waves ← (e.die mode).waves e.threshold window
  pure ⟨descending (window :: waves).flatten⟩

theorem run_rollByWaves_of_ok {r : Roll} (h : (e.roll mode).run t = .ok r t') :
    (e.rollByWaves mode).run t = .ok r { t' with log := t.log } := by
  obtain ⟨pool, chains, hroll, rfl, hdealt⟩ := run_roll_eq_ok_iff.1 h
  have hsettled := isSettled_iff_exists_isRoll.2 ⟨chains, hroll, rfl⟩
  obtain ⟨t₁, hpool, hdraws⟩ := Table.dealt_values_iff.1 hdealt.withoutLog
  obtain ⟨waves, hwaves, hflatten⟩ := Die.exists_run_waves hsettled.settles hdraws
  rw [rollByWaves, run_bind_eq_ok_iff]
  refine ⟨pool, t₁, Die.run_pool_eq_ok_iff.2 ⟨hroll.length_pool, hpool⟩, ?_⟩
  refine run_bind_eq_ok_iff.2 ⟨waves, _, hwaves, ?_⟩
  rw [List.flatten_cons, hflatten]
  rfl

theorem run_rollByWaves_of_error {err : DrawError} (h : (e.roll mode).run t = .error err t') :
    (e.rollByWaves mode).run t = .error err { t' with log := t.log } := by
  rw [rollByWaves, run_bind_eq_error_iff]
  obtain ⟨values, hlt, hstopped⟩ |
      ⟨pool, chains, values, hpool, hlt, hchains, hvalues, hstopped⟩ := run_roll_eq_error_iff.1 h
  · exact .inl (Die.run_pool_eq_error_iff.2 ⟨values, hlt, hstopped.withoutLog⟩)
  · obtain ⟨t₁, hdealt, hstopped⟩ :=
      Table.stopped_values_iff.1 hstopped.withoutLog
    -- of the draws behind the pool only those that end a chain do not explode
    have hnone : values.countP (fun v => !e.explodes mode v) = 0 :=
      List.countP_eq_zero.2 fun v hv => by simp [hvalues v hv]
    have hshort : (chains.flatten ++ values).countP (fun v => !e.explodes mode v) <
        (e.window pool).countP (e.explodes mode) := by
      rw [List.countP_append, countP_ends_flatten hchains, hnone]
      exact hlt
    refine .inr ⟨pool, t₁, Die.run_pool_eq_ok_iff.2 ⟨hpool, hdealt⟩, ?_⟩
    exact run_bind_eq_error_iff.2 (.inl (Die.run_waves_eq_error hshort hstopped))

/-- On every source the two ways of rolling differ in nothing but the log,
which waves do not keep. -/
theorem run_rollByWaves (e : Expression) (mode : RollMode) (t : Table) :
    (e.rollByWaves mode).run t =
      match (e.roll mode).run t with
      | .ok r t' => .ok r { t' with log := t.log }
      | .error err t' => .error err { t' with log := t.log } := by
  split
  · next h => exact run_rollByWaves_of_ok h
  · next h => exact run_rollByWaves_of_error h

/-- **Chains and waves agree**: rolled in chains or wave by wave, a script
is asked for the same numbers and comes to the same values with the same
items left, or runs out both times. -/
theorem roll_agrees_with_waves (e : Expression) (mode : RollMode) (items : List Int) :
    match (e.roll mode).run (.ofSource (.script items)),
      (e.rollByWaves mode).run (.ofSource (.script items)) with
    | .ok r t, .ok r' t' => r'.values = r.values ∧ t'.calls = t.calls ∧ t'.source = t.source
    | .error err t, .error err' t' =>
        err = .scriptExhausted ∧ err' = .scriptExhausted ∧ t'.calls = t.calls ∧
          t'.source = t.source
    | _, _ => False := by
  rw [run_rollByWaves]
  cases hrun : (e.roll mode).run (.ofSource (.script items)) with
  | ok r t => exact ⟨rfl, rfl, rfl⟩
  | error err t =>
    obtain ⟨herr, _⟩ := run_roll_script_eq_error hrun
    exact ⟨herr, herr, rfl, rfl⟩

/-- Two dice explode: the first chain takes the draws 5, 6 and 1 and the
second the 2, the first wave takes 5 and 6 and the second 1 and 2. -/
example : ((⟨2, 6, 0, some 5, by decide, by decide⟩ : Expression).rollByWaves {}).run
    (.ofSource (.script [5, 6, 5, 6, 1, 2, 3])) =
      .ok ⟨[6, 6, 5, 5, 2, 1]⟩ ⟨.script [3], List.replicate 6 ⟨1, 6⟩, []⟩ := by cbv

end Expression

end Dicebag
