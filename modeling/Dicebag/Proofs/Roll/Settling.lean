import Dicebag.Proofs.Roll.Accounting

/-!
# Dicebag.Proofs.Roll.Settling

The draws behind a pool, without regard to the chain that each of them
belongs to.  A die of the window that explodes owes a draw; a draw settles
what one die owes, and owes a draw itself where it explodes.  `Settles`
counts only how many draws are owed, and that is all that decides when a
roll ends:

* `Settles.append_iff` — any of the draws owed can be made first, in a batch;
* `settles_iff_exists_chains` — chains one after the other settle one die each;
* `settles_iff_last` — the draw that settles the last die is found by
  counting those that do not explode;
* `Expression.isSettled_of_run_roll`, `Expression.exists_run_roll_of_isSettled` — the
  rolls of a script in these terms.
-/

namespace Dicebag

/-! ## Draws that settle what is owed -/

/-- The draws settle so many dice: each of them settles one, and owes a
draw in its turn where it explodes. -/
inductive Settles (explodes : Int → Bool) : Nat → List Int → Prop
  | nil : Settles explodes 0 []
  | cons {owed value draws} (h : Settles explodes (owed + (explodes value).toNat) draws) :
    Settles explodes (owed + 1) (value :: draws)

section

variable {explodes : Int → Bool} {owed : Nat} {value : Int} {draws rest : List Int}

@[simp] theorem settles_zero_iff : Settles explodes 0 draws ↔ draws = [] := by
  constructor
  · intro h
    cases h
    rfl
  · intro h
    rw [h]
    exact .nil

@[simp] theorem settles_succ_cons_iff :
    Settles explodes (owed + 1) (value :: draws) ↔
      Settles explodes (owed + (explodes value).toNat) draws := by
  constructor
  · intro h
    cases h with
    | cons h => exact h
  · exact .cons

/-- A value either explodes or ends a chain. -/
theorem countP_ends_cons (explodes : Int → Bool) (value : Int) (draws : List Int) :
    (value :: draws).countP (fun v => !explodes v) + (explodes value).toNat =
      draws.countP (fun v => !explodes v) + 1 := by
  rw [List.countP_cons]
  cases explodes value <;> simp

/-- As many draws as dice are settled do not explode. -/
theorem Settles.countP_ends (h : Settles explodes owed draws) :
    draws.countP (fun v => !explodes v) = owed := by
  induction h with
  | nil => rfl
  | @cons owed value draws _ ih =>
    have hcons := countP_ends_cons explodes value draws
    omega

/-- The draws that a batch of dice is owed can be made all at once: what is
owed then is what was owed besides, and a draw for each of them that
explodes. -/
theorem Settles.append_iff {batch : List Int} :
    Settles explodes (owed + batch.length) (batch ++ rest) ↔
      Settles explodes (owed + batch.countP explodes) rest := by
  induction batch generalizing owed with
  | nil => rfl
  | cons value batch ih =>
    have hcount : (value :: batch).countP explodes =
        (explodes value).toNat + batch.countP explodes := by
      rw [List.countP_cons]
      cases explodes value <;> simp [Nat.add_comm]
    have hlength : owed + (value :: batch).length = owed + batch.length + 1 := rfl
    rw [hlength, List.cons_append, settles_succ_cons_iff, Nat.add_right_comm, ih, hcount,
      Nat.add_assoc]

/-- The draws owed at first make a batch of their own, and those behind
settle what the batch owes. -/
theorem Settles.exists_batch (h : Settles explodes owed draws) :
    ∃ batch rest, draws = batch ++ rest ∧ batch.length = owed ∧
      Settles explodes (batch.countP explodes) rest := by
  have hle : owed ≤ draws.length := by
    rw [← h.countP_ends]
    exact List.countP_le_length
  have hlength := List.length_take_of_le hle
  rw [← Nat.zero_add owed, ← hlength, ← List.take_append_drop owed draws,
    List.take_left' hlength, Settles.append_iff, Nat.zero_add] at h
  exact ⟨_, _, (List.take_append_drop _ _).symm, hlength, h⟩

/-- Where too few values end a chain, too few of those behind the batch
do. -/
theorem exists_batch_of_countP_ends_lt {values : List Int}
    (h : values.countP (fun v => !explodes v) < owed) (hle : owed ≤ values.length) :
    ∃ batch rest, values = batch ++ rest ∧ batch.length = owed ∧
      rest.countP (fun v => !explodes v) < batch.countP explodes := by
  have hlength := List.length_take_of_le hle
  have hsplit := countP_explodes_add_ends explodes (values.take owed)
  rw [← List.take_append_drop owed values, List.countP_append] at h
  exact ⟨_, _, (List.take_append_drop _ _).symm, hlength, by omega⟩

/-- Unless nothing is owed, the draws end with the one that makes those
that do not explode as many as the dice that are settled. -/
theorem settles_iff_last :
    Settles explodes owed draws ↔
      owed = 0 ∧ draws = [] ∨
        ∃ front last, draws = front ++ [last] ∧ explodes last = false ∧
          front.countP (fun v => !explodes v) + 1 = owed := by
  constructor
  · intro h
    induction h with
    | nil => exact .inl ⟨rfl, rfl⟩
    | @cons owed value draws _ ih =>
      obtain ⟨howed, hdraws⟩ | ⟨front, last, hdraws, hlast, howed⟩ := ih
      · have hvalue : explodes value = false := by
          cases hexplodes : explodes value with
          | false => rfl
          | true => simp [hexplodes] at howed
        refine .inr ⟨[], value, by rw [hdraws]; rfl, hvalue, ?_⟩
        rw [hvalue] at howed
        exact congrArg _ howed.symm
      · have hcons := countP_ends_cons explodes value front
        exact .inr ⟨value :: front, last, by rw [hdraws]; rfl, hlast, by omega⟩
  · intro h
    obtain ⟨rfl, rfl⟩ | ⟨front, last, rfl, hlast, rfl⟩ := h
    · exact .nil
    · induction front with
      | nil => simp [hlast]
      | cons value front ih =>
        have hcons := countP_ends_cons explodes value front
        rw [List.cons_append, settles_succ_cons_iff, hcons]
        exact ih

/-- Items that hold enough values that do not explode begin with draws
that settle so many dice. -/
theorem exists_settles_append {items : List Int}
    (h : owed ≤ items.countP fun v => !explodes v) :
    ∃ draws rest, items = draws ++ rest ∧ Settles explodes owed draws := by
  induction items generalizing owed with
  | nil =>
    obtain rfl : owed = 0 := Nat.le_zero.1 h
    exact ⟨[], [], rfl, .nil⟩
  | cons value items ih =>
    cases owed with
    | zero => exact ⟨[], value :: items, rfl, .nil⟩
    | succ owed =>
      have hcons := countP_ends_cons explodes value items
      have hle : owed + (explodes value).toNat ≤ items.countP fun v => !explodes v := by omega
      obtain ⟨draws, rest, hitems, hdraws⟩ := ih hle
      exact ⟨value :: draws, rest, congrArg _ hitems, .cons hdraws⟩

/-! ## Chains settle one die each -/

theorem IsChain.settles {c : List Int} (hc : IsChain explodes c) (h : Settles explodes owed rest) :
    Settles explodes (owed + 1) (c ++ rest) := by
  induction c with
  | nil => exact absurd hc not_isChain_nil
  | cons value c ih =>
    rw [List.cons_append, settles_succ_cons_iff]
    obtain ⟨hvalue, hc⟩ | ⟨hvalue, rfl⟩ := isChain_cons_iff.1 hc
    · rw [hvalue]
      exact ih hc
    · rw [hvalue]
      exact h

/-- Draws that settle so many dice are that many chains one after the
other, and the other way round. -/
theorem settles_iff_exists_chains :
    Settles explodes owed draws ↔
      ∃ chains : List (List Int), chains.length = owed ∧ (∀ c ∈ chains, IsChain explodes c) ∧
        draws = chains.flatten := by
  constructor
  · intro h
    induction h with
    | nil => exact ⟨[], rfl, by simp, rfl⟩
    | @cons owed value draws _ ih =>
      obtain ⟨chains, hlength, hchains, hdraws⟩ := ih
      cases hvalue : explodes value with
      | false =>
        rw [hvalue] at hlength
        have hsingle : IsChain explodes [value] := isChain_cons_iff.2 (.inr ⟨hvalue, rfl⟩)
        exact ⟨[value] :: chains, congrArg _ hlength,
          List.forall_mem_cons.2 ⟨hsingle, hchains⟩, congrArg _ hdraws⟩
      | true =>
        -- the chain that the value begins goes on with the first of those behind it
        rw [hvalue] at hlength
        obtain ⟨c, others, rfl⟩ := List.exists_cons_of_length_eq_add_one hlength
        obtain ⟨hc, hothers⟩ := List.forall_mem_cons.1 hchains
        have hlonger : IsChain explodes (value :: c) := isChain_cons_iff.2 (.inl ⟨hvalue, hc⟩)
        exact ⟨(value :: c) :: others, hlength,
          List.forall_mem_cons.2 ⟨hlonger, hothers⟩, congrArg _ hdraws⟩
  · intro ⟨chains, hlength, hchains, hdraws⟩
    subst hlength hdraws
    induction chains with
    | nil => exact .nil
    | cons c chains ih =>
      obtain ⟨hc, hchains⟩ := List.forall_mem_cons.1 hchains
      exact hc.settles (ih hchains)

end

/-! ## Rolls of a script -/

namespace Expression

variable {e : Expression} {mode : RollMode} {pool draws items rest : List Int} {r : Roll}

/-- The draws that the window of a pool owes at first. -/
def owed (e : Expression) (mode : RollMode) (pool : List Int) : Nat :=
  (e.window pool).countP (e.explodes mode)

/-- A pool of the expression and draws behind it that settle its window. -/
structure IsSettled (e : Expression) (mode : RollMode) (pool draws : List Int) : Prop where
  length_pool : pool.length = e.poolSize.toNat
  settles : Settles (e.explodes mode) (e.owed mode pool) draws

theorem isSettled_iff_exists_isRoll :
    e.IsSettled mode pool draws ↔ ∃ chains, e.IsRoll mode pool chains ∧ draws = chains.flatten := by
  constructor
  · intro ⟨hpool, hsettles⟩
    obtain ⟨chains, hlength, hchains, hdraws⟩ := settles_iff_exists_chains.1 hsettles
    exact ⟨chains, ⟨hpool, hlength, hchains⟩, hdraws⟩
  · intro ⟨chains, ⟨hpool, hlength, hchains⟩, hdraws⟩
    exact ⟨hpool, settles_iff_exists_chains.2 ⟨chains, hlength, hchains, hdraws⟩⟩

/-- What is rolled of a script is a pool and draws that settle it, and what
follows them is left. -/
theorem isSettled_of_run_roll {t : Table}
    (h : (e.roll mode).run (.ofSource (.script items)) = .ok r t) :
    ∃ pool draws rest, e.IsSettled mode pool draws ∧ items = pool ++ (draws ++ rest) ∧
      r = ⟨descending (e.window pool ++ draws)⟩ ∧ t.source = .script rest := by
  obtain ⟨pool, chains, rest, hroll, hitems, hr, ht⟩ := run_roll_script_eq_ok_iff.1 h
  have hsettled := isSettled_iff_exists_isRoll.2 ⟨chains, hroll, rfl⟩
  rw [List.append_assoc] at hitems
  rw [ht]
  exact ⟨pool, chains.flatten, rest, hsettled, hitems, hr, rfl⟩

/-- A script that begins with a pool and draws that settle it is rolled. -/
theorem exists_run_roll_of_isSettled (h : e.IsSettled mode pool draws) (rest : List Int) :
    ∃ t, (e.roll mode).run (.ofSource (.script (pool ++ (draws ++ rest)))) =
        .ok ⟨descending (e.window pool ++ draws)⟩ t ∧ t.source = .script rest := by
  obtain ⟨chains, hroll, rfl⟩ := isSettled_iff_exists_isRoll.1 h
  have hitems := (List.append_assoc pool chains.flatten rest).symm
  exact ⟨_, run_roll_script_eq_ok_iff.2 ⟨pool, chains, rest, hroll, hitems, rfl, rfl⟩, rfl⟩

end Expression

end Dicebag
