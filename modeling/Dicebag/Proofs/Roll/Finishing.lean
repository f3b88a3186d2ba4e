import Dicebag.Proofs.Roll.Settling

/-!
# Dicebag.Proofs.Roll.Finishing

When a roll comes to its end.  Nothing but its draws ends a roll, and a
script holds enough of them exactly when it has a whole pool and, behind
that, as many values that do not explode as the window of the pool has dice
that do (`finishes_iff`); the last of these values is the last that is
drawn.  A threshold at which every face explodes leaves nothing to end a
roll once one die is kept (`not_finishes_of_all_explode`).

Among the scripts of faces there is one on which a roll comes to its end
unless even the lowest face of a kept die explodes (`canFinish_iff`).  So
trance, which lowers a threshold to one below the highest face, keeps only
the rolls of two-sided dice from coming to their end
(`trance_can_finish_iff`).
-/

namespace Dicebag.Expression

variable {e : Expression} {mode : RollMode} {items draws rest : List Int}

/-- Whether a roll of the script comes to its end. -/
def Finishes (e : Expression) (mode : RollMode) (items : List Int) : Prop :=
  ∃ r t, (e.roll mode).run (.ofSource (.script items)) = .ok r t

/-! ## The pool of a script -/

/-- The dice rolled at first, as many as the script has. -/
def poolOf (e : Expression) (items : List Int) : List Int := items.take e.poolSize.toNat

/-- The items behind the pool. -/
def behindPool (e : Expression) (items : List Int) : List Int := items.drop e.poolSize.toNat

theorem poolOf_append_behindPool (e : Expression) (items : List Int) :
    e.poolOf items ++ e.behindPool items = items := List.take_append_drop _ _

theorem length_poolOf (h : e.poolSize.toNat ≤ items.length) :
    (e.poolOf items).length = e.poolSize.toNat := List.length_take_of_le h

theorem IsSettled.eq_poolOf {pool : List Int} (h : e.IsSettled mode pool draws)
    (hitems : items = pool ++ (draws ++ rest)) :
    pool = e.poolOf items ∧ e.behindPool items = draws ++ rest := by
  rw [poolOf, behindPool, hitems, ← h.length_pool, List.take_left, List.drop_left]
  exact ⟨rfl, rfl⟩

/-! ## Enough values to end on -/

/-- A roll that comes to its end makes the draws that settle its pool, and
leaves what stands behind them. -/
theorem settles_of_run_roll {r : Roll} {t : Table}
    (h : (e.roll mode).run (.ofSource (.script items)) = .ok r t) :
    ∃ draws rest, e.behindPool items = draws ++ rest ∧ t.source = .script rest ∧
      e.IsSettled mode (e.poolOf items) draws := by
  obtain ⟨pool, draws, rest, hsettled, hitems, _, hrest⟩ := isSettled_of_run_roll h
  obtain ⟨rfl, hbehind⟩ := hsettled.eq_poolOf hitems
  exact ⟨draws, rest, hbehind, hrest, hsettled⟩

theorem finishes_of_settles (h : e.IsSettled mode (e.poolOf items) draws)
    (hbehind : e.behindPool items = draws ++ rest) : e.Finishes mode items := by
  obtain ⟨t, hrun, _⟩ := exists_run_roll_of_isSettled h rest
  rw [← hbehind, poolOf_append_behindPool] at hrun
  exact ⟨_, t, hrun⟩

theorem finishes_iff :
    e.Finishes mode items ↔
      e.poolSize.toNat ≤ items.length ∧
        e.owed mode (e.poolOf items) ≤
          (e.behindPool items).countP fun v => !e.explodes mode v := by
  constructor
  · intro ⟨r, t, hrun⟩
    obtain ⟨draws, rest, hbehind, _, hpool, hsettles⟩ := settles_of_run_roll hrun
    refine ⟨?_, ?_⟩
    · rw [← hpool]
      exact List.length_take_le' _ _
    · rw [hbehind, List.countP_append, hsettles.countP_ends]
      exact Nat.le_add_right _ _
  · intro ⟨hpool, hends⟩
    obtain ⟨draws, rest, hbehind, hsettles⟩ := exists_settles_append hends
    exact finishes_of_settles ⟨length_poolOf hpool, hsettles⟩ hbehind

/-! ## Thresholds at which every face explodes -/

/-- A roll that keeps a die does not end on values that all explode: the
die owes a draw, and each draw owes another. -/
theorem not_finishes_of_all_explode
    (hkept : ∃ pool, pool.length = e.poolSize.toNat ∧ e.window pool ≠ [])
    (hitems : ∀ v ∈ items, e.explodes mode v = true) : ¬ e.Finishes mode items := by
  rw [finishes_iff]
  intro ⟨hlength, hends⟩
  obtain ⟨pool, hpool, hwindow⟩ := hkept
  have hsame : (e.window (e.poolOf items)).length = (e.window pool).length := by
    rw [length_window, length_window, length_poolOf hlength, hpool]
  have howed : e.owed mode (e.poolOf items) = (e.window (e.poolOf items)).length :=
    List.countP_eq_length.2 fun v hv => hitems v (List.mem_of_mem_take (mem_of_mem_window hv))
  have hnone : (e.behindPool items).countP (fun v => !e.explodes mode v) = 0 :=
    List.countP_eq_zero.2 fun v hv => by simp [hitems v (List.mem_of_mem_drop hv)]
  have hpos : 0 < (e.window pool).length := List.length_pos_iff.2 hwindow
  omega

/-! ## The end of a roll -/

/-- **When a roll finishes**: exactly when the script has a whole pool and,
behind it, as many values below the threshold as the window of the pool has
dice at or above it.  The draw that makes them as many is the last; a script
without them is drawn to its end.  No script of faces will do where the
threshold is one or less and a die is kept. -/
theorem roll_finishes_iff (e : Expression) (mode : RollMode) (items : List Int) :
    (e.Finishes mode items ↔
      e.poolSize.toNat ≤ items.length ∧
        e.owed mode (e.poolOf items) ≤
          (e.behindPool items).countP fun v => !e.explodes mode v) ∧
    (∀ r t, (e.roll mode).run (.ofSource (.script items)) = .ok r t →
      ∃ draws rest, e.behindPool items = draws ++ rest ∧ t.source = .script rest ∧
        (e.owed mode (e.poolOf items) = 0 ∧ draws = [] ∨
          ∃ front last, draws = front ++ [last] ∧ e.explodes mode last = false ∧
            front.countP (fun v => !e.explodes mode v) + 1 = e.owed mode (e.poolOf items))) ∧
    (¬ e.Finishes mode items →
      ∃ t, (e.roll mode).run (.ofSource (.script items)) = .error .scriptExhausted t) ∧
    ∀ lowest ∈ (e.die mode).effective e.threshold, lowest ≤ 1 →
      (∃ pool, pool.length = e.poolSize.toNat ∧ e.window pool ≠ []) →
      (∀ v ∈ items, 1 ≤ v ∧ v ≤ e.faces) → ¬ e.Finishes mode items := by
  refine ⟨finishes_iff, ?_, ?_, ?_⟩
  · intro r t hrun
    obtain ⟨draws, rest, hbehind, hrest, hsettled⟩ := settles_of_run_roll hrun
    exact ⟨draws, rest, hbehind, hrest, settles_iff_last.1 hsettled.settles⟩
  · intro hnot
    cases hrun : (e.roll mode).run (.ofSource (.script items)) with
    | ok r t => exact absurd ⟨r, t, hrun⟩ hnot
    | error err t =>
      obtain ⟨rfl, _⟩ := run_roll_script_eq_error hrun
      exact ⟨t, rfl⟩
  · intro lowest hlowest hle hkept hitems
    refine not_finishes_of_all_explode hkept fun v hv => ?_
    have hface := (hitems v hv).1
    rw [explodes, Die.explodesAt_of_some hlowest]
    exact decide_eq_true (Int.le_trans hle hface)

/-- Two dice of the window are at the threshold, so two values below it end
the roll; a two-sided die that explodes in trance is never done. -/
theorem roll_finishes_instances :
    (⟨2, 6, 1, some 5, by decide, by decide⟩ : Expression).Finishes {} [3, 6, 5, 2, 6, 1, 4] ∧
      (∃ t, ((⟨2, 6, 1, some 5, by decide, by decide⟩ : Expression).roll {}).run
        (.ofSource (.script [3, 6, 5, 2, 6])) = .error .scriptExhausted t) ∧
      ¬ (⟨1, 2, 0, some 2, by decide, by decide⟩ : Expression).Finishes { trance := true }
        [2, 1, 1, 2] := by
  refine ⟨?_, ?_, ?_⟩
  · exact (roll_finishes_iff _ _ _).1.2 ⟨by decide, by cbv⟩
  · refine (roll_finishes_iff _ _ _).2.2.1 fun h => ?_
    exact absurd ((roll_finishes_iff _ _ _).1.1 h).2 (by cbv)
  · exact (roll_finishes_iff _ _ _).2.2.2 1 rfl (by decide) ⟨[1], rfl, by decide +kernel⟩
      (by decide)

/-! ## Scripts of faces -/

/-- Whether the window of a whole pool keeps a die. -/
def KeepsDie (e : Expression) : Prop :=
  ∃ pool, pool.length = e.poolSize.toNat ∧ e.window pool ≠ []

/-- Whether there is a script of faces on which the roll comes to its
end. -/
def CanFinish (e : Expression) (mode : RollMode) : Prop :=
  ∃ items, (∀ v ∈ items, 1 ≤ v ∧ v ≤ e.faces) ∧ e.Finishes mode items

/-- A pool of ones is all that is drawn unless a die is kept and explodes
at one. -/
theorem finishes_ones (h : e.KeepsDie → e.explodes mode 1 = false) :
    e.Finishes mode (List.replicate e.poolSize.toNat 1) := by
  have hlength : (List.replicate e.poolSize.toNat (1 : Int)).length = e.poolSize.toNat :=
    List.length_replicate
  have howed : e.owed mode (e.poolOf (List.replicate e.poolSize.toNat 1)) = 0 := by
    refine List.countP_eq_zero.2 fun v hv => ?_
    have hkept : e.KeepsDie := ⟨_, length_poolOf hlength.ge, List.ne_nil_of_mem hv⟩
    obtain rfl : v = 1 := List.eq_of_mem_replicate (List.mem_of_mem_take (mem_of_mem_window hv))
    rw [h hkept]
    exact Bool.false_ne_true
  rw [finishes_iff, howed]
  exact ⟨hlength.ge, Nat.zero_le _⟩

/-- One is the face to end a roll on, if any is. -/
theorem canFinish_iff : e.CanFinish mode ↔ (e.KeepsDie → e.explodes mode 1 = false) := by
  constructor
  · intro ⟨items, hitems, hfinishes⟩ hkept
    refine Bool.eq_false_iff.2 fun hone => ?_
    have hall : ∀ v ∈ items, e.explodes mode v = true := fun v hv =>
      Die.explodesAt_mono (hitems v hv).1 hone
    exact not_finishes_of_all_explode hkept hall hfinishes
  · intro h
    refine ⟨_, fun v hv => ?_, finishes_ones h⟩
    obtain rfl := List.eq_of_mem_replicate hv
    have hfaces := e.two_le_faces
    omega

/-! ## Trance -/

/-- A coin that explodes at its higher side comes to its end out of trance.
In trance both of its sides explode. -/
theorem coin_never_finishes_in_trance :
    (⟨1, 2, 0, some 2, by decide, by decide⟩ : Expression).CanFinish {} ∧
      ¬ (⟨1, 2, 0, some 2, by decide, by decide⟩ : Expression).CanFinish { trance := true } := by
  constructor
  · exact canFinish_iff.2 fun _ => rfl
  · intro hcan
    have hkept : (⟨1, 2, 0, some 2, by decide, by decide⟩ : Expression).KeepsDie :=
      ⟨[1], rfl, by decide +kernel⟩
    exact absurd (canFinish_iff.1 hcan hkept) (by decide)

/-- **Trance**: a roll that can come to its end out of trance can do so in
trance, but for the rolls of two-sided dice with a threshold of which one
is kept.  They never come to their end in trance, where each of the two
sides explodes. -/
theorem trance_can_finish_iff (e : Expression) (audit audit' : Bool)
    (h : e.CanFinish ⟨false, audit⟩) :
    e.CanFinish ⟨true, audit'⟩ ↔ ¬ (e.faces = 2 ∧ e.threshold ≠ none ∧ e.KeepsDie) := by
  rw [canFinish_iff] at h ⊢
  cases ht : e.threshold with
  | none =>
    refine ⟨fun _ hcoin => hcoin.2.1 rfl, fun _ _ => ?_⟩
    exact Die.explodesAt_of_none (by rw [ht]; rfl) 1
  | some t =>
    have hout : e.explodes ⟨false, audit⟩ 1 = decide (t ≤ 1) :=
      Die.explodesAt_of_some (by rw [ht]; rfl) 1
    have hin : e.explodes ⟨true, audit'⟩ 1 = decide (min t (e.faces - 1) ≤ 1) :=
      Die.explodesAt_of_some (by rw [ht]; rfl) 1
    rw [hout, decide_eq_false_iff_not] at h
    rw [hin, decide_eq_false_iff_not]
    have hfaces := e.two_le_faces
    constructor
    · intro hcan ⟨htwo, _, hkept⟩
      have := hcan hkept
      omega
    · intro hcoin hkept
      have := h hkept
      have hthree : e.faces ≠ 2 := fun htwo => hcoin ⟨htwo, Option.some_ne_none t, hkept⟩
      omega

/-- One die of three faces is enough for trance, and so is a coin that the
window drops. -/
theorem trance_can_finish_instances :
    (⟨1, 3, 0, some 3, by decide, by decide⟩ : Expression).CanFinish { trance := true } ∧
      (⟨0, 2, 1, some 2, by decide, by decide⟩ : Expression).CanFinish { trance := true } := by
  refine ⟨(trance_can_finish_iff _ false false (canFinish_iff.2 fun _ => rfl)).2 ?_,
    (trance_can_finish_iff _ false false (canFinish_iff.2 fun _ => rfl)).2 ?_⟩
  · intro ⟨htwo, _⟩
    exact absurd htwo (by decide)
  · intro ⟨_, _, pool, hlength, hwindow⟩
    refine hwindow (List.eq_nil_of_length_eq_zero ?_)
    rw [length_window, hlength]
    rfl

end Dicebag.Expression
