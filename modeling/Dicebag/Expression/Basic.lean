import Dicebag.Expression.Error

/-!
# Dicebag.Expression.Basic

Dice expressions: how many dice of how many faces are kept, how many more
are rolled for advantage or disadvantage, and from which value on a die
explodes.

A die has at least two faces, and no expression has the threshold zero:
zero stands for the highest face wherever an expression is made.
-/

namespace Dicebag

/-- A roll to be made.  The number of dice and the modifier are any whole
numbers; a negative number of dice is meaningful only to the window that
selects among those rolled. -/
@[ext]
structure Expression where
  /-- The dice that are kept. -/
  count : Int
  /-- The faces of each die. -/
  faces : Int
  /-- The dice rolled beyond those kept: for advantage if positive, for
  disadvantage if negative. -/
  modifier : Int
  /-- The lowest value at which a die explodes, if any does. -/
  threshold : Option Int
  two_le_faces : 2 ≤ faces
  threshold_ne_zero : threshold ≠ some 0
  deriving DecidableEq

namespace Expression

/-- The threshold that is meant: zero means the highest face. -/
def resolve (faces : Int) (threshold : Option Int) : Option Int :=
  if threshold = some 0 then some faces else threshold

theorem resolve_ne_zero {faces : Int} (h : 2 ≤ faces) (threshold : Option Int) :
    resolve faces threshold ≠ some 0 := by
  unfold resolve
  split
  · simp only [ne_eq, Option.some.injEq]
    omega
  · assumption

/-- The expression with these numbers, if its die can be rolled. -/
def make (count faces modifier : Int) (threshold : Option Int) : Except ParseError Expression :=
  if h : 2 ≤ faces then
    .ok ⟨count, faces, modifier, resolve faces threshold, h, resolve_ne_zero h threshold⟩
  else .error .tooFewFaces

/-- The dice that are rolled, those the window drops included. -/
def poolSize (e : Expression) : Int := e.count + e.modifier.natAbs

/-! ## Laws -/

theorem resolve_of_ne_zero {faces : Int} {threshold : Option Int} (h : threshold ≠ some 0) :
    resolve faces threshold = threshold := if_neg h

/-- What is made has the numbers it was made of, but for the threshold
zero. -/
theorem make_eq_ok_iff {count faces modifier : Int} {threshold : Option Int} {e : Expression} :
    make count faces modifier threshold = .ok e ↔
      e.count = count ∧ e.faces = faces ∧ e.modifier = modifier ∧
        e.threshold = resolve faces threshold := by
  unfold make
  split
  · rw [Except.ok.injEq]
    refine ⟨fun h => h ▸ ⟨rfl, rfl, rfl, rfl⟩, fun ⟨hcount, hfaces, hmodifier, hthreshold⟩ => ?_⟩
    exact Expression.ext hcount.symm hfaces.symm hmodifier.symm hthreshold.symm
  · next hfaces => exact ⟨nofun, fun h => absurd (h.2.1 ▸ e.two_le_faces) hfaces⟩

theorem make_eq_error_iff {count faces modifier : Int} {threshold : Option Int}
    {err : ParseError} :
    make count faces modifier threshold = .error err ↔ faces < 2 ∧ err = .tooFewFaces := by
  unfold make
  split
  · simp only [reduceCtorEq, false_iff, not_and]
    omega
  · simp only [Except.error.injEq, eq_comm]
    exact ⟨fun h => ⟨by omega, h⟩, fun h => h.2⟩

end Expression

end Dicebag
