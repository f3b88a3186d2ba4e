import Dicebag.Expression.Basic

/-!
# Dicebag.Roll.Window

Advantage and disadvantage.  More dice are rolled than are kept; the
window takes the highest of them for advantage and the lowest for
disadvantage, in ascending order.
-/

namespace Dicebag

/-- The values in ascending order. -/
def ascending (values : List Int) : List Int := values.mergeSort fun a b => decide (a ≤ b)

/-- The values in descending order. -/
def descending (values : List Int) : List Int := values.mergeSort fun a b => decide (b ≤ a)

/-- The first `n` items; for a negative `n` all but the last `-n`. -/
def takeSigned (n : Int) (values : List Int) : List Int :=
  match n with
  | .ofNat n => values.take n
  | .negSucc n => values.take (values.length - (n + 1))

/-- The dice that are kept of those rolled: without the `modifier` lowest
for advantage, only the `count` lowest for disadvantage. -/
def Expression.window (e : Expression) (pool : List Int) : List Int :=
  if 0 < e.modifier then (ascending pool).drop e.modifier.toNat
  else if e.modifier < 0 then takeSigned e.count (ascending pool)
  else ascending pool

/-! ## Laws -/

theorem ascending_perm (values : List Int) : (ascending values).Perm values :=
  List.mergeSort_perm _ _

theorem descending_perm (values : List Int) : (descending values).Perm values :=
  List.mergeSort_perm _ _

theorem pairwise_ascending (values : List Int) : (ascending values).Pairwise (· ≤ ·) := by
  have h : (ascending values).Pairwise fun a b => decide (a ≤ b) :=
    List.pairwise_mergeSort (by simp only [decide_eq_true_eq]; omega)
      (by simp only [Bool.or_eq_true, decide_eq_true_eq]; omega) values
  simpa using h

theorem pairwise_descending (values : List Int) : (descending values).Pairwise (· ≥ ·) := by
  have h : (descending values).Pairwise fun a b => decide (b ≤ a) :=
    List.pairwise_mergeSort (by simp only [decide_eq_true_eq]; omega)
      (by simp only [Bool.or_eq_true, decide_eq_true_eq]; omega) values
  simpa using h

end Dicebag
