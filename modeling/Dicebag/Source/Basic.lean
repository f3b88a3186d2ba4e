import Dicebag.Decimal
import Dicebag.Source.Twister

/-!
# Dicebag.Source.Basic

Where dice get their values from.  A source is asked for a whole number
between two bounds and answers with one, or tells why it cannot.  There
are two kinds: a script answers with its items in order whatever the
bounds, and a seeded source answers by its generator, evenly over the
bounds, and at most so many times in one go.

No source answers for ever.  `Source.supply` bounds the answers that are
left, and every answer lowers it (`supply_lt_of_draw`), so whatever draws
until something happens comes to an end.
-/

namespace Dicebag

/-! ## Failures -/

/-- Why a source gives no answer. -/
inductive DrawError where
  /-- The script has no item left. -/
  | scriptExhausted
  /-- The seeded source has given as many answers as it may. -/
  | limitReached
  /-- No number lies between the bounds. -/
  | emptyRange (lo hi : Int)
  /-- The generator's numbers miss the range, all of them; it is searched
  for one without end. -/
  | rangeMissed
  deriving DecidableEq

/-- The wording of a failure.  An empty range is told by its bounds, the
upper one exclusive, and its width, unless one of them is too long. -/
def DrawError.message : DrawError → String
  | .scriptExhausted => "script exhausted"
  | .limitReached => "draw limit reached"
  | .emptyRange lo hi =>
    let text := "empty range for randrange() (".toList ++ Decimal.integer lo ++ [',', ' ']
      ++ Decimal.integer (hi + 1) ++ [',', ' '] ++ Decimal.integer (hi + 1 - lo) ++ [')']
    match Decimal.render [lo, hi + 1, hi + 1 - lo] text with
    | .ok message => message
    | .error e => e.message
  | .rangeMissed => "no number in range"

/-! ## Sources -/

/-- A source of whole numbers. -/
inductive Source where
  /-- The items, in order. -/
  | script (items : List Int)
  /-- A generator that gives `limit` answers in one go, `left` of them
  still to come. -/
  | seeded (generator : Twister) (limit left : Nat)

namespace Source

/-- The seeded source that gives `limit` answers in one go. -/
def ofSeed (seed : Int) (limit : Nat) : Source := .seeded (.ofSeed seed) limit limit

/-- More answers than anyone waits for. -/
def ample : Nat := 0x10000000000000000

/-- A bound on the answers that are left. -/
def supply : Source → Nat
  | .script items => items.length
  | .seeded _ _ left => left

/-- The source at the start of another go. -/
def renew : Source → Source
  | .script items => .script items
  | .seeded generator limit _ => .seeded generator limit limit

/-- Asks for a number between `lo` and `hi`, both included. -/
def draw (lo hi : Int) : Source → Except DrawError (Int × Source)
  | .script [] => .error .scriptExhausted
  | .script (value :: items) => .ok (value, .script items)
  | .seeded _ _ 0 => .error .limitReached
  | .seeded generator limit (left + 1) =>
    if hi < lo then .error (.emptyRange lo hi)
    else
      match generator.below? (hi - lo + 1).toNat with
      | none => .error .rangeMissed
      | some (n, generator) => .ok (lo + n, .seeded generator limit left)

/-! ## Laws -/

/-- Every answer is one answer fewer to come. -/
theorem supply_of_draw {lo hi value : Int} {s s' : Source} (h : s.draw lo hi = .ok (value, s')) :
    s.supply = s'.supply + 1 := by
  unfold draw at h
  split at h
  · cases h
  · cases h; rfl
  · cases h
  · split at h
    · cases h
    · split at h
      · cases h
      · cases h; rfl

theorem supply_lt_of_draw {lo hi value : Int} {s s' : Source}
    (h : s.draw lo hi = .ok (value, s')) : s'.supply < s.supply := by
  rw [supply_of_draw h]
  exact Nat.lt_succ_self _

/-- A seeded source keeps to the bounds. -/
theorem mem_range_of_draw_seeded {lo hi value : Int} {generator : Twister} {limit left : Nat}
    {s : Source} (h : draw lo hi (.seeded generator limit left) = .ok (value, s)) :
    lo ≤ value ∧ value ≤ hi := by
  cases left with
  | zero => simp [draw] at h
  | succ left =>
    simp only [draw] at h
    split at h
    · cases h
    · split at h
      · cases h
      · rename_i hn
        cases h
        have := Twister.below?_lt hn
        omega

end Source

end Dicebag
