import Dicebag.Expression.Parser
import Dicebag.Roll.Basic
import Dicebag.Roll.Deal
import Dicebag.Roll.Window

/-!
# Dicebag.Roll.Execute

Rolling an expression: the pool is rolled, the window taken from it, and
every die in the window that is at or above the threshold explodes once.
The dice of explosions explode within their own chain and are not counted
again, so the number of chains is settled before the first of them is
rolled.
-/

namespace Dicebag

/-- How an expression is rolled. -/
structure RollMode where
  /-- Whether dice explode also one face below their highest. -/
  trance : Bool := false
  /-- Whether a log is kept. -/
  audit : Bool := false

namespace Expression

/-- The die that an expression rolls. -/
def die (e : Expression) (mode : RollMode) : Die := ⟨e.faces, mode.trance⟩

/-- Rolls `n` explosions one after the other; `chains` is what came
before, newest first. -/
def chainsOnto (e : Expression) (mode : RollMode) (chains : List (List Int)) :
    (n : Nat) → Deal (List (List Int))
  | 0 => pure chains.reverse
  | n + 1 => do
    let chain ← (e.die mode).chain e.threshold
    note mode.audit (.chain e chain)
    chainsOnto e mode (chain :: chains) n

/-- Rolls `n` explosions one after the other. -/
def chains (e : Expression) (mode : RollMode) (n : Nat) : Deal (List (List Int)) :=
  e.chainsOnto mode [] n

/-- Rolls an expression.  The values come highest first. -/
def roll (e : Expression) (mode : RollMode) : Deal Roll := do
  let pool ← (e.die mode).pool e.poolSize.toNat
  let window := e.window pool
  note mode.audit (.pool e pool window)
  let chains ← e.chains mode (window.countP ((e.die mode).explodesAt e.threshold))
  pure ⟨descending (window ++ chains.flatten)⟩

/-! ## Laws -/

theorem chainsOnto_eq (e : Expression) (mode : RollMode) (chains : List (List Int)) (n : Nat) :
    e.chainsOnto mode chains n = (chains.reverse ++ ·) <$> e.chains mode n := by
  unfold Expression.chains
  induction n generalizing chains with
  | zero => simp [chainsOnto]
  | succ n ih =>
    simp only [chainsOnto, map_bind]
    congr 1
    funext chain
    congr 1
    funext _
    rw [ih, ih [chain]]
    simp

@[simp] theorem chains_zero (e : Expression) (mode : RollMode) : e.chains mode 0 = pure [] := rfl

/-- Explosions are the first of them and the others. -/
theorem chains_succ (e : Expression) (mode : RollMode) (n : Nat) :
    e.chains mode (n + 1) = (do
      let chain ← (e.die mode).chain e.threshold
      note mode.audit (.chain e chain)
      let chains ← e.chains mode n
      pure (chain :: chains)) := by
  simp only [Expression.chains, chainsOnto]
  congr 1
  funext chain
  congr 1
  funext _
  rw [chainsOnto_eq]
  simp [Expression.chains]

end Expression

/-! ## From text to roll -/

/-- Why a text is not rolled. -/
inductive RollError where
  | parse (e : ParseError)
  | draw (e : DrawError)
  deriving DecidableEq

/-- Reads an expression and rolls it with a generator of its own. -/
def rollText (text : String) (seed : Int) (trance : Bool) : Except RollError Roll :=
  match Expression.parse text with
  | .error e => .error (.parse e)
  | .ok e =>
    match (e.roll { trance }).run (.ofSource (.ofSeed seed Source.ample)) with
    | .ok r _ => .ok r
    | .error e _ => .error (.draw e)

end Dicebag
