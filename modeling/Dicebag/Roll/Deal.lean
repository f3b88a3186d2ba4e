import Dicebag.Expression.Printer
import Dicebag.Logging.Logger
import Dicebag.Source.Basic

/-!
# Dicebag.Roll.Deal

Dealing dice: the table that dealing goes on at, single dice, pools of
them, and chains of explosions.

A table holds the source, every request that was made of it, and the log
of what was dealt.  A `Deal` changes the table and gives a value, or stops
when the source does; the table then still shows how far it came.
-/

namespace Dicebag

/-! ## The log -/

/-- What the log of a roll tells. -/
inductive LogEntry where
  /-- The dice that were rolled, in order, and those of them kept. -/
  | pool (e : Expression) (rolled kept : List Int)
  /-- The dice of one explosion. -/
  | chain (e : Expression) (rolled : List Int)
  deriving DecidableEq

namespace LogEntry

/-- Values in brackets. -/
def list (values : List Int) : List Char :=
  '[' :: [',', ' '].intercalate (values.map Decimal.integer) ++ [']']

/-- The characters of an entry. -/
def chars : LogEntry → List Char
  | .pool e rolled kept =>
    e.chars ++ ": rolled ".toList ++ list rolled ++ ", kept ".toList ++ list kept
  | .chain e rolled => e.chars ++ ": explosion chain ".toList ++ list rolled

/-- The numbers that an entry shows. -/
def numbers : LogEntry → List Int
  | .pool e rolled kept => e.numbers ++ rolled ++ kept
  | .chain e rolled => e.numbers ++ rolled

/-- The text of an entry, unless one of its numbers is too long. -/
def render (entry : LogEntry) : Except Decimal.WriteError String :=
  Decimal.render entry.numbers entry.chars

/-- The message that an entry is logged as; there is none for an entry
that has no text. -/
def record? (entry : LogEntry) : Option LogRecord :=
  match entry.render with
  | .ok message => some ⟨Level.debug.rank, "legend.roller", message⟩
  | .error _ => none

end LogEntry

/-! ## The table -/

/-- A request for a number between two bounds. -/
structure Call where
  lo : Int
  hi : Int
  deriving DecidableEq

/-- The state of dealing; requests and entries stand with the newest
first. -/
structure Table where
  source : Source
  calls : List Call
  log : List LogEntry

/-- A table at which nothing has been dealt. -/
def Table.ofSource (source : Source) : Table := ⟨source, [], []⟩

/-- Something that is dealt at a table. -/
abbrev Deal := EStateM DrawError Table

/-- One number between two bounds; the request is kept whether or not the
source answers it. -/
def draw (lo hi : Int) : Deal Int := fun table =>
  let calls := ⟨lo, hi⟩ :: table.calls
  match table.source.draw lo hi with
  | .ok (value, source) => .ok value ⟨source, calls, table.log⟩
  | .error e => .error e ⟨table.source, calls, table.log⟩

/-- Every answer is one answer fewer to come. -/
theorem supply_lt_of_draw {lo hi value : Int} {table table' : Table}
    (h : (draw lo hi).run table = .ok value table') :
    table'.source.supply < table.source.supply := by
  simp only [EStateM.run, draw] at h
  split at h
  · rename_i hdraw
    cases h
    exact Source.supply_lt_of_draw hdraw
  · cases h

/-- A script answers with its first item, whatever the bounds. -/
@[simp] theorem run_draw_script_cons (lo hi value : Int) (items : List Int) (calls : List Call)
    (log : List LogEntry) :
    (draw lo hi).run ⟨.script (value :: items), calls, log⟩ =
      .ok value ⟨.script items, ⟨lo, hi⟩ :: calls, log⟩ := rfl

/-- A script that has run out keeps the request it did not answer. -/
@[simp] theorem run_draw_script_nil (lo hi : Int) (calls : List Call) (log : List LogEntry) :
    (draw lo hi).run ⟨.script [], calls, log⟩ =
      .error .scriptExhausted ⟨.script [], ⟨lo, hi⟩ :: calls, log⟩ := rfl

/-- Adds an entry to the log if a log is wanted. -/
def note (wanted : Bool) (entry : LogEntry) : Deal Unit :=
  if wanted then modify fun table => { table with log := entry :: table.log } else pure ()

@[simp] theorem run_note (wanted : Bool) (entry : LogEntry) (table : Table) :
    (note wanted entry).run table =
      .ok () { table with log := if wanted then entry :: table.log else table.log } := by
  cases wanted <;> rfl

/-! ## Dice -/

/-- A die.  In trance it explodes at the latest one face below its
highest. -/
structure Die where
  faces : Int
  trance : Bool

namespace Die

/-- The threshold that counts for this die. -/
def effective (die : Die) (threshold : Option Int) : Option Int :=
  threshold.map fun t => if die.trance then min t (die.faces - 1) else t

/-- Whether this die explodes at a value. -/
def explodesAt (die : Die) (threshold : Option Int) (value : Int) : Bool :=
  match die.effective threshold with
  | none => false
  | some t => decide (t ≤ value)

/-- Rolls the die `n` times; `rolled` is what came before, newest
first. -/
def poolOnto (die : Die) (rolled : List Int) : (n : Nat) → Deal (List Int)
  | 0 => pure rolled.reverse
  | n + 1 => do
    let value ← draw 1 die.faces
    poolOnto die (value :: rolled) n

/-- Rolls the die `n` times. -/
def pool (die : Die) (n : Nat) : Deal (List Int) := die.poolOnto [] n

/-- Rolls the die until it does not explode; `rolled` is what came
before, newest first. -/
def chainOnto (die : Die) (threshold : Option Int) (rolled : List Int) (table : Table) :
    EStateM.Result DrawError Table (List Int) :=
  match _h : (draw 1 die.faces).run table with
  | .error e table => .error e table
  | .ok value table =>
    if die.explodesAt threshold value then chainOnto die threshold (value :: rolled) table
    else .ok (value :: rolled).reverse table
termination_by table.source.supply
decreasing_by exact supply_lt_of_draw (by assumption)

/-- One explosion: a die, and another for as long as the last one
explodes. -/
def chain (die : Die) (threshold : Option Int) : Deal (List Int) := die.chainOnto threshold []

/-! ## Laws -/

theorem poolOnto_eq (die : Die) (rolled : List Int) (n : Nat) :
    die.poolOnto rolled n = (rolled.reverse ++ ·) <$> die.pool n := by
  unfold pool
  induction n generalizing rolled with
  | zero => simp [poolOnto]
  | succ n ih =>
    simp only [poolOnto]
    rw [map_bind]
    congr 1
    funext value
    rw [ih, ih [value]]
    simp

@[simp] theorem pool_zero (die : Die) : die.pool 0 = pure [] := rfl

/-- A pool is its first die and the pool of the others. -/
theorem pool_succ (die : Die) (n : Nat) :
    die.pool (n + 1) = (do
      let value ← draw 1 die.faces
      let values ← die.pool n
      pure (value :: values)) := by
  simp only [pool, poolOnto]
  congr 1
  funext value
  rw [poolOnto_eq]
  simp [pool]

theorem chainOnto_eq (die : Die) (threshold : Option Int) (rolled : List Int) (table : Table) :
    die.chainOnto threshold rolled table =
      ((rolled.reverse ++ ·) <$> die.chain threshold).run table := by
  show _ = EStateM.map _ _ table
  simp only [EStateM.map, chain]
  generalize hn : table.source.supply = n
  induction n using Nat.strongRecOn generalizing table rolled with
  | ind n ih =>
    rw [chainOnto]
    conv => rhs; rw [chainOnto]
    cases hdraw : (draw 1 die.faces).run table with
    | error e table' => rfl
    | ok value table' =>
      have hlt := hn ▸ supply_lt_of_draw hdraw
      simp only
      split
      · rw [ih _ hlt _ _ rfl, ih _ hlt [value] _ rfl]
        split <;> simp
      · simp

/-- A chain is its first die and, if that explodes, the chain behind
it. -/
theorem chain_eq (die : Die) (threshold : Option Int) :
    die.chain threshold = (do
      let value ← draw 1 die.faces
      if die.explodesAt threshold value then
        let values ← die.chain threshold
        pure (value :: values)
      else pure [value]) := by
  funext table
  show (die.chain threshold).run table = EStateM.run _ table
  rw [EStateM.run_bind]
  show die.chainOnto threshold [] table = _
  rw [chainOnto]
  cases hdraw : (draw 1 die.faces).run table with
  | error e table' => rfl
  | ok value table' =>
    simp only
    split
    · rw [chainOnto_eq]
      rfl
    · rfl

end Die

end Dicebag
