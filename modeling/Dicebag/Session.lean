import Dicebag.Roll.Execute

/-!
# Dicebag.Session

Operations one after the other on one source.  Each has a go of its own
at the source and a report of its own; what it drew stays drawn, also if
it stopped half-way.
-/

namespace Dicebag

/-- Something that is asked of a source. -/
inductive Operation where
  /-- Rolls an expression. -/
  | roll (e : Expression) (mode : RollMode)
  /-- Rolls a die `count` times, not at all if `count` is negative. -/
  | pool (die : Die) (count : Int)
  /-- Rolls one explosion. -/
  | chain (die : Die) (threshold : Option Int)
  /-- Draws a number between two bounds. -/
  | draw (lo hi : Int)

/-- What an operation comes to. -/
inductive Answer where
  | roll (r : Roll)
  | values (values : List Int)
  | value (value : Int)
  deriving DecidableEq

/-- All that an operation lets be seen: what it came to, the source after
it, its requests and its log, both in order. -/
structure Report where
  outcome : Except DrawError Answer
  source : Source
  calls : List Call
  log : List LogEntry

namespace Operation

/-- Deals what the operation asks for. -/
def deal : Operation → Deal Answer
  | .roll e mode => .roll <$> e.roll mode
  | .pool die count => .values <$> die.pool count.toNat
  | .chain die threshold => .values <$> die.chain threshold
  | .draw lo hi => .value <$> Dicebag.draw lo hi

/-- The operation by itself, on a source at the start of a go. -/
def report (op : Operation) (source : Source) : Report :=
  match op.deal.run (.ofSource source.renew) with
  | .ok answer table => ⟨.ok answer, table.source, table.calls.reverse, table.log.reverse⟩
  | .error e table => ⟨.error e, table.source, table.calls.reverse, table.log.reverse⟩

end Operation

namespace Session

/-- The reports of operations one after the other. -/
def run : List Operation → Source → List Report
  | [], _ => []
  | op :: ops, source =>
    let report := op.report source
    report :: run ops report.source

end Session

end Dicebag
