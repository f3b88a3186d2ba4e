import Dicebag.CommandLine.Arguments
import Dicebag.CommandLine.Completion
import Dicebag.CommandLine.Output
import Dicebag.Environment.Load
import Dicebag.Roll.Execute
import Dicebag.Settings.Basic

/-!
# Dicebag.CommandLine.Run

A run of the program, from its arguments and what surrounds it to what it
prints.  Its stages follow each other, and the first that fails decides:
a request for completion, the arguments, the environment files, the
settings, all expressions in their order, and only then the rolls, on one
source, and their output.

What is complained about is written as the library writes it, which may
leave out control sequences.  An expression that is rolled has none.
-/

namespace Dicebag

/-- The version of the program. -/
def version : String := "0.1.0"

/-- What a run is given. -/
structure Invocation where
  arguments : List String
  workspace : Workspace
  /-- The seed to use where none is given. -/
  entropy : Int

/-- What a run comes to. -/
inductive Outcome where
  /-- Completion is asked for, and refused. -/
  | completionRefused (e : CompletionFault)
  /-- The arguments are refused. -/
  | usageError
  /-- The environment files hold what cannot be a variable. -/
  | unloadable (refusal : Refusal)
  /-- The settings are refused. -/
  | badSettings (issues : List Settings.Issue) (log : List LogRecord)
  /-- An expression, as it was written, is refused. -/
  | badExpression (written : String) (e : ParseError) (log : List LogRecord)
  /-- The rolls are printed. -/
  | printed (text : String) (log : List LogRecord)
  /-- The rolls hold a number that is too long to be printed. -/
  | unprintable (e : Decimal.WriteError)
  /-- The source gave no answer. -/
  | stopped (e : DrawError)

namespace Outcome

/-- The exit code. -/
def exitCode : Outcome → Nat
  | .usageError | .badSettings _ _ => 2
  | .completionRefused _ | .unloadable _ | .badExpression _ _ _ | .unprintable _ | .stopped _ => 1
  | .printed _ _ => 0

/-- What is printed. -/
def stdout : Outcome → String
  | .printed text _ => text
  | _ => ""

/-- What is complained about a request or an expression, or why nothing
is printed. -/
def stderr [Library] : Outcome → String
  | .completionRefused e => Library.plain (e.message ++ "\n")
  | .badExpression written e _ => Library.plain (written ++ ": " ++ e.message ++ "\n")
  | .unloadable refusal => refusal.message ++ "\n"
  | .unprintable e => e.message ++ "\n"
  | .stopped e => e.message ++ "\n"
  | _ => ""

/-- What is logged. -/
def log : Outcome → List LogRecord
  | .badSettings _ log | .badExpression _ _ log | .printed _ log => log
  | _ => []

/-- What becomes of a run that deals. -/
def ofResult : EStateM.Result DrawError Table Outcome → Outcome
  | .ok outcome _ => outcome
  | .error e _ => .stopped e

end Outcome

namespace Arguments

/-! ## Arguments before settings -/

/-- The level of the log. -/
def logging (arguments : Arguments) (settings : Settings) : Logging :=
  ⟨(if arguments.verbose then Level.debug else settings.level).rank⟩

/-- How dice are rolled; a log is kept where it is written. -/
def mode (arguments : Arguments) (settings : Settings) : RollMode where
  trance := arguments.trance.getD settings.trance
  audit := (arguments.logging settings).writes "legend.roller" Level.debug.rank

/-- What dice get their values from; `entropy` is the seed where none is
given. -/
def source (arguments : Arguments) (settings : Settings) (entropy : Int) : Source :=
  .ofSeed ((arguments.seed.or settings.seed).getD entropy) Source.ample

end Arguments

namespace Invocation

/-! ## The stages -/

/-- Reads expressions in their order, up to the first that is refused. -/
def readAll : List String → Except (String × ParseError) (List Expression)
  | [] => .ok []
  | written :: rest =>
    match Expression.parse written with
    | .error e => .error (written, e)
    | .ok e => (readAll rest).map (e :: ·)

/-- Rolls expressions one after the other at one table. -/
def rollAll (mode : RollMode) (expressions : List Expression) : Deal (List Roll) :=
  expressions.mapM fun e => e.roll mode

/-- What is logged before the first roll. -/
def announcement (count : Nat) (trance : Bool) : LogRecord :=
  ⟨Level.debug.rank, "legend.cli",
    "rolling " ++ String.ofList (Decimal.natural count)
      ++ " expression(s) with Options(destructive_trance=" ++ (if trance then "True" else "False")
      ++ ")"⟩

/-- What rolls come to: they are printed with a log of them, `entries` in
order, or one of their numbers is too long for that. -/
def conclude (arguments : Arguments) (settings : Settings) (warnings : List LogRecord)
    (expressions : List Expression) (rolls : List Roll) (entries : List LogEntry) : Outcome :=
  match Output.render arguments.json (Rolled.ofLists arguments.expressions expressions rolls) with
  | .error e => .unprintable e
  | .ok text =>
    let logging := arguments.logging settings
    let records := announcement expressions.length (arguments.mode settings).trance
      :: entries.filterMap LogEntry.record?
    .printed text (warnings ++ records.filter fun r => logging.writes r.logger r.rank)

/-- The part of a run behind the settings: reads the expressions, rolls
them and prints them.  No die is rolled before all of them are read. -/
def perform (arguments : Arguments) (settings : Settings) (warnings : List LogRecord) :
    Deal Outcome :=
  match readAll arguments.expressions with
  | .error (written, e) => pure (.badExpression written e warnings)
  | .ok expressions => do
    let rolls ← rollAll (arguments.mode settings) expressions
    let table ← get
    pure (conclude arguments settings warnings expressions rolls table.log.reverse)

/-- The part of a run behind the arguments: loads the environment files,
reads the settings, and goes on at a table of its own. -/
def prepare [Library] (i : Invocation) (arguments : Arguments) : Outcome :=
  let loaded := i.workspace.load
  match loaded.refusal with
  | some refusal => .unloadable refusal
  | none =>
    match Settings.ofEnvironment loaded.environment with
    | .error issues => .badSettings issues loaded.warnings
    | .ok settings =>
      let source := arguments.source settings i.entropy
      .ofResult ((perform arguments settings loaded.warnings).run (.ofSource source))

/-- A run of the program. -/
def run [Library] (i : Invocation) : Outcome :=
  match CompletionFault.ofEnvironment? i.workspace.environment with
  | some e => .completionRefused e
  | none =>
    match Arguments.parse? i.arguments with
    | none => .usageError
    | some arguments => prepare i arguments

end Invocation

end Dicebag
