import Dicebag.Proofs.CommandLine.Outcomes
import Dicebag.Proofs.Roll.AuditTrail

/-!
# Dicebag.Proofs.CommandLine.Agreement

What two runs have to share to come to the same.  The expressions, the seed
and the trance that count, and the form of the output decide everything but
the log (`runs_agree`): where the seed and the trance come from, and how much
is logged on the way, are as good as unknown to what is printed.

The level of the log reaches into the rolls, which note what they do where
it is written.  So the two runs are followed side by side, as deals that
leave tables that differ in their logs alone.
-/

namespace Dicebag

/-! ## Outcomes apart from the log -/

namespace Outcome

variable {o p : Outcome}

/-- The outcome with nothing logged. -/
def withoutLog : Outcome → Outcome
  | .badSettings issues _ => .badSettings issues []
  | .badExpression written e _ => .badExpression written e []
  | .printed text _ => .printed text []
  | o => o

@[simp] theorem exitCode_withoutLog (o : Outcome) : o.withoutLog.exitCode = o.exitCode := by
  cases o <;> rfl

@[simp] theorem stdout_withoutLog (o : Outcome) : o.withoutLog.stdout = o.stdout := by
  cases o <;> rfl

@[simp] theorem stderr_withoutLog [Library] (o : Outcome) : o.withoutLog.stderr = o.stderr := by
  cases o <;> rfl

theorem withoutLog_eq_unprintable_iff {e : Decimal.WriteError} :
    o.withoutLog = .unprintable e ↔ o = .unprintable e := by
  cases o <;> simp [withoutLog]

/-- Two outcomes are the same, apart from the log. -/
def Agrees (o p : Outcome) : Prop := o.withoutLog = p.withoutLog

theorem Agrees.of_resultAlike {result result' : EStateM.Result DrawError Table Outcome}
    (h : ResultAlike Agrees result result') : (ofResult result).Agrees (ofResult result') := by
  cases h with
  | ok hvalue _ => exact hvalue
  | error _ => rfl

end Outcome

/-- A seed that is given decides what dice get their values from. -/
theorem Arguments.source_of_seed {a : Arguments} {s : Settings} {n : Int}
    (h : a.seed.or s.seed = some n) (entropy : Int) :
    a.source s entropy = .ofSeed n Source.ample := by
  rw [source, h, Option.getD_some]

theorem Arguments.source_eq_of_seed {a b : Arguments} {s u : Settings} {n : Int}
    (ha : a.seed.or s.seed = some n) (hb : b.seed.or u.seed = some n) (entropy entropy' : Int) :
    a.source s entropy = b.source u entropy' :=
  (source_of_seed ha entropy).trans (source_of_seed hb entropy').symm

namespace Invocation

variable {i j : Invocation} {a b : Arguments} {s u : Settings}

/-! ## Stages side by side -/

/-- Rolling several expressions comes to the same whether or not a log is
kept. -/
theorem alike_rollAll (trance audit audit' : Bool) (es : List Expression) :
    Deal.Alike Eq (rollAll ⟨trance, audit⟩ es) (rollAll ⟨trance, audit'⟩ es) := by
  induction es with
  | nil => exact Deal.Alike.pure rfl
  | cons e es ih =>
    rw [rollAll_cons, rollAll_cons]
    refine (e.alike_roll trance audit audit').bind ?_
    rintro r _ rfl
    refine ih.bind ?_
    rintro rs _ rfl
    exact Deal.Alike.pure rfl

/-- What is printed does not depend on what is logged. -/
theorem agrees_conclude (hexpressions : a.expressions = b.expressions) (hjson : a.json = b.json)
    (warnings warnings' : List LogRecord) (es : List Expression) (rolls : List Roll)
    (entries entries' : List LogEntry) :
    (conclude a s warnings es rolls entries).Agrees (conclude b u warnings' es rolls entries') := by
  rw [conclude, conclude, hexpressions, hjson]
  cases Output.render b.json (Rolled.ofLists b.expressions es rolls) <;> rfl

theorem alike_perform (hexpressions : a.expressions = b.expressions)
    (htrance : a.trance.getD s.trance = b.trance.getD u.trance) (hjson : a.json = b.json)
    (warnings warnings' : List LogRecord) :
    Deal.Alike Outcome.Agrees (perform a s warnings) (perform b u warnings') := by
  rw [perform, perform, hexpressions]
  cases readAll b.expressions with
  | error refused => exact Deal.Alike.pure rfl
  | ok es =>
    have hrolls : Deal.Alike Eq (rollAll (a.mode s) es) (rollAll (b.mode u) es) := by
      rw [Arguments.mode, Arguments.mode, htrance]
      exact alike_rollAll _ _ _ es
    refine hrolls.bind ?_
    rintro rolls _ rfl
    refine Deal.Alike.get.bind fun t t' _ => ?_
    exact Deal.Alike.pure (agrees_conclude hexpressions hjson _ _ es rolls _ _)

/-! ## Two runs -/

/-- **Runs agree**: two runs that are ready come to the same, apart from the
log, if they share the expressions, a seed, trance and the form of the
output, wherever the seed and the trance come from. -/
theorem runs_agree [Library] {n : Int} (hi : i.IsReady a s) (hj : j.IsReady b u)
    (hexpressions : a.expressions = b.expressions)
    (hseed : a.seed.or s.seed = some n) (hseed' : b.seed.or u.seed = some n)
    (htrance : a.trance.getD s.trance = b.trance.getD u.trance) (hjson : a.json = b.json) :
    i.run.exitCode = j.run.exitCode ∧ i.run.stdout = j.run.stdout ∧ i.run.stderr = j.run.stderr ∧
      ∀ e, i.run = .unprintable e ↔ j.run = .unprintable e := by
  have hagrees : i.run.Agrees j.run := by
    rw [hi.run, hj.run, Arguments.source_eq_of_seed hseed hseed' i.entropy j.entropy]
    exact .of_resultAlike (alike_perform hexpressions htrance hjson _ _ _ _ (.refl _))
  refine ⟨?_, ?_, ?_, fun e => ?_⟩
  · rw [← Outcome.exitCode_withoutLog, hagrees, Outcome.exitCode_withoutLog]
  · rw [← Outcome.stdout_withoutLog, hagrees, Outcome.stdout_withoutLog]
  · rw [← Outcome.stderr_withoutLog, hagrees, Outcome.stderr_withoutLog]
  · rw [← Outcome.withoutLog_eq_unprintable_iff, hagrees, Outcome.withoutLog_eq_unprintable_iff]

/-- A masked seed, trance from the environment, and much logging; and trance
from a flag, the options behind the expression, and a file. -/
theorem runs_agree_masked :
    (⟨["-v", "--seed", "7", "2d6!"],
        { environment := ⟨[("LEGEND_SEED", "3"), ("LEGEND_TRANCE", "1")]⟩ }, 0⟩ :
        Invocation).run.stdout =
      (⟨["2d6!", "--trance", "--seed=7"],
        { files := ⟨[([".env"], "LEGEND_LOG_LEVEL=error\n")]⟩ }, 5⟩ : Invocation).run.stdout := by
  have hmasked : IsReady ⟨["-v", "--seed", "7", "2d6!"],
      { environment := ⟨[("LEGEND_SEED", "3"), ("LEGEND_TRANCE", "1")]⟩ }, 0⟩
      ⟨["2d6!"], none, some 7, false, true⟩ ⟨true, some 3, .warning⟩ :=
    ⟨⟨by decide +kernel, by decide +kernel⟩, by decide +kernel, by decide +kernel⟩
  have hflag : IsReady ⟨["2d6!", "--trance", "--seed=7"],
      { files := ⟨[([".env"], "LEGEND_LOG_LEVEL=error\n")]⟩ }, 5⟩
      ⟨["2d6!"], some true, some 7, false, false⟩ ⟨false, none, .error⟩ :=
    ⟨⟨by decide +kernel, by decide +kernel⟩, by decide +kernel, by decide +kernel⟩
  exact (runs_agree hmasked hflag rfl rfl rfl rfl rfl).2.1

end Invocation

end Dicebag
