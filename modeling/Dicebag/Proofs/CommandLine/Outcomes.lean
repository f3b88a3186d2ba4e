import Dicebag.Proofs.CommandLine.Stages
import Dicebag.Proofs.Text.Quoting

/-!
# Dicebag.Proofs.CommandLine.Outcomes

What a run comes to, by the first of its stages that fails.

A run that passes its arguments (`Passes`) loads its files, and is ready for
its expressions (`IsReady`) once the settings are accepted too.  From there
on it is `perform` at a table of its own, which rolls nothing unless every
expression was read (`perform_of_refused`), and prints whatever it rolled
(`conclude_of_short`) unless a total is too long (`conclude_of_long`).
`outcome_of_passes` puts the stages together.
-/

namespace Dicebag

namespace Invocation

variable {i : Invocation} {a : Arguments} {s : Settings}

/-! ## Reading before rolling -/

/-- An expression that is refused leaves every table as it is. -/
theorem perform_of_refused {written : String} {err : ParseError}
    (h : readAll a.expressions = .error (written, err)) (s : Settings) (warnings : List LogRecord)
    (t : Table) : (perform a s warnings).run t = .ok (.badExpression written err warnings) t := by
  rw [perform, h]
  rfl

theorem run_perform_of_read {es : List Expression} {rolls : List Roll} {t t' : Table}
    (hread : readAll a.expressions = .ok es)
    (hrolls : (rollAll (a.mode s) es).run t = .ok rolls t') (warnings : List LogRecord) :
    (perform a s warnings).run t = .ok (conclude a s warnings es rolls t'.log.reverse) t' := by
  rw [perform, hread]
  exact run_bind_eq_ok_iff.2 ⟨rolls, t', hrolls, rfl⟩

theorem run_perform_of_stopped {es : List Expression} {e : DrawError} {t t' : Table}
    (hread : readAll a.expressions = .ok es)
    (hrolls : (rollAll (a.mode s) es).run t = .error e t') (warnings : List LogRecord) :
    (perform a s warnings).run t = .error e t' := by
  rw [perform, hread]
  exact run_bind_eq_error_iff.2 (.inl hrolls)

/-! ## Printing -/

section

variable {es : List Expression} {rolls : List Roll}
  (hread : List.Forall₂ (fun text e => Expression.parse text = .ok e) a.expressions es)
  (hfaces : List.Forall₂ Expression.IsFaces es rolls)

include hread hfaces

theorem conclude_of_short (hshort : ∀ r ∈ rolls, r.total < 10 ^ Decimal.maxDigits)
    (s : Settings) (warnings : List LogRecord) (entries : List LogEntry) :
    ∃ text log, conclude a s warnings es rolls entries = .printed text log := by
  rw [conclude, Output.render_ofLists hread hfaces, if_pos hshort]
  exact ⟨_, _, rfl⟩

theorem conclude_of_long (hlong : ∃ r ∈ rolls, 10 ^ Decimal.maxDigits ≤ r.total)
    (s : Settings) (warnings : List LogRecord) (entries : List LogEntry) :
    conclude a s warnings es rolls entries = .unprintable .tooLong := by
  rw [conclude, Output.render_ofLists hread hfaces, if_neg]
  intro hshort
  obtain ⟨r, hr, hlong⟩ := hlong
  exact absurd (hshort r hr) (Int.not_lt.2 hlong)

end

section

variable [Library]

/-! ## How far a run gets -/

/-- No completion is asked for, and the arguments are accepted. -/
structure Passes (i : Invocation) (a : Arguments) : Prop where
  completion : CompletionFault.ofEnvironment? i.workspace.environment = none
  arguments : Arguments.parse? i.arguments = some a

/-- The arguments, the files and the settings are all accepted. -/
structure IsReady (i : Invocation) (a : Arguments) (s : Settings) : Prop extends i.Passes a where
  refusal : i.workspace.load.refusal = none
  settings : Settings.ofEnvironment i.workspace.load.environment = .ok s

theorem Passes.run (h : i.Passes a) : i.run = i.prepare a := by
  rw [Invocation.run, h.completion, h.arguments]

theorem Passes.run_of_refusal {refusal : Refusal} (h : i.Passes a)
    (hload : i.workspace.load.refusal = some refusal) : i.run = .unloadable refusal := by
  rw [h.run, prepare, hload]

theorem Passes.run_of_issues {issues : List Settings.Issue} (h : i.Passes a)
    (hload : i.workspace.load.refusal = none)
    (hsettings : Settings.ofEnvironment i.workspace.load.environment = .error issues) :
    i.run = .badSettings issues i.workspace.load.warnings := by
  simp only [h.run, prepare, hload, hsettings]

/-- A run with exit code 0 is ready for its expressions. -/
theorem exists_isReady (harguments : Arguments.parse? i.arguments = some a)
    (hexit : i.run.exitCode = 0) : ∃ s, i.IsReady a s := by
  cases hcompletion : CompletionFault.ofEnvironment? i.workspace.environment with
  | some e =>
    rw [Invocation.run, hcompletion] at hexit
    contradiction
  | none =>
    have hpasses : i.Passes a := ⟨hcompletion, harguments⟩
    cases hrefusal : i.workspace.load.refusal with
    | some refusal =>
      rw [hpasses.run_of_refusal hrefusal] at hexit
      contradiction
    | none =>
      cases hsettings : Settings.ofEnvironment i.workspace.load.environment with
      | error issues =>
        rw [hpasses.run_of_issues hrefusal hsettings] at hexit
        contradiction
      | ok s => exact ⟨s, hpasses, hrefusal, hsettings⟩

/-- A run that is ready performs at a table of its own. -/
theorem IsReady.run (h : i.IsReady a s) :
    i.run = .ofResult ((perform a s i.workspace.load.warnings).run
      (.ofSource (a.source s i.entropy))) := by
  simp only [h.toPasses.run, prepare, h.refusal, h.settings]

theorem IsReady.run_of_run_perform {outcome : Outcome} {t : Table} (h : i.IsReady a s)
    (hperform : (perform a s i.workspace.load.warnings).run (.ofSource (a.source s i.entropy))
      = .ok outcome t) : i.run = outcome := by
  rw [h.run, hperform, Outcome.ofResult]

/-! ## Runs that are ready -/

/-- The first expression that is refused is what the run comes to, and no
table is dealt at or written to. -/
theorem IsReady.run_of_refused {before rest : List String} {written : String} {err : ParseError}
    (h : i.IsReady a s) (htexts : a.expressions = before ++ written :: rest)
    (hbefore : ∀ text ∈ before, ∃ e, Expression.parse text = .ok e)
    (hwritten : Expression.parse written = .error err) :
    i.run = .badExpression written err i.workspace.load.warnings ∧
      ∀ t, (perform a s i.workspace.load.warnings).run t =
        .ok (.badExpression written err i.workspace.load.warnings) t := by
  have hread := readAll_eq_error_iff.2 ⟨before, rest, htexts, hbefore, hwritten⟩
  have hperform := perform_of_refused hread s i.workspace.load.warnings
  exact ⟨h.run_of_run_perform (hperform _), hperform⟩

/-- Rolls that complete are what the run concludes from, and they are rolls
of faces. -/
theorem IsReady.run_of_rolled {es : List Expression} {rolls : List Roll} {t : Table}
    (h : i.IsReady a s)
    (hread : List.Forall₂ (fun text e => Expression.parse text = .ok e) a.expressions es)
    (hrolls : (rollAll (a.mode s) es).run (.ofSource (a.source s i.entropy)) = .ok rolls t) :
    List.Forall₂ Expression.IsFaces es rolls ∧
      i.run = conclude a s i.workspace.load.warnings es rolls t.log.reverse := by
  refine ⟨run_rollAll_faces (Source.IsSeeded.ofSeed _ _) hrolls, ?_⟩
  exact h.run_of_run_perform (run_perform_of_read (readAll_eq_ok_iff.2 hread) hrolls _)

/-! ## The outcome of a run -/

/-- What a run comes to that passes its arguments.

* Files that hold what cannot be a variable end it.
* Otherwise settings that are refused end it with exit code 2, whatever the
  arguments are.
* Otherwise the first expression that is refused ends it with exit code 1.
  It is complained about as the library writes that, and exactly so if the
  library keeps plain complaints and there is no escape character in it; no
  table is dealt at or written to.
* Otherwise, if all expressions are rolled, the rolls are printed, unless a
  total has more digits than a number may have. -/
theorem outcome_of_passes (h : i.Passes a) :
    (∀ refusal, i.workspace.load.refusal = some refusal → i.run = .unloadable refusal) ∧
      (i.workspace.load.refusal = none →
        (∀ issues, Settings.ofEnvironment i.workspace.load.environment = .error issues →
          i.run.exitCode = 2 ∧ i.run.stdout = "") ∧
        ∀ s, Settings.ofEnvironment i.workspace.load.environment = .ok s →
          (∀ before written rest err, a.expressions = before ++ written :: rest →
            (∀ text ∈ before, ∃ e, Expression.parse text = .ok e) →
            Expression.parse written = .error err →
              i.run.exitCode = 1 ∧ i.run.stdout = "" ∧
                i.run.stderr = Library.plain (written ++ ": " ++ err.message ++ "\n") ∧
                (Library.KeepsPlain → '\x1b' ∉ written.toList →
                  i.run.stderr = written ++ ": " ++ err.message ++ "\n") ∧
                i.run.log = i.workspace.load.warnings ∧
                ∀ t, (perform a s i.workspace.load.warnings).run t = .ok i.run t) ∧
          ∀ es rolls t,
            List.Forall₂ (fun text e => Expression.parse text = .ok e) a.expressions es →
            (rollAll (a.mode s) es).run (.ofSource (a.source s i.entropy)) = .ok rolls t →
              ((∀ r ∈ rolls, r.total < 10 ^ Decimal.maxDigits) →
                i.run.exitCode = 0 ∧ i.run.stderr = "") ∧
              ((∃ r ∈ rolls, 10 ^ Decimal.maxDigits ≤ r.total) →
                i.run = .unprintable .tooLong)) := by
  refine ⟨fun refusal hload => h.run_of_refusal hload, fun hload => ⟨?_, ?_⟩⟩
  · intro issues hsettings
    rw [h.run_of_issues hload hsettings]
    exact ⟨rfl, rfl⟩
  · intro s hsettings
    have hready : i.IsReady a s := ⟨h, hload, hsettings⟩
    constructor
    · intro before written rest err htexts hbefore hwritten
      obtain ⟨hrun, hperform⟩ := hready.run_of_refused htexts hbefore hwritten
      rw [hrun]
      exact ⟨rfl, rfl, rfl, fun hkeeps hplain => hkeeps _ (err.escape_notMem_complaint hplain), rfl,
        hperform⟩
    · intro es rolls t hread hrolls
      obtain ⟨hfaces, hrun⟩ := hready.run_of_rolled hread hrolls
      rw [hrun]
      constructor
      · intro hshort
        obtain ⟨text, log, hprinted⟩ := conclude_of_short hread hfaces hshort s _ _
        rw [hprinted]
        exact ⟨rfl, rfl⟩
      · intro hlong
        exact conclude_of_long hread hfaces hlong s _ _

end

/-- A bad seed that a flag masks, a bad expression behind a good one, and a
roll of five dice. -/
theorem outcome_of_passes_instances :
    (⟨["--seed=3", "2d6"], { environment := ⟨[("LEGEND_SEED", "x")]⟩ }, 0⟩ :
        Invocation).run.exitCode = 2 ∧
      (⟨["0d6", "x", "2d6"], {}, 0⟩ : Invocation).run.stderr = "x: invalid number: 'x'\n" ∧
      (⟨["2d6+1!4", "--seed=7"], {}, 0⟩ : Invocation).run.exitCode = 0 := by
  refine ⟨?_, ?_, ?_⟩
  · have hpasses : Passes ⟨["--seed=3", "2d6"], { environment := ⟨[("LEGEND_SEED", "x")]⟩ }, 0⟩
        ⟨["2d6"], none, some 3, false, false⟩ := ⟨rfl, by decide⟩
    exact (((outcome_of_passes hpasses).2 rfl).1 [⟨.seed, .numberUnclear, some "x"⟩] rfl).1
  · have hpasses : Passes ⟨["0d6", "x", "2d6"], {}, 0⟩
        ⟨["0d6", "x", "2d6"], none, none, false, false⟩ := ⟨rfl, by decide⟩
    have hread : Expression.parse "0d6" = .ok ⟨0, 6, 0, none, by decide, nofun⟩ := by decide
    have hbefore : ∀ text ∈ ["0d6"], ∃ e, Expression.parse text = .ok e := by simp [hread]
    have hrefused := (((outcome_of_passes hpasses).2 rfl).2 {} rfl).1
      ["0d6"] "x" ["2d6"] (.number "x" (some (.malformed "x"))) rfl hbefore (by decide)
    exact (hrefused.2.2.2.1 Library.keepsPlain_standard (by decide)).trans (by decide +kernel)
  · have hpasses : Passes ⟨["2d6+1!4", "--seed=7"], {}, 0⟩
        ⟨["2d6+1!4"], none, some 7, false, false⟩ := ⟨rfl, by decide⟩
    have hread : Expression.parse "2d6+1!4" = .ok ⟨2, 6, 1, some 4, by decide, by decide⟩ := by
      decide
    obtain ⟨t, hroll, _⟩ := exists_run_roll_seven
    have hrolls : (rollAll {} [⟨2, 6, 1, some 4, by decide, by decide⟩]).run
        (.ofSource (.ofSeed 7 Source.ample)) = .ok [⟨[6, 4, 3, 1]⟩] t :=
      run_bind_eq_ok_iff.2 ⟨_, t, hroll, rfl⟩
    have hshort : (⟨[6, 4, 3, 1]⟩ : Roll).total < 10 ^ Decimal.maxDigits :=
      Int.lt_of_lt_of_le (show 14 < 10 ^ 2 by decide) (pow_le_pow_right₀ (by decide) (by decide))
    have hprinted := (((outcome_of_passes hpasses).2 rfl).2 {} rfl).2
      _ _ t (.cons hread .nil) hrolls
    exact (hprinted.1 (List.forall_mem_singleton.2 hshort)).1

/-- A run whose expression is written with a control sequence. -/
def colored : Invocation := ⟨["\x1b[31mx"], {}, 0⟩

/-- A run next to a file that holds a null character. -/
def besideNull : Invocation := ⟨["x"], { files := ⟨[([".env.local"], "A=\x00\n")]⟩ }, 0⟩

theorem colored_isReady : colored.IsReady ⟨["\x1b[31mx"], none, none, false, false⟩ {} :=
  ⟨⟨rfl, by decide⟩, rfl, rfl⟩

theorem besideNull_refusal : besideNull.workspace.load.refusal = some .nullCharacter := by
  decide +kernel

theorem besideNull_settings :
    Settings.ofEnvironment besideNull.workspace.load.environment = .ok {} := by decide +kernel

/-- A complaint loses the control sequences of what it is about, and none is
made of an expression if a file holds what cannot be a variable. -/
theorem complaint_not_always_exact :
    (colored.IsReady ⟨["\x1b[31mx"], none, none, false, false⟩ {} ∧
      ∃ err, Expression.parse "\x1b[31mx" = .error err ∧
        colored.run.stderr ≠ "\x1b[31mx" ++ ": " ++ err.message ++ "\n") ∧
    (besideNull.Passes ⟨["x"], none, none, false, false⟩ ∧
      Settings.ofEnvironment besideNull.workspace.load.environment = .ok {} ∧
      ∃ err, Expression.parse "x" = .error err ∧
        besideNull.run.stderr ≠ "x" ++ ": " ++ err.message ++ "\n") := by
  have hbeside : besideNull.Passes ⟨["x"], none, none, false, false⟩ := ⟨rfl, by decide⟩
  refine ⟨⟨colored_isReady, .number "\x1b[31mx" (some (.malformed "\x1b[31mx")), by decide, ?_⟩,
    hbeside, besideNull_settings, .number "x" (some (.malformed "x")), by decide, ?_⟩
  · have hread : Expression.parse "\x1b[31mx"
        = .error (.number "\x1b[31mx" (some (.malformed "\x1b[31mx"))) := by decide
    have hstderr : colored.run.stderr = "x: invalid number: '\\x1b[31mx'\n" := by
      have htexts : ["\x1b[31mx"] = [] ++ "\x1b[31mx" :: [] := rfl
      rw [(colored_isReady.run_of_refused htexts (List.forall_mem_nil _) hread).1]
      exact Text.plain_of_skipControl? (by decide +kernel) (by decide)
    rw [hstderr]
    decide +kernel
  · rw [hbeside.run_of_refusal besideNull_refusal, Outcome.stderr]
    decide +kernel

end Invocation

end Dicebag
