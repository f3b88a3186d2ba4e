import Dicebag.Proofs.Roll.Accounting
import Dicebag.Session

/-!
# Dicebag.Proofs.Session

Operations that share a source share nothing else.  Whatever an operation
is, it either takes a front of the script, and then does the same on every
script that begins with it (`Operation.Takes`), or draws the script to its
end and asks once more (`Operation.Exhausts`).  A front that is taken is not
taken sooner (`Operation.Takes.exhausts`), so nothing gets lost between two
operations and nothing is drawn twice:

* `Session.exists_takes` — a session that succeeds takes a front of the
  script, piece by piece;
* `Session.Takes.shown_run`, `Session.Takes.draws` — whatever stands behind
  it is left and does not matter;
* `Session.Takes.exhausts` — a shorter front runs out in one of the
  operations.
-/

namespace Dicebag

/-! ## Answers to calls -/

/-- A source answers calls with values, one after the other, and has become
another source then. -/
inductive Source.Answers : Source → List Call → List Int → Source → Prop
  | nil {s} : Answers s [] [] s
  | cons {s s' s'' call calls value values} (hdraw : s.draw call.lo call.hi = .ok (value, s'))
    (hrest : Answers s' calls values s'') : Answers s (call :: calls) (value :: values) s''

/-- A script answers any calls with its items from the front. -/
theorem Source.answers_script {calls : List Call} {values : List Int}
    (h : calls.length = values.length) (rest : List Int) :
    (Source.script (values ++ rest)).Answers calls values (.script rest) := by
  induction values generalizing calls with
  | nil =>
    obtain rfl := List.eq_nil_of_length_eq_zero h
    exact .nil
  | cons value values ih =>
    obtain ⟨call, calls, rfl⟩ := List.exists_cons_of_length_eq_add_one h
    exact .cons rfl (ih (Nat.succ.inj h))

/-! ## Deals on a script -/

namespace Deal

variable {α β : Type} {deal : Deal α}

/-- The deal takes the values from the front of every script that begins
with them, and comes to `a` with these calls and entries. -/
def Takes (deal : Deal α) (values : List Int) (a : α) (calls : List Call)
    (log : List LogEntry) : Prop :=
  ∀ rest, deal.run (.ofSource (.script (values ++ rest))) = .ok a ⟨.script rest, calls, log⟩

/-- On every script the deal takes values from the front, or else draws the
script to its end and asks once more. -/
def IsLocal (deal : Deal α) : Prop :=
  ∀ items,
    (∃ values rest a calls log, items = values ++ rest ∧ calls.length = values.length ∧
      deal.Takes values a calls log) ∨
    ∃ calls log, calls.length = items.length + 1 ∧
      deal.run (.ofSource (.script items)) = .error .scriptExhausted ⟨.script [], calls, log⟩

theorem IsLocal.map (h : deal.IsLocal) (f : α → β) : IsLocal (f <$> deal) := by
  intro items
  obtain ⟨values, rest, a, calls, log, hitems, hlength, htakes⟩ | ⟨calls, log, hlength, hrun⟩ :=
    h items
  · refine .inl ⟨values, rest, f a, calls, log, hitems, hlength, fun others => ?_⟩
    rw [EStateM.run_map, htakes others]
    rfl
  · refine .inr ⟨calls, log, hlength, ?_⟩
    rw [EStateM.run_map, hrun]
    rfl

/-- A deal is local if it ends exactly on values of one die that stand in
some relation to what it comes to, and stops only where the source does. -/
theorem isLocal_of_dealt (faces : Int) {P : α → List Int → List LogEntry → Prop}
    (hok : ∀ {t a t'}, deal.run t = .ok a t' ↔
      ∃ values entries, P a values entries ∧ t.Dealt faces values entries t')
    (herror : ∀ {t e t'}, deal.run t = .error e t' →
      ∃ values entries, t.Stopped faces values entries e t') : deal.IsLocal := by
  intro items
  cases hrun : deal.run (.ofSource (.script items)) with
  | ok a t' =>
    obtain ⟨values, entries, hP, hdealt⟩ := hok.1 hrun
    obtain ⟨rest, hitems, _⟩ := Table.dealt_script_iff.1 hdealt
    refine .inl ⟨values, rest, a, List.replicate values.length ⟨1, faces⟩ ++ [],
      entries.reverse ++ [], hitems, by simp, fun others => ?_⟩
    exact hok.2 ⟨values, entries, hP, Table.dealt_script_iff.2 ⟨others, rfl, rfl⟩⟩
  | error e t' =>
    obtain ⟨values, entries, hstopped⟩ := herror hrun
    obtain ⟨rfl, rfl, rfl⟩ := Table.stopped_script_iff.1 hstopped
    exact .inr ⟨_, _, by simp, rfl⟩

theorem isLocal_draw (lo hi : Int) : IsLocal (draw lo hi) := by
  intro items
  cases items with
  | nil => exact .inr ⟨[⟨lo, hi⟩], [], rfl, rfl⟩
  | cons value items =>
    exact .inl ⟨[value], items, value, [⟨lo, hi⟩], [], rfl, rfl, fun _ => rfl⟩

theorem isLocal_pool (die : Die) (n : Nat) : IsLocal (die.pool n) := by
  refine isLocal_of_dealt die.faces
    (P := fun a values entries => a = values ∧ values.length = n ∧ entries = []) ?_ ?_
  · intro t a t'
    rw [Die.run_pool_eq_ok_iff]
    constructor
    · intro ⟨hlength, hdealt⟩
      exact ⟨a, [], ⟨rfl, hlength, rfl⟩, hdealt⟩
    · rintro ⟨_, _, ⟨rfl, hlength, rfl⟩, hdealt⟩
      exact ⟨hlength, hdealt⟩
  · intro t e t' hrun
    obtain ⟨values, _, hstopped⟩ := Die.run_pool_eq_error_iff.1 hrun
    exact ⟨values, [], hstopped⟩

theorem isLocal_chain (die : Die) (threshold : Option Int) : IsLocal (die.chain threshold) := by
  refine isLocal_of_dealt die.faces
    (P := fun a values entries => a = values ∧ IsChain (die.explodesAt threshold) values ∧
      entries = []) ?_ ?_
  · intro t a t'
    rw [Die.run_chain_eq_ok_iff]
    constructor
    · intro ⟨hchain, hdealt⟩
      exact ⟨a, [], ⟨rfl, hchain, rfl⟩, hdealt⟩
    · rintro ⟨_, _, ⟨rfl, hchain, rfl⟩, hdealt⟩
      exact ⟨hchain, hdealt⟩
  · intro t e t' hrun
    obtain ⟨values, _, hstopped⟩ := Die.run_chain_eq_error_iff.1 hrun
    exact ⟨values, [], hstopped⟩

theorem isLocal_roll (e : Expression) (mode : RollMode) : IsLocal (e.roll mode) := by
  refine isLocal_of_dealt e.faces
    (P := fun r values entries => ∃ pool chains, e.IsRoll mode pool chains ∧
      r = ⟨descending (e.window pool ++ chains.flatten)⟩ ∧ values = pool ++ chains.flatten ∧
      entries = noted mode.audit (.pool e pool (e.window pool)) ++ e.chainEntries mode chains)
    ?_ ?_
  · intro t r t'
    rw [Expression.run_roll_eq_ok_iff]
    constructor
    · intro ⟨pool, chains, hroll, hr, hdealt⟩
      exact ⟨_, _, ⟨pool, chains, hroll, hr, rfl, rfl⟩, hdealt⟩
    · rintro ⟨_, _, ⟨pool, chains, hroll, hr, rfl, rfl⟩, hdealt⟩
      exact ⟨pool, chains, hroll, hr, hdealt⟩
  · intro t err t' hrun
    obtain ⟨values, _, hstopped⟩ | ⟨_, _, _, _, _, _, _, hstopped⟩ :=
      Expression.run_roll_eq_error_iff.1 hrun
    · exact ⟨_, _, hstopped⟩
    · exact ⟨_, _, hstopped⟩

end Deal

/-! ## Operations on a script -/

namespace Operation

variable {op : Operation} {values items fewer : List Int} {r : Report} {answer : Answer}

theorem isLocal_deal (op : Operation) : op.deal.IsLocal := by
  cases op with
  | roll e mode => exact (Deal.isLocal_roll e mode).map _
  | pool die count => exact (Deal.isLocal_pool die _).map _
  | chain die threshold => exact (Deal.isLocal_chain die threshold).map _
  | draw lo hi => exact (Deal.isLocal_draw lo hi).map _

/-- The operation takes the values from the front of every script that
begins with them, one for each of its calls, and its report is `r` but for
the source, which is what stands behind them. -/
structure Takes (op : Operation) (values : List Int) (r : Report) : Prop where
  report : ∀ rest, op.report (.script (values ++ rest)) = { r with source := .script rest }
  length_calls : r.calls.length = values.length

/-- The operation draws the script to its end, and asks once more. -/
structure Exhausts (op : Operation) (items : List Int) : Prop where
  outcome : (op.report (.script items)).outcome = .error .scriptExhausted
  source : (op.report (.script items)).source = .script []
  length_calls : (op.report (.script items)).calls.length = items.length + 1

theorem takes_or_exhausts (op : Operation) (items : List Int) :
    (∃ values rest, items = values ++ rest ∧ op.Takes values (op.report (.script items))) ∨
      op.Exhausts items := by
  obtain ⟨values, rest, answer, calls, log, rfl, hlength, htakes⟩ | ⟨calls, log, hlength, hrun⟩ :=
    op.isLocal_deal items
  · have hreport : ∀ others, op.report (.script (values ++ others)) =
        ⟨.ok answer, .script others, calls.reverse, log.reverse⟩ := by
      intro others
      rw [report, Source.renew, htakes others]
    refine .inl ⟨values, rest, rfl, fun others => ?_, ?_⟩
    · rw [hreport, hreport]
    · rw [hreport, List.length_reverse, hlength]
  · have hreport : op.report (.script items) =
        ⟨.error .scriptExhausted, .script [], calls.reverse, log.reverse⟩ := by
      rw [report, Source.renew, hrun]
    refine .inr ⟨?_, ?_, ?_⟩
    · rw [hreport]
    · rw [hreport]
    · rw [hreport, List.length_reverse, hlength]

theorem exists_takes (h : (op.report (.script items)).outcome = .ok answer) :
    ∃ values rest, items = values ++ rest ∧ op.Takes values (op.report (.script items)) := by
  obtain htakes | hexhausts := op.takes_or_exhausts items
  · exact htakes
  · rw [hexhausts.outcome] at h
    cases h

/-- What is taken is not taken sooner: on a shorter front the operation does
not end, since it would leave something of the longer one. -/
theorem Takes.exhausts (h : op.Takes values r) (hfewer : fewer <+: values)
    (hne : fewer ≠ values) : op.Exhausts fewer := by
  obtain ⟨front, back, rfl, htakes⟩ | hexhausts := op.takes_or_exhausts fewer
  · obtain ⟨missing, rfl⟩ := hfewer
    have hall := h.report []
    rw [List.append_nil, List.append_assoc, htakes.report] at hall
    have hsource : Source.script (back ++ missing) = .script [] := congrArg Report.source hall
    have hnil : missing = [] := (List.append_eq_nil_iff.1 (Source.script.inj hsource)).2
    rw [hnil, List.append_nil] at hne
    contradiction
  · exact hexhausts

end Operation

/-! ## Sessions on a script -/

/-- What a report lets be seen besides the source that is left. -/
def Report.shown (r : Report) : Except DrawError Answer × List Call × List LogEntry :=
  (r.outcome, r.calls, r.log)

namespace Session

variable {ops : List Operation} {items fewer : List Int} {drawn : List (List Int)}
  {reports : List Report}

/-- The operations draw these values of a source, a list for each of them:
its answers to the calls of the operation.  The last of them leaves the
other source. -/
inductive Draws : List Operation → Source → List (List Int) → Source → Prop
  | nil {s} : Draws [] s [] s
  | cons {op ops s s' values drawn}
    (hop : s.renew.Answers (op.report s).calls values (op.report s).source)
    (hrest : Draws ops (op.report s).source drawn s') : Draws (op :: ops) s (values :: drawn) s'

/-- Each operation takes its values from the front of a script. -/
inductive Takes : List Operation → List (List Int) → List Report → Prop
  | nil : Takes [] [] []
  | cons {op ops values drawn r reports} (hop : op.Takes values r)
    (hrest : Takes ops drawn reports) : Takes (op :: ops) (values :: drawn) (r :: reports)

theorem run_cons (op : Operation) (ops : List Operation) (s : Source) :
    run (op :: ops) s = op.report s :: run ops (op.report s).source := rfl

/-- A session in which every operation succeeds takes a front of the
script. -/
theorem exists_takes (h : ∀ r ∈ run ops (.script items), ∃ answer, r.outcome = .ok answer) :
    ∃ drawn rest, items = drawn.flatten ++ rest ∧ Takes ops drawn (run ops (.script items)) := by
  induction ops generalizing items with
  | nil => exact ⟨[], items, rfl, .nil⟩
  | cons op ops ih =>
    rw [run_cons, List.forall_mem_cons] at h
    obtain ⟨⟨answer, hanswer⟩, hothers⟩ := h
    obtain ⟨values, behind, rfl, htakes⟩ := Operation.exists_takes hanswer
    have hsource : (op.report (.script (values ++ behind))).source = .script behind :=
      congrArg Report.source (htakes.report behind)
    rw [hsource] at hothers
    obtain ⟨drawn, rest, rfl, hdrawn⟩ := ih hothers
    refine ⟨values :: drawn, rest, ?_, ?_⟩
    · rw [List.flatten_cons, List.append_assoc]
    · rw [run_cons, hsource]
      exact .cons htakes hdrawn

namespace Takes

theorem run_cons_append {op : Operation} {values : List Int} {r : Report}
    (hop : op.Takes values r) (ops : List Operation) (rest : List Int) :
    run (op :: ops) (.script (values ++ rest)) =
      { r with source := .script rest } :: run ops (.script rest) := by
  rw [run_cons, hop.report]

theorem shown_run (h : Takes ops drawn reports) (others : List Int) :
    (run ops (.script (drawn.flatten ++ others))).map Report.shown = reports.map Report.shown := by
  induction h with
  | nil => rfl
  | cons hop _ ih =>
    rw [List.flatten_cons, List.append_assoc, run_cons_append hop, List.map_cons, List.map_cons, ih]
    rfl

theorem draws (h : Takes ops drawn reports) (others : List Int) :
    Draws ops (.script (drawn.flatten ++ others)) drawn (.script others) := by
  induction h with
  | nil => exact .nil
  | @cons op ops values drawn r reports hop _ ih =>
    rw [List.flatten_cons, List.append_assoc]
    have hreport := hop.report (drawn.flatten ++ others)
    refine .cons ?_ ?_
    · rw [hreport]
      exact Source.answers_script hop.length_calls _
    · rw [hreport]
      exact ih

/-- A shorter front runs out in one of the operations.  Those before it do
what they did, and it is drawn to its end. -/
theorem exhausts (h : Takes ops drawn reports) (hfewer : fewer <+: drawn.flatten)
    (hne : fewer ≠ drawn.flatten) :
    ∃ before failed later, run ops (.script fewer) = before ++ failed :: later ∧
      before.map Report.shown <+: reports.map Report.shown ∧
      failed.outcome = .error .scriptExhausted ∧ failed.source = .script [] ∧
      ((before ++ [failed]).flatMap Report.calls).length = fewer.length + 1 := by
  induction h generalizing fewer with
  | nil => exact absurd (List.prefix_nil.1 hfewer) hne
  | @cons op ops values drawn r reports hop _ ih =>
    rw [List.flatten_cons] at hfewer hne
    by_cases hfront : values <+: fewer
    · obtain ⟨behind, rfl⟩ := hfront
      rw [List.prefix_append_right_inj] at hfewer
      have hbehind : behind ≠ drawn.flatten := fun heq => hne (congrArg _ heq)
      obtain ⟨before, failed, later, hrun, hbefore, houtcome, hsource, hcalls⟩ :=
        ih hfewer hbehind
      refine ⟨{ r with source := .script behind } :: before, failed, later, ?_, ?_, houtcome,
        hsource, ?_⟩
      · rw [run_cons_append hop, hrun]
        rfl
      · exact (List.prefix_cons_inj _).2 hbefore
      · rw [List.cons_append, List.flatMap_cons, List.length_append, hop.length_calls, hcalls,
          List.length_append, Nat.add_assoc]
    · -- the first operation does not get what it takes
      have hshort : fewer <+: values :=
        (List.prefix_or_prefix_of_prefix hfewer (List.prefix_append values _)).resolve_right hfront
      have hvalues : fewer ≠ values := fun heq => hfront (heq ▸ List.prefix_refl values)
      obtain ⟨houtcome, hsource, hcalls⟩ := hop.exhausts hshort hvalues
      refine ⟨[], op.report (.script fewer), _, run_cons op ops _, List.nil_prefix, houtcome,
        hsource, ?_⟩
      rw [List.nil_append, List.flatMap_singleton]
      exact hcalls

end Takes

/-! ## Whole sessions -/

/-- **Each draw is dealt once**: a session in which every operation succeeds
draws a front of the script and leaves the rest.  On that front, whatever
stands behind it, every operation does the same and what stands behind is
left.  On a shorter front one of the operations finds the script exhausted;
all of the front is drawn then, and what the operations before it did is
what they did on the whole script. -/
theorem deals_each_draw_once {ops : List Operation} {items : List Int}
    (h : ∀ r ∈ run ops (.script items), ∃ answer, r.outcome = .ok answer) :
    ∃ drawn rest, items = drawn.flatten ++ rest ∧ Draws ops (.script items) drawn (.script rest) ∧
      (∀ others, Draws ops (.script (drawn.flatten ++ others)) drawn (.script others) ∧
        (run ops (.script (drawn.flatten ++ others))).map Report.shown =
          (run ops (.script items)).map Report.shown) ∧
      ∀ fewer, fewer <+: drawn.flatten → fewer ≠ drawn.flatten →
        ∃ before failed later, run ops (.script fewer) = before ++ failed :: later ∧
          before.map Report.shown <+: (run ops (.script items)).map Report.shown ∧
          failed.outcome = .error .scriptExhausted ∧ failed.source = .script [] ∧
          ((before ++ [failed]).flatMap Report.calls).length = fewer.length + 1 := by
  obtain ⟨drawn, rest, hitems, htakes⟩ := exists_takes h
  refine ⟨drawn, rest, hitems, ?_, ?_, ?_⟩
  · have hdraws := htakes.draws rest
    rwa [← hitems] at hdraws
  · intro others
    exact ⟨htakes.draws others, htakes.shown_run others⟩
  · intro fewer hfewer hne
    exact htakes.exhausts hfewer hne

/-- A pool, a roll in trance, a chain and a number. -/
def mixed : List Operation :=
  [.pool ⟨20, false⟩ 2, .roll ⟨2, 6, 0, some 6, by decide, by decide⟩ { trance := true },
    .chain ⟨6, false⟩ (some 6), .draw 3 9]

/-- They take nine of ten items. -/
theorem deals_each_draw_once_mixed :
    (∀ r ∈ run mixed (.script [4, 17, 5, 6, 1, 2, 6, 3, 7, 9]), ∃ answer, r.outcome = .ok answer) ∧
      ∃ drawn rest, [4, 17, 5, 6, 1, 2, 6, 3, 7, 9] = drawn.flatten ++ rest ∧
        Draws mixed (.script [4, 17, 5, 6, 1, 2, 6, 3, 7, 9]) drawn (.script rest) := by
  have houtcomes : (run mixed (.script [4, 17, 5, 6, 1, 2, 6, 3, 7, 9])).map Report.outcome =
      [.ok (.values [4, 17]), .ok (.roll ⟨[6, 5, 2, 1]⟩), .ok (.values [6, 3]),
        .ok (.value 7)] := by cbv
  have hrun : ∀ r ∈ run mixed (.script [4, 17, 5, 6, 1, 2, 6, 3, 7, 9]),
      ∃ answer, r.outcome = .ok answer := by
    rw [← List.forall_mem_map (P := fun outcome => ∃ answer, outcome = Except.ok answer), houtcomes]
    simp
  obtain ⟨drawn, rest, hitems, hdraws, _⟩ := deals_each_draw_once hrun
  exact ⟨hrun, drawn, rest, hitems, hdraws⟩

end Session

end Dicebag
