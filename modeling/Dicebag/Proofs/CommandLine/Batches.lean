import Dicebag.Proofs.CommandLine.Agreement
import Dicebag.Proofs.CommandLine.Documents
import Dicebag.Proofs.CommandLine.Lines

/-!
# Dicebag.Proofs.CommandLine.Batches

Several expressions in one run.  They are rolled one after the other on one
generator, each where the one before it left off (`RollsInTurn`), and what is
printed of them is the same rolls either way: a line for each, or a document
with a record for each (`Invocation.batch_printed`).

A roll depends on the table it is dealt at only through the source
(`Expression.exists_run_roll_of_source`), so the first expression is rolled as
it is on its own, and expressions behind others leave the rolls of those as
they are (`RollsInTurn.exists_eq_append`).
-/

namespace Dicebag

/-! ## Rolling in turn -/

/-- Expressions rolled one after the other: each comes to what it comes to at
a table of its own, on the source that the one before it left. -/
inductive RollsInTurn (mode : RollMode) : Source → List Expression → List Roll → Source → Prop
  | nil {s} : RollsInTurn mode s [] [] s
  | cons {s s' e es r rolls t} (hroll : (e.roll mode).run (.ofSource s) = .ok r t)
    (hrest : RollsInTurn mode t.source es rolls s') : RollsInTurn mode s (e :: es) (r :: rolls) s'

/-- The rolls of a batch: every text is read, and the expressions are rolled
in turn on the generator of the seed. -/
structure IsBatch (written : List String) (seed : Int) (trance : Bool) (es : List Expression)
    (rolls : List Roll) : Prop where
  read : List.Forall₂ (fun text e => Expression.parse text = .ok e) written es
  rolled : ∃ s, RollsInTurn { trance } (.ofSeed seed Source.ample) es rolls s

/-- The same can be dealt at any table with the same source. -/
theorem Table.Dealt.exists_of_source {faces : Int} {t t' u : Table} {values : List Int}
    {entries : List LogEntry} (h : t.Dealt faces values entries t') (hsource : t.source = u.source)
    (more : List LogEntry) : ∃ u', u.Dealt faces values more u' ∧ u'.source = t'.source :=
  ⟨⟨t'.source, _, _⟩, ⟨hsource ▸ h.yields, rfl, rfl⟩, rfl⟩

/-- The source and trance decide what an expression is rolled to and what is
left of the source. -/
theorem Expression.exists_run_roll_of_source {e : Expression} {mode mode' : RollMode}
    {t t' u : Table} {r : Roll} (htrance : mode.trance = mode'.trance)
    (h : (e.roll mode).run t = .ok r t') (hsource : t.source = u.source) :
    ∃ u', (e.roll mode').run u = .ok r u' ∧ u'.source = t'.source := by
  obtain ⟨trance, audit⟩ := mode
  obtain ⟨_, audit'⟩ := mode'
  obtain rfl : trance = _ := htrance
  obtain ⟨pool, chains, ⟨hpool, hcount, hchains⟩, hr, hdealt⟩ := run_roll_eq_ok_iff.1 h
  obtain ⟨u', hu, hsource'⟩ := hdealt.exists_of_source hsource _
  exact ⟨u', run_roll_eq_ok_iff.2 ⟨pool, chains, ⟨hpool, hcount, hchains⟩, hr, hu⟩, hsource'⟩

namespace RollsInTurn

variable {mode mode' : RollMode} {s s' s'' : Source} {es more : List Expression}
  {rolls all : List Roll} {t t' : Table}

theorem length_eq (h : RollsInTurn mode s es rolls s') : es.length = rolls.length := by
  induction h with
  | nil => rfl
  | cons _ _ ih => rw [List.length_cons, List.length_cons, ih]

/-- Rolling all expressions at one table is rolling them in turn. -/
theorem of_run_rollAll (h : (Invocation.rollAll mode' es).run t = .ok rolls t')
    (htrance : mode'.trance = mode.trance) :
    RollsInTurn mode t.source es rolls t'.source := by
  induction es generalizing t rolls with
  | nil =>
    cases h
    exact .nil
  | cons e es ih =>
    rw [Invocation.rollAll_cons] at h
    obtain ⟨r, t₁, hroll, h⟩ := run_bind_eq_ok_iff.1 h
    obtain ⟨rs, t₂, hrolls, h⟩ := run_bind_eq_ok_iff.1 h
    cases h
    obtain ⟨u, hroll', hsource⟩ :=
      Expression.exists_run_roll_of_source (u := .ofSource t.source) htrance hroll rfl
    refine .cons hroll' ?_
    rw [hsource]
    exact ih hrolls

theorem exists_run_rollAll (h : RollsInTurn mode s es rolls s') (mode' : RollMode)
    (htrance : mode.trance = mode'.trance) (hsource : t.source = s) :
    ∃ t', (Invocation.rollAll mode' es).run t = .ok rolls t' ∧ t'.source = s' := by
  induction h generalizing t with
  | nil => exact ⟨t, rfl, hsource⟩
  | cons hroll _ ih =>
    obtain ⟨t₁, hroll', hsource'⟩ :=
      Expression.exists_run_roll_of_source htrance hroll hsource.symm
    obtain ⟨t', hrolls, hs⟩ := ih hsource'
    refine ⟨t', ?_, hs⟩
    rw [Invocation.rollAll_cons]
    exact run_bind_eq_ok_iff.2 ⟨_, t₁, hroll', run_bind_eq_ok_iff.2 ⟨_, t', hrolls, rfl⟩⟩

/-- Expressions behind others leave the rolls of those as they are. -/
theorem exists_eq_append (h : RollsInTurn mode s es rolls s')
    (hall : RollsInTurn mode s (es ++ more) all s'') :
    ∃ later, all = rolls ++ later ∧ RollsInTurn mode s' more later s'' := by
  induction h generalizing all with
  | nil => exact ⟨all, rfl, hall⟩
  | cons hroll _ ih =>
    obtain _ | ⟨hroll', hrest'⟩ := hall
    rw [hroll] at hroll'
    cases hroll'
    obtain ⟨later, hlater, hrolls⟩ := ih hrest'
    exact ⟨later, congrArg (_ :: ·) hlater, hrolls⟩

end RollsInTurn

/-- What follows of every pair holds of every first part. -/
theorem forall_mem_of_forall₂ {α β : Type} {R : α → β → Prop} {P : α → Prop} {l : List α}
    {l' : List β} (h : List.Forall₂ R l l') (hP : ∀ a b, R a b → P a) : ∀ a ∈ l, P a :=
  ((List.forall₂_and_left l l').1 (h.imp fun a b hab => ⟨hP a b hab, hab⟩)).1

/-! ## Totals -/

theorem Decimal.lt_of_fits {n : Int} (h : fits n = true) : n < 10 ^ maxDigits := by
  obtain hneg | hnonneg := Int.lt_or_le n 0
  · exact Int.lt_trans hneg (Int.pow_pos (by decide))
  · exact (fits_iff_lt hnonneg).1 h

/-- The total of a roll that has a text is short enough to be written. -/
theorem Roll.total_lt_of_render {r : Roll} {text : String} (h : r.render = .ok text) :
    r.total < 10 ^ Decimal.maxDigits := by
  refine Decimal.lt_of_fits ((Decimal.render_eq_ok_iff.1 h).1 _ ?_)
  unfold numbers
  split
  · exact List.mem_singleton.2 rfl
  · exact List.mem_cons_self

/-! ## Rolls in a list -/

namespace Rolled

variable {written : List String} {es : List Expression} {rolls : List Roll}

theorem written_mem_of_mem_ofLists {r : Rolled} (h : r ∈ ofLists written es rolls) :
    r.written ∈ written := by
  obtain ⟨⟨w, e, roll⟩, hmem, rfl⟩ := List.mem_map.1 h
  exact (List.of_mem_zip hmem).1

theorem length_ofLists (hes : written.length = es.length) (hrolls : es.length = rolls.length) :
    (ofLists written es rolls).length = written.length := by
  rw [ofLists, List.length_map, List.length_zip, List.length_zip]
  omega

/-- What is made of how expressions were written and what they came to. -/
theorem map_ofLists_written {α : Type} (f : String → Roll → α) (h : es.length = rolls.length) :
    (ofLists written es rolls).map (fun r => f r.written r.roll) = written.zipWith f rolls := by
  have hzip : (es.zip rolls).map Prod.snd = rolls := List.map_snd_zip h.ge
  calc
    (ofLists written es rolls).map (fun r => f r.written r.roll)
      = written.zipWith (fun w p => f w p.2) (es.zip rolls) := by
        rw [ofLists, List.map_map, ← List.map_uncurry_zip_eq_zipWith]
        rfl
    _ = written.zipWith f ((es.zip rolls).map Prod.snd) := by rw [List.zipWith_map_right]
    _ = written.zipWith f rolls := by rw [hzip]

/-- What is made of how expressions were read and what they came to. -/
theorem map_ofLists_expression {α : Type} (f : Expression → Roll → α)
    (h : written.length = es.length) :
    (ofLists written es rolls).map (fun r => f r.expression r.roll) = es.zipWith f rolls := by
  have hzip : (written.zip (es.zip rolls)).map Prod.snd = es.zip rolls :=
    List.map_snd_zip (by rw [List.length_zip]; omega)
  calc
    (ofLists written es rolls).map (fun r => f r.expression r.roll)
      = ((written.zip (es.zip rolls)).map Prod.snd).map (Function.uncurry f) := by
        rw [ofLists, List.map_map, List.map_map]
        rfl
    _ = es.zipWith f rolls := by rw [hzip, List.map_uncurry_zip_eq_zipWith]

end Rolled

theorem Output.eq_ofList_chars_of_render {json : Bool} {rolled : List Rolled} {text : String}
    (h : render json rolled = .ok text) : text = String.ofList (chars json rolled) := by
  cases json with
  | false => exact (Decimal.render_eq_ok_iff.1 h).2
  | true => exact (Decimal.render_eq_ok_iff.1 h).2

/-- Texts behind others leave what those are read as. -/
theorem exists_eq_append_of_parse {texts others : List String} {es all : List Expression}
    (h : List.Forall₂ (fun text e => Expression.parse text = .ok e) texts es)
    (hall : List.Forall₂ (fun text e => Expression.parse text = .ok e) (texts ++ others) all) :
    ∃ more, all = es ++ more ∧
      List.Forall₂ (fun text e => Expression.parse text = .ok e) others more := by
  induction h generalizing all with
  | nil => exact ⟨all, rfl, hall⟩
  | cons hparse _ ih =>
    obtain _ | ⟨hparse', hrest⟩ := hall
    obtain rfl := Except.ok.inj (hparse.symm.trans hparse')
    obtain ⟨more, hmore, hread⟩ := ih hrest
    exact ⟨more, congrArg (_ :: ·) hmore, hread⟩

namespace IsBatch

variable {written others : List String} {seed : Int} {trance : Bool} {es all : List Expression}
  {rolls allRolls : List Roll} {texts : List String}

theorem length_eq (h : IsBatch written seed trance es rolls) :
    written.length = es.length ∧ es.length = rolls.length := by
  obtain ⟨_, hrolled⟩ := h.rolled
  exact ⟨h.read.length_eq, hrolled.length_eq⟩

/-- The expressions are accepted as they were written. -/
theorem exists_parse (h : IsBatch written seed trance es rolls) :
    ∀ r ∈ Rolled.ofLists written es rolls, ∃ e, Expression.parse r.written = .ok e := by
  have hread : ∀ text ∈ written, ∃ e, Expression.parse text = .ok e :=
    forall_mem_of_forall₂ h.read fun _ e he => ⟨e, he⟩
  exact fun r hr => hread _ (Rolled.written_mem_of_mem_ofLists hr)

/-- A batch that goes on has the rolls of the shorter one in front. -/
theorem exists_eq_append (h : IsBatch written seed trance es rolls)
    (hall : IsBatch (written ++ others) seed trance all allRolls) :
    ∃ more later, all = es ++ more ∧ allRolls = rolls ++ later ∧ more.length = others.length ∧
      later.length = others.length := by
  obtain ⟨_, hrolled⟩ := h.rolled
  obtain ⟨_, hallRolled⟩ := hall.rolled
  obtain ⟨more, rfl, hmore⟩ := exists_eq_append_of_parse h.read hall.read
  obtain ⟨later, rfl, hlater⟩ := hrolled.exists_eq_append hallRolled
  exact ⟨more, later, rfl, rfl, hmore.length_eq.symm, (hmore.length_eq.trans hlater.length_eq).symm⟩

/-- The texts, the seed and trance decide what is read and rolled. -/
theorem unique {es' : List Expression} {rolls' : List Roll}
    (h : IsBatch written seed trance es rolls) (h' : IsBatch written seed trance es' rolls') :
    es' = es ∧ rolls' = rolls := by
  rw [← List.append_nil written] at h'
  obtain ⟨more, later, hes, hrolls, hmore, hlater⟩ := h.exists_eq_append h'
  obtain rfl := List.length_eq_zero_iff.1 hmore
  obtain rfl := List.length_eq_zero_iff.1 hlater
  exact ⟨hes.trans (List.append_nil es), hrolls.trans (List.append_nil rolls)⟩

/-- The first expression is rolled as it is on its own. -/
theorem rollText_head? (h : IsBatch written seed trance es rolls) :
    ∀ text ∈ written.head?, ∃ r ∈ rolls.head?, rollText text seed trance = .ok r := by
  obtain ⟨hread, _, hrolled⟩ := h
  rintro text htext
  cases hread with
  | nil => cases htext
  | cons hparse _ =>
    cases htext
    cases hrolled with
    | cons hroll _ => exact ⟨_, rfl, rollText_eq_ok_iff.2 ⟨_, _, hparse, hroll⟩⟩

/-- The expressions are written in their canonical form. -/
theorem render_expressions (h : IsBatch written seed trance es rolls) :
    List.Forall₂ (fun e text => e.render = .ok text) es
      (es.map fun e => String.ofList e.chars) := by
  have hread : List.Forall₂ (fun e text => Expression.parse text = .ok e) es written :=
    List.Forall₂.flip h.read
  rw [List.forall₂_map_right_iff, List.forall₂_same]
  exact forall_mem_of_forall₂ hread fun e text hparse =>
    Expression.render_eq (Expression.writable_of_parse hparse)

theorem eq_map_chars_of_render
    (hrender : List.Forall₂ (fun r text => r.render = .ok text) rolls texts) :
    texts = rolls.map fun r => String.ofList r.chars := by
  have htexts : List.Forall₂ (fun r text => String.ofList r.chars = text) rolls texts :=
    hrender.imp fun _ _ h => (Decimal.render_eq_ok_iff.1 h).2.symm
  rw [← List.forall₂_map_left_iff, List.forall₂_eq_eq_eq] at htexts
  exact htexts.symm

/-- The document of a batch has a record for each expression. -/
theorem read?_document (h : IsBatch written seed trance es rolls) :
    Json.read? (String.ofList (Output.document (Rolled.ofLists written es rolls))) =
      some (.array ((es.map fun e => String.ofList e.chars).zipWith Json.ofRoll rolls)) := by
  rw [Output.read?_document, List.zipWith_map_left]
  exact congrArg (some ∘ Json.array) (Rolled.map_ofLists_expression
    (fun e r => Json.ofRoll (String.ofList e.chars) r) h.length_eq.1)

/-- A batch is printed on a line for each expression. -/
theorem splitOn_lines (h : IsBatch written seed trance es rolls)
    (hrender : List.Forall₂ (fun r text => r.render = .ok text) rolls texts) :
    (Output.lines (Rolled.ofLists written es rolls)).splitOn '\n' =
      (written.zipWith (fun w text => if 1 < written.length then w ++ ": " ++ text else text)
        texts).map String.toList ++ [[]] := by
  have hlines := Output.newLine_notMem_written h.exists_parse
  have hbodies : (Rolled.ofLists written es rolls).map
        (Output.lineBody (decide (1 < written.length))) =
      written.zipWith (fun w r => (if 1 < written.length then w.toList ++ [':', ' '] else []) ++
        r.chars) rolls := by
    rw [← Rolled.map_ofLists_written _ h.length_eq.2]
    refine List.map_congr_left fun r _ => ?_
    simp only [Output.lineBody, decide_eq_true_eq]
  rw [Output.splitOn_lines hlines, Rolled.length_ofLists h.length_eq.1 h.length_eq.2, hbodies,
    eq_map_chars_of_render hrender, List.zipWith_map_right, List.map_zipWith]
  congr 2
  funext w r
  split
  · simp only [String.toList_append, String.toList_ofList]
    rfl
  · rw [String.toList_ofList, List.nil_append]

end IsBatch

/-! ## Runs of batches -/

/-- What is printed of a batch. -/
def Arguments.output (a : Arguments) (es : List Expression) (rolls : List Roll) : String :=
  String.ofList (Output.chars a.json (Rolled.ofLists a.expressions es rolls))

namespace Invocation

variable {i j : Invocation} {a b : Arguments} {s u : Settings} {n : Int} {es : List Expression}
  {rolls : List Roll} {texts : List String}

theorem render_of_conclude {warnings : List LogRecord} {entries : List LogEntry}
    (h : (conclude a s warnings es rolls entries).exitCode = 0) :
    Output.render a.json (Rolled.ofLists a.expressions es rolls) =
      .ok (conclude a s warnings es rolls entries).stdout := by
  unfold conclude at h ⊢
  cases hrender : Output.render a.json (Rolled.ofLists a.expressions es rolls) with
  | error e =>
    rw [hrender] at h
    contradiction
  | ok text => rfl

/-- A run with exit code 0 reads and rolls all expressions. -/
theorem IsReady.exists_run_rollAll [Library] (h : i.IsReady a s) (hexit : i.run.exitCode = 0) :
    ∃ es rolls t, List.Forall₂ (fun text e => Expression.parse text = .ok e) a.expressions es ∧
      (rollAll (a.mode s) es).run (.ofSource (a.source s i.entropy)) = .ok rolls t := by
  cases hread : readAll a.expressions with
  | error refused =>
    rw [h.run_of_run_perform (perform_of_refused hread s _ _)] at hexit
    contradiction
  | ok es =>
    cases hrolls : (rollAll (a.mode s) es).run (.ofSource (a.source s i.entropy)) with
    | error e t =>
      rw [h.run, run_perform_of_stopped hread hrolls] at hexit
      contradiction
    | ok rolls t => exact ⟨es, rolls, t, readAll_eq_ok_iff.1 hread, hrolls⟩

/-- What a run reads and rolls is a batch, on the generator of its seed or,
where none is given, of the one it came with. -/
theorem isBatch_of_run_rollAll {entropy : Int} {t : Table}
    (hread : List.Forall₂ (fun text e => Expression.parse text = .ok e) a.expressions es)
    (hrolls : (rollAll (a.mode s) es).run (.ofSource (a.source s entropy)) = .ok rolls t) :
    IsBatch a.expressions ((a.seed.or s.seed).getD entropy) (a.trance.getD s.trance) es rolls :=
  ⟨hread, t.source, RollsInTurn.of_run_rollAll hrolls rfl⟩

/-- A run with exit code 0 prints a batch. -/
theorem IsReady.exists_render [Library] (h : i.IsReady a s) (hexit : i.run.exitCode = 0) :
    ∃ es rolls, IsBatch a.expressions ((a.seed.or s.seed).getD i.entropy)
        (a.trance.getD s.trance) es rolls ∧
      Output.render a.json (Rolled.ofLists a.expressions es rolls) = .ok i.run.stdout := by
  obtain ⟨es, rolls, t, hread, hrolls⟩ := h.exists_run_rollAll hexit
  obtain ⟨_, hrun⟩ := h.run_of_rolled hread hrolls
  rw [hrun] at hexit ⊢
  exact ⟨es, rolls, isBatch_of_run_rollAll hread hrolls, render_of_conclude hexit⟩

/-- A run with exit code 0 and a seed prints the batch of that seed. -/
theorem IsReady.exists_isBatch [Library] (h : i.IsReady a s)
    (hseed : a.seed.or s.seed = some n) (hexit : i.run.exitCode = 0) :
    ∃ es rolls, IsBatch a.expressions n (a.trance.getD s.trance) es rolls ∧
      i.run.stdout = a.output es rolls := by
  obtain ⟨es, rolls, hbatch, hrender⟩ := h.exists_render hexit
  rw [hseed] at hbatch
  exact ⟨es, rolls, hbatch, Output.eq_ofList_chars_of_render hrender⟩

/-- A batch whose rolls have a text is what the run prints. -/
theorem IsReady.run_of_isBatch [Library] (h : i.IsReady a s)
    (hseed : a.seed.or s.seed = some n)
    (hbatch : IsBatch a.expressions n (a.trance.getD s.trance) es rolls)
    (hrender : List.Forall₂ (fun r text => r.render = .ok text) rolls texts) :
    i.run.exitCode = 0 ∧ i.run.stdout = a.output es rolls := by
  obtain ⟨_, hrolled⟩ := hbatch.rolled
  have hsource : (Table.ofSource (a.source s i.entropy)).source = .ofSeed n Source.ample :=
    Arguments.source_of_seed hseed _
  obtain ⟨t, hrolls, _⟩ := hrolled.exists_run_rollAll (a.mode s) rfl hsource
  obtain ⟨hfaces, hrun⟩ := h.run_of_rolled hbatch.read hrolls
  have hshort : ∀ r ∈ rolls, r.total < 10 ^ Decimal.maxDigits :=
    forall_mem_of_forall₂ hrender fun _ _ htext => Roll.total_lt_of_render htext
  have hexit : i.run.exitCode = 0 := by
    obtain ⟨text, log, hprinted⟩ := conclude_of_short hbatch.read hfaces hshort s _ _
    rw [hrun, hprinted]
    rfl
  refine ⟨hexit, ?_⟩
  rw [hrun] at hexit ⊢
  exact Output.eq_ofList_chars_of_render (render_of_conclude hexit)

theorem read?_output (hbatch : IsBatch a.expressions n (a.trance.getD s.trance) es rolls)
    (hjson : a.json = true) :
    Json.read? (a.output es rolls) =
      some (.array ((es.map fun e => String.ofList e.chars).zipWith Json.ofRoll rolls)) := by
  rw [Arguments.output, Output.chars, if_pos hjson]
  exact hbatch.read?_document

/-- **Batches are printed alike**: let the expressions of a run be accepted
and rolled in turn on the generator of its seed, and let the rolls have a
text.

* The run ends with exit code 0.
* As a document it prints a record for each expression, of its canonical
  form, its values and their sum.
* As text it prints a line for each expression, which is the text of the
  roll, behind the expression as it was written if there are several.
* The first roll is that of the first expression on its own.
* A run that goes on with further expressions has the same records in front
  of those for the others. -/
theorem batch_printed [Library] (hready : i.IsReady a s) (hseed : a.seed.or s.seed = some n)
    (hbatch : IsBatch a.expressions n (a.trance.getD s.trance) es rolls)
    (hrender : List.Forall₂ (fun r text => r.render = .ok text) rolls texts) :
    ∃ shown : List String, List.Forall₂ (fun e text => e.render = .ok text) es shown ∧
      (shown.zipWith Json.ofRoll rolls).length = a.expressions.length ∧
      i.run.exitCode = 0 ∧
      (a.json = true →
        Json.read? i.run.stdout = some (.array (shown.zipWith Json.ofRoll rolls))) ∧
      (a.json = false →
        ∃ lines : List String, lines.length = a.expressions.length ∧
          i.run.stdout.toList.splitOn '\n' = lines.map String.toList ++ [[]] ∧
          lines = a.expressions.zipWith
            (fun written text =>
              if 1 < a.expressions.length then written ++ ": " ++ text else text) texts) ∧
      (∀ written ∈ a.expressions.head?,
        ∃ r ∈ rolls.head?, rollText written n (a.trance.getD s.trance) = .ok r) ∧
      ∀ {j : Invocation} {b : Arguments} {u : Settings} {others : List String},
        j.IsReady b u → b.expressions = a.expressions ++ others → b.seed.or u.seed = some n →
        b.trance.getD u.trance = a.trance.getD s.trance → b.json = true → j.run.exitCode = 0 →
          ∃ more, more.length = others.length ∧
            Json.read? j.run.stdout = some (.array (shown.zipWith Json.ofRoll rolls ++ more)) := by
  obtain ⟨hexit, hstdout⟩ := hready.run_of_isBatch hseed hbatch hrender
  obtain ⟨hread, hrolled⟩ := hbatch.length_eq
  refine ⟨es.map fun e => String.ofList e.chars, hbatch.render_expressions, ?_, hexit,
    fun hjson => hstdout ▸ read?_output hbatch hjson, ?_, hbatch.rollText_head?, ?_⟩
  · rw [List.length_zipWith, List.length_map]
    omega
  · intro hjson
    refine ⟨_, ?_, ?_, rfl⟩
    · have htexts := hrender.length_eq
      rw [List.length_zipWith]
      omega
    · rw [hstdout, Arguments.output, String.toList_ofList, Output.chars, hjson,
        if_neg Bool.false_ne_true]
      exact hbatch.splitOn_lines hrender
  · intro j b u others hready' hexpressions hseed' htrance hjson hexit'
    obtain ⟨all, allRolls, hall, hstdout'⟩ := hready'.exists_isBatch hseed' hexit'
    have hdocument := read?_output hall hjson
    rw [← hstdout'] at hdocument
    rw [hexpressions, htrance] at hall
    obtain ⟨more, later, rfl, rfl, hmore, hlater⟩ := hbatch.exists_eq_append hall
    refine ⟨(more.map fun e => String.ofList e.chars).zipWith Json.ofRoll later, ?_, ?_⟩
    · rw [List.length_zipWith, List.length_map]
      omega
    · rw [hdocument, List.map_append, List.zipWith_append (by rw [List.length_map, hrolled])]

/-- Two expressions on the generator of one seed: the second is rolled on the words
behind those of the first, explosion and misses included. -/
theorem isBatch_seven :
    IsBatch ["2d6+1!4", "2 d8"] 7 false
      [⟨2, 6, 1, some 4, by decide, by decide⟩, ⟨2, 8, 0, none, by decide, nofun⟩]
      [⟨[6, 4, 3, 1]⟩, ⟨[2, 2]⟩] := by
  obtain ⟨t, hfirst, hsource⟩ := exists_run_roll_seven
  have hthrown : ((List.range' 6 4).map
      (Twister.wordOf (Twister.seedWords (UInt32.ofNat (7 : Int).natAbs)))).map (Source.face? 8) =
        [some 2, none, none, some 2] := by decide +kernel
  have hyields : t.source.Yields 1 8 [2, 2]
      (.seeded ((Twister.ofSeed 7).skip 10) Source.ample (Source.ample - 7)) := by
    rw [hsource]
    exact .of_seed (m := 6) (n := 4) (by decide) (by decide) (by decide) hthrown (by decide)
      (by decide)
  have hscript : ((⟨2, 8, 0, none, by decide, nofun⟩ : Expression).roll {}).run
      (.ofSource (.script [2, 2])) = .ok ⟨[2, 2]⟩ ⟨.script [], List.replicate 2 ⟨1, 8⟩, []⟩ := by
    cbv
  obtain ⟨u, hsecond, hsource'⟩ := Expression.exists_run_roll_of_yields hyields hscript rfl
  exact ⟨.cons (by decide) (.cons (by decide) .nil), _, .cons hfirst (.cons hsecond .nil)⟩

theorem render_seven :
    List.Forall₂ (fun (r : Roll) text => r.render = .ok text) [⟨[6, 4, 3, 1]⟩, ⟨[2, 2]⟩]
      [" 14 = (6 + 4 + 3 + 1)", "  4 = (2 + 2)"] :=
  .cons (by decide +kernel) (.cons (by decide +kernel) .nil)

/-- Two expressions that share a generator, as a document. -/
theorem batch_printed_seven :
    Json.read? (⟨["--json", "2d6+1!4", "--seed=7", "2 d8"], {}, 0⟩ : Invocation).run.stdout =
      some (.array [Json.ofRoll "2d6+1!4" ⟨[6, 4, 3, 1]⟩, Json.ofRoll "2d8" ⟨[2, 2]⟩]) := by
  have hready : IsReady ⟨["--json", "2d6+1!4", "--seed=7", "2 d8"], {}, 0⟩
      ⟨["2d6+1!4", "2 d8"], none, some 7, true, false⟩ {} :=
    ⟨⟨rfl, by decide +kernel⟩, rfl, rfl⟩
  obtain ⟨shown, hshown, _, _, hjson, _⟩ := batch_printed hready rfl isBatch_seven render_seven
  have hcanonical : shown = ["2d6+1!4", "2d8"] := by
    have hrender : List.Forall₂ (fun (e : Expression) text => e.render = .ok text)
        [⟨2, 6, 1, some 4, by decide, by decide⟩, ⟨2, 8, 0, none, by decide, nofun⟩]
        ["2d6+1!4", "2d8"] := .cons (by decide +kernel) (.cons (by decide +kernel) .nil)
    obtain _ | ⟨hfirst, _ | ⟨hsecond, _ | _⟩⟩ := hshown
    obtain _ | ⟨hfirst', _ | ⟨hsecond', _⟩⟩ := hrender
    rw [Except.ok.inj (hfirst.symm.trans hfirst'), Except.ok.inj (hsecond.symm.trans hsecond')]
  rw [hjson rfl, hcanonical]
  rfl

end Invocation

end Dicebag
