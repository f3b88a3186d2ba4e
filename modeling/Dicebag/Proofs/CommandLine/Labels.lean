import Dicebag.Proofs.CommandLine.Batches
import Dicebag.Proofs.Roll.Reading
import Dicebag.Proofs.Text.Stripping

/-!
# Dicebag.Proofs.CommandLine.Labels

Labelled lines taken apart.  Where several expressions are rolled, each line
begins with the expression as it was written, and ends with the text of its
roll.  `Output.readLines?` gets both out of what was printed, each expression
with its values (`Invocation.labelled_lines_read_back`).

It takes a line feed for the end of a line and the first colon of a line for
the end of the expression.  That is sound since a labelled line is written
with few characters (`Output.mem_lineBody`): the only blank among them is the
space, and the only colon is the one behind the expression.
-/

namespace Dicebag

namespace Output

/-! ## Reading lines -/

/-- The expression that a line begins with and the values that it shows. -/
def readLine? (line : List Char) : Option (String × List Int) :=
  match Text.cutFirst? (· == ':') line with
  | some (written, _, ' ' :: text) =>
    (Roll.read? text).map fun (_, values) => (String.ofList written, values)
  | _ => none

/-- The expressions that lines begin with and the values that they show. -/
def readLines? (text : String) : Option (List (String × List Int)) :=
  (text.toList.splitOn '\n').dropLast.mapM readLine?

variable {r : Rolled} {rolled : List Rolled} {text : String} {e : Expression} {c : Char}

/-- The lines of expressions that are accepted are written with digits and
these characters. -/
theorem mem_lineBody {labelled : Bool} (h : Expression.parse r.written = .ok e)
    (hc : c ∈ lineBody labelled r) :
    c.isDigit ∨ c ∈ [' ', 'd', 'D', '+', '-', '!', ':', '=', '(', ')'] := by
  obtain hc | hc := List.mem_append.1 hc
  · cases labelled with
    | false => exact absurd hc List.not_mem_nil
    | true =>
      obtain hc | hc := List.mem_append.1 hc
      · have := Expression.mem_of_parse h hc
        grind
      · grind
  · have := Roll.mem_chars hc
    grind

/-- Spaces are the only blanks in a line. -/
theorem eq_space_of_isBlank {labelled : Bool} (h : Expression.parse r.written = .ok e)
    (hc : c ∈ lineBody labelled r) (hblank : Text.isBlank c) : c = ' ' := by
  obtain hdigit | hc := mem_lineBody h hc
  · rw [Text.isBlank_eq_false_of_isDigit hdigit] at hblank
    contradiction
  · have hplain : ['d', 'D', '+', '-', '!', ':', '=', '(', ')'].all (! Text.isBlank ·) = true := by
      decide
    refine (List.mem_cons.1 hc).resolve_right fun hother => ?_
    have := List.all_eq_true.1 hplain c hother
    simp_all

/-- A labelled line is cut behind the expression. -/
theorem cutFirst?_lineBody (h : Expression.parse r.written = .ok e) :
    Text.cutFirst? (· == ':') (lineBody true r) =
      some (r.written.toList, ':', ' ' :: r.roll.chars) := by
  have hcolon : ':' ∉ r.written.toList := fun hc =>
    absurd (Expression.mem_of_parse h hc) (by decide)
  have hline : lineBody true r = r.written.toList ++ ':' :: ' ' :: r.roll.chars := by
    simp [lineBody]
  rw [hline, Text.cutFirst?_of_notMem hcolon]

/-- A line that can be taken apart into an expression, as it was written, and
the text of a roll: the space is the only blank in it, the expression ends at
the first colon, and the text behind that and a space is read as the total
and the values. -/
structure IsLabelled (line : List Char) (written : String) (r : Roll) : Prop where
  blank : ∀ c ∈ line, Text.isBlank c → c = ' '
  cut : ∃ text, r.render = .ok text ∧
    Text.cutFirst? (· == ':') line = some (written.toList, ':', ' ' :: text.toList) ∧
    Roll.read? text.toList = some (r.values.sum, r.values)

theorem isLabelled_lineBody (h : Expression.parse r.written = .ok e)
    (hrender : r.roll.render = .ok (String.ofList r.roll.chars)) :
    IsLabelled (lineBody true r) r.written r.roll where
  blank _ hc hblank := eq_space_of_isBlank h hc hblank
  cut := by
    refine ⟨_, hrender, ?_, ?_⟩
    · rw [String.toList_ofList, cutFirst?_lineBody h]
    · rw [String.toList_ofList, Roll.read?_chars hrender]

theorem readLine?_lineBody (h : Expression.parse r.written = .ok e)
    (hrender : r.roll.render = .ok text) :
    readLine? (lineBody true r) = some (r.written, r.roll.values) := by
  simp [readLine?, cutFirst?_lineBody h, Roll.read?_chars hrender]

/-- Labelled lines are read as what they were made of. -/
theorem readLines?_lines (hmany : 1 < rolled.length)
    (hread : ∀ r ∈ rolled, ∃ e, Expression.parse r.written = .ok e)
    (hrender : ∀ r ∈ rolled, r.roll.render = .ok (String.ofList r.roll.chars)) :
    readLines? (String.ofList (lines rolled)) =
      some (rolled.map fun r => (r.written, r.roll.values)) := by
  have hlines := newLine_notMem_written hread
  have hbodies : ∀ r ∈ rolled, readLine? (lineBody true r) = some (r.written, r.roll.values) := by
    intro r hr
    obtain ⟨e, he⟩ := hread r hr
    exact readLine?_lineBody he (hrender r hr)
  rw [readLines?, String.toList_ofList, splitOn_lines hlines, List.dropLast_concat,
    decide_eq_true hmany, mapM_map_eq_some hbodies]

/-- The rolls of printed lines have a text. -/
theorem render_roll_of_mem (h : render false rolled = .ok text) (hr : r ∈ rolled) :
    r.roll.render = .ok (String.ofList r.roll.chars) := by
  obtain ⟨hfits, _⟩ := Decimal.render_eq_ok_iff.1 h
  exact Decimal.render_eq_ok_iff.2 ⟨fun n hn => hfits n (List.mem_flatMap.2 ⟨r, hr, hn⟩), rfl⟩

end Output

namespace Invocation

variable {i : Invocation} {a : Arguments}

/-- **Labelled lines are taken apart**: let a run of several expressions
print lines and end with exit code 0.  Its expressions are accepted and
rolled in turn, and

* what it prints is a line for each expression, with no other line end or
  blank in it but spaces;
* cut at its first colon, a line gives the expression as it was written
  and, behind a space, the text of its roll, which is read as the values in
  order and their sum.

So what is printed is read as the expressions, each with the values of its
roll, and decides both. -/
theorem labelled_lines_read_back [Library] (harguments : Arguments.parse? i.arguments = some a)
    (hlines : a.json = false) (hmany : 1 < a.expressions.length) (hexit : i.run.exitCode = 0) :
    ∃ s es rolls, i.IsReady a s ∧
      IsBatch a.expressions ((a.seed.or s.seed).getD i.entropy) (a.trance.getD s.trance) es
        rolls ∧
      (∃ lines : List (List Char), i.run.stdout.toList.splitOn '\n' = lines ++ [[]] ∧
        lines.length = a.expressions.length ∧
        List.Forall₂ (fun line (written, r) => Output.IsLabelled line written r) lines
          (a.expressions.zip rolls)) ∧
      Output.readLines? i.run.stdout = some (a.expressions.zip (rolls.map Roll.values)) := by
  obtain ⟨s, hready⟩ := exists_isReady harguments hexit
  obtain ⟨es, rolls, hbatch, hrender⟩ := hready.exists_render hexit
  rw [hlines] at hrender
  obtain ⟨hexpressions, hrolls⟩ := hbatch.length_eq
  have hlength := Rolled.length_ofLists hexpressions hrolls
  have hpairs : (Rolled.ofLists a.expressions es rolls).map (fun r => (r.written, r.roll)) =
      a.expressions.zip rolls := Rolled.map_ofLists_written Prod.mk hrolls
  have hread := hbatch.exists_parse
  generalize Rolled.ofLists a.expressions es rolls = rolled at hrender hlength hpairs hread
  have htexts : ∀ r ∈ rolled, r.roll.render = .ok (String.ofList r.roll.chars) := fun r hr =>
    Output.render_roll_of_mem hrender hr
  have hstdout : i.run.stdout = String.ofList (Output.lines rolled) :=
    Output.eq_ofList_chars_of_render hrender
  have hmany' : 1 < rolled.length := by rwa [hlength]
  refine ⟨s, es, rolls, hready, hbatch, ⟨rolled.map (Output.lineBody true), ?_, ?_, ?_⟩, ?_⟩
  · rw [hstdout, String.toList_ofList, Output.splitOn_lines (Output.newLine_notMem_written hread),
      decide_eq_true hmany']
  · rw [List.length_map, hlength]
  · rw [← hpairs, List.forall₂_map_left_iff, List.forall₂_map_right_iff, List.forall₂_same]
    intro r hr
    obtain ⟨e, he⟩ := hread r hr
    exact Output.isLabelled_lineBody he (htexts r hr)
  · rw [hstdout, Output.readLines?_lines hmany' hread htexts, List.zip_map_right, ← hpairs,
      List.map_map]
    rfl

/-- Two expressions that share a generator, one of them with a space. -/
theorem labelled_lines_read_back_seven :
    Output.readLines? (⟨["2d6+1!4", "--seed=7", "2 d8"], {}, 0⟩ : Invocation).run.stdout =
      some [("2d6+1!4", [6, 4, 3, 1]), ("2 d8", [2, 2])] := by
  have hready : IsReady ⟨["2d6+1!4", "--seed=7", "2 d8"], {}, 0⟩
      ⟨["2d6+1!4", "2 d8"], none, some 7, false, false⟩ {} :=
    ⟨⟨rfl, by decide +kernel⟩, rfl, rfl⟩
  obtain ⟨hexit, _⟩ := hready.run_of_isBatch rfl isBatch_seven render_seven
  obtain ⟨s, es, rolls, hready', hbatch, _, hread⟩ :=
    labelled_lines_read_back hready.arguments rfl (by decide) hexit
  obtain rfl := Except.ok.inj (hready.settings.symm.trans hready'.settings)
  obtain ⟨_, rfl⟩ := isBatch_seven.unique hbatch
  exact hread

end Invocation

end Dicebag
