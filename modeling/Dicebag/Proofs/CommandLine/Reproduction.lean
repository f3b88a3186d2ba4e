import Dicebag.Proofs.CommandLine.Batches
import Dicebag.Proofs.Roll.Reading

/-!
# Dicebag.Proofs.CommandLine.Reproduction

A document reproduces itself.  Each of its records tells an expression in
canonical form; a run with these texts in the places of its expressions, and
the same seed, comes to the same (`Invocation.document_reproduces`).

Two things carry this.  Arguments have places for expressions, and what is
read of the others does not depend on the texts in these places
(`Arguments.HasPlaces`, by induction over the arguments, one lemma for each
kind of option).  And behind the arguments only what the expressions are read
as counts: a document does not show how they were written
(`Output.render_document`).
-/

namespace Dicebag

namespace Arguments

/-! ## Other texts for the expressions -/

/-- The arguments with other texts in the places of the expressions. -/
def replaceExpressions : List String → List String → List String
  | [], _ => []
  | argument :: rest, texts =>
    match Shape.ofChars argument.toList with
    | .expression =>
      match texts with
      | [] => argument :: replaceExpressions rest []
      | text :: texts => text :: replaceExpressions rest texts
    | .terminator => argument :: texts
    | .named name none =>
      if name = "seed".toList then
        match rest with
        | [] => [argument]
        | value :: rest => argument :: value :: replaceExpressions rest texts
      else argument :: replaceExpressions rest texts
    | .letters _ | .named _ (some _) => argument :: replaceExpressions rest texts

/-- The draft with other expressions. -/
def Draft.withExpressions (draft : Draft) (expressions : List String) : Draft :=
  { draft with expressions }

variable {argument : String} {arguments texts new rest front : List String} {a : Arguments}
  {draft before after result : Draft}

/-- An option in front of other arguments takes a draft to the next, whatever
expressions there are, and it is kept where expressions are replaced. -/
structure IsOption (front : List String) (before after : Draft) : Prop where
  expressions : after.expressions = before.expressions
  read : ∀ es rest, readFrom (before.withExpressions es) (front ++ rest) =
    readFrom (after.withExpressions es) rest
  kept : ∀ rest texts, replaceExpressions (front ++ rest) texts =
    front ++ replaceExpressions rest texts

/-- Arguments that are read have places for expressions, and other texts in
these are read in place of them. -/
structure HasPlaces (arguments : List String) (before after : Draft) (new : List String) :
    Prop where
  expressions : after.expressions = new.reverse ++ before.expressions
  read : ∀ texts : List String, texts.length = new.length →
    (∀ text ∈ texts, Shape.ofChars text.toList = .expression) → ∀ es,
      readFrom (before.withExpressions es) (replaceExpressions arguments texts) =
        some (after.withExpressions (texts.reverse ++ es))

namespace IsOption

theorem hasPlaces (h : IsOption front before after)
    (hrest : HasPlaces rest after result new) : HasPlaces (front ++ rest) before result new where
  expressions := h.expressions ▸ hrest.expressions
  read texts hlength hshapes es := by rw [h.kept, h.read, hrest.read texts hlength hshapes es]

theorem of_letters {letters : List Char}
    (hshape : Shape.ofChars argument.toList = .letters letters)
    (hletters : letters.all (· == 'v')) :
    IsOption [argument] draft { draft with verbose := true } where
  expressions := rfl
  read es rest := by
    rw [List.singleton_append, readFrom.eq_def]
    simp only [hshape, hletters]
    rfl
  kept rest texts := by
    rw [List.singleton_append, replaceExpressions.eq_def]
    simp only [hshape, List.singleton_append]

theorem of_seed_value {seed : List Char}
    (hshape : Shape.ofChars argument.toList = .named "seed".toList (some seed)) :
    IsOption [argument] draft { draft with seed := some seed } where
  expressions := rfl
  read es rest := by
    rw [List.singleton_append, readFrom.eq_def]
    simp only [hshape]
    rfl
  kept rest texts := by
    rw [List.singleton_append, replaceExpressions.eq_def]
    simp only [hshape, List.singleton_append]

theorem of_seed (hshape : Shape.ofChars argument.toList = .named "seed".toList none)
    (value : String) :
    IsOption [argument, value] draft { draft with seed := some value.toList } where
  expressions := rfl
  read es rest := by
    rw [List.cons_append, readFrom.eq_def]
    simp only [hshape]
    rfl
  kept rest texts := by
    rw [List.cons_append, replaceExpressions.eq_def]
    simp only [hshape]
    rfl

theorem of_switch {name : List Char} (hshape : Shape.ofChars argument.toList = .named name none)
    (hname : name ≠ "seed".toList) (hswitch : draft.switch? name = some after) :
    IsOption [argument] draft after where
  expressions := by
    unfold Draft.switch? at hswitch
    split_ifs at hswitch <;> cases hswitch <;> rfl
  read es rest := by
    have hother : (draft.withExpressions es).switch? name = some (after.withExpressions es) := by
      unfold Draft.switch? at hswitch ⊢
      split_ifs at hswitch ⊢ <;> cases hswitch <;> rfl
    rw [List.singleton_append, readFrom.eq_def]
    simp only [hshape, if_neg hname, hother]
  kept rest texts := by
    rw [List.singleton_append, replaceExpressions.eq_def]
    simp only [hshape, if_neg hname, List.singleton_append]

end IsOption

/-- Arguments that are read have places for the expressions among them. -/
theorem exists_hasPlaces (h : readFrom draft arguments = some result) :
    ∃ new, HasPlaces arguments draft result new := by
  -- one case for each shape of the first argument; what is refused has none
  fun_induction readFrom draft arguments with
  | case1 draft =>
    cases h
    refine ⟨[], rfl, fun texts hlength _ es => ?_⟩
    obtain rfl := List.length_eq_zero_iff.1 hlength
    rfl
  | case2 draft argument rest hshape ih =>
    obtain ⟨new, hnew, hread⟩ := ih h
    refine ⟨argument :: new, by simp [hnew], fun texts hlength hshapes es => ?_⟩
    obtain ⟨text, texts, rfl⟩ := List.exists_cons_of_length_eq_add_one hlength
    obtain ⟨htext, hshapes⟩ := List.forall_mem_cons.1 hshapes
    have hrest := hread texts (Nat.succ.inj hlength) hshapes (text :: es)
    rw [replaceExpressions.eq_def]
    simp only [hshape]
    rw [readFrom.eq_def]
    simp only [htext, List.reverse_cons, List.append_assoc, List.singleton_append]
    exact hrest
  | case3 draft argument rest hshape =>
    cases h
    refine ⟨rest, rfl, fun texts _ _ es => ?_⟩
    rw [replaceExpressions.eq_def]
    simp only [hshape]
    rw [readFrom.eq_def]
    simp only [hshape]
    rfl
  | case4 draft argument rest letters hshape hletters ih =>
    obtain ⟨new, hplaces⟩ := ih h
    exact ⟨new, (IsOption.of_letters hshape hletters).hasPlaces hplaces⟩
  | case6 draft argument rest value hshape ih =>
    obtain ⟨new, hplaces⟩ := ih h
    exact ⟨new, (IsOption.of_seed_value hshape).hasPlaces hplaces⟩
  | case9 draft argument value rest hshape ih =>
    obtain ⟨new, hplaces⟩ := ih h
    exact ⟨new, (IsOption.of_seed hshape value).hasPlaces hplaces⟩
  | case10 draft argument rest name hshape hname switched hswitch ih =>
    obtain ⟨new, hplaces⟩ := ih h
    exact ⟨new, (IsOption.of_switch hshape hname hswitch).hasPlaces hplaces⟩
  | case5 | case7 | case8 | case11 => contradiction

theorem ofDraft_eq_some [Library] (h : ofDraft draft = some a) :
    a.expressions = draft.expressions.reverse ∧ ∀ texts : List String, texts ≠ [] →
      ofDraft (draft.withExpressions texts.reverse) = some { a with expressions := texts } := by
  unfold ofDraft at h ⊢
  simp only [Draft.withExpressions, List.reverse_eq_nil_iff, List.reverse_reverse]
  split at h
  · contradiction
  · split at h
    · cases h
      exact ⟨rfl, fun texts hne => by simp [*]⟩
    · split at h
      · contradiction
      · cases h
        exact ⟨rfl, fun texts hne => by simp [*]⟩

/-- Arguments that are accepted have a place for each expression. -/
theorem exists_hasPlaces_of_parse? [Library] (h : parse? arguments = some a) :
    ∃ result, ofDraft result = some a ∧ HasPlaces arguments {} result a.expressions := by
  obtain ⟨result, hread, hdraft⟩ := Option.bind_eq_some_iff.1 h
  obtain ⟨new, hplaces⟩ := exists_hasPlaces hread
  have hnew : a.expressions = new := by
    rw [(ofDraft_eq_some hdraft).1, hplaces.expressions]
    simp
  exact ⟨result, hdraft, hnew ▸ hplaces⟩

/-- Arguments with other texts for their expressions ask for these, and for
the rest as before. -/
theorem parse?_replaceExpressions [Library] (h : parse? arguments = some a)
    (hlength : texts.length = a.expressions.length)
    (hshapes : ∀ text ∈ texts, Shape.ofChars text.toList = .expression) :
    parse? (replaceExpressions arguments texts) = some { a with expressions := texts } := by
  obtain ⟨result, hdraft, hplaces⟩ := exists_hasPlaces_of_parse? h
  have hne : texts ≠ [] := by
    rintro rfl
    exact expressions_ne_nil_of_parse? h (List.length_eq_zero_iff.1 hlength.symm)
  have hread := hplaces.read texts hlength hshapes []
  rw [List.append_nil] at hread
  exact Option.bind_eq_some_iff.2 ⟨_, hread, (ofDraft_eq_some hdraft).2 texts hne⟩

theorem Shape.ofChars_eq_expression {text : List Char} (h : text.head? ≠ some '-') :
    ofChars text = .expression := by
  unfold ofChars
  split <;> simp_all

end Arguments

/-! ## Canonical texts -/

namespace Expression

variable {text : String} {e : Expression}

/-- The canonical text of an expression that was read does not look like an
option. -/
theorem shape_chars (h : parse text = .ok e) : Arguments.Shape.ofChars e.chars = .expression := by
  have hcount : 0 ≤ e.count := (spelling_of_ofChars h).count_nonneg
  have hhead := Decimal.head?_natural_ne_minus e.count.natAbs
  obtain ⟨c, digits, hdigits⟩ := List.exists_cons_of_ne_nil (Decimal.natural_ne_nil e.count.natAbs)
  rw [Arguments.Shape.ofChars_eq_expression]
  rw [chars, Decimal.integer_of_nonneg hcount]
  simp_all

/-- Expressions that were read are read from their canonical texts, and these
do not look like options. -/
theorem canonical_texts {written : List String} {es : List Expression}
    (h : List.Forall₂ (fun text e => parse text = .ok e) written es) :
    List.Forall₂ (fun text e => parse text = .ok e) (es.map fun e => String.ofList e.chars) es ∧
      ∀ text ∈ es.map fun e => String.ofList e.chars,
        Arguments.Shape.ofChars text.toList = .expression := by
  have hparse : ∀ e ∈ es, parse (String.ofList e.chars) = .ok e ∧
      Arguments.Shape.ofChars e.chars = .expression :=
    forall_mem_of_forall₂ h.flip fun e text he => ⟨parse_ofList_chars he, shape_chars he⟩
  rw [List.forall₂_map_left_iff, List.forall₂_same, List.forall_mem_map]
  exact ⟨fun e he => (hparse e he).1, fun e he => String.toList_ofList ▸ (hparse e he).2⟩

end Expression

/-! ## Documents without the expressions as they were written -/

namespace Output

variable {written : List String} {es : List Expression} {rolls : List Roll}

/-- A document shows what the expressions were read as, not how they were
written. -/
theorem render_document (h : written.length = es.length) :
    render true (Rolled.ofLists written es rolls) =
      render true (es.zipWith (Rolled.mk "") rolls) := by
  have hmap : ∀ {α : Type} (f : Rolled → α), (∀ r, f r = f ⟨"", r.expression, r.roll⟩) →
      (Rolled.ofLists written es rolls).map f = (es.zipWith (Rolled.mk "") rolls).map f := by
    intro α f hf
    rw [List.map_zipWith, ← Rolled.map_ofLists_expression (fun e r => f ⟨"", e, r⟩) h]
    exact List.map_congr_left fun r _ => hf r
  have hnumbers : documentNumbers (Rolled.ofLists written es rolls) =
      documentNumbers (es.zipWith (Rolled.mk "") rolls) := by
    rw [documentNumbers, documentNumbers, List.flatMap_def, List.flatMap_def]
    exact congrArg List.flatten (hmap _ fun _ => rfl)
  have hdocument : document (Rolled.ofLists written es rolls) =
      document (es.zipWith (Rolled.mk "") rolls) := by
    rw [document, document, hmap record fun _ => rfl]
  rw [render, if_pos rfl, render, if_pos rfl, hnumbers, hdocument]

end Output

namespace Json

/-- The value of a field of a record. -/
def field? (name : String) : Json → Option Json
  | .object fields => fields.lookup name
  | _ => none

theorem map_field?_expression {texts : List String} {rolls : List Roll}
    (h : texts.length = rolls.length) :
    (texts.zipWith ofRoll rolls).map (field? "expression") = texts.map fun t => some (.text t) := by
  calc
    (texts.zipWith ofRoll rolls).map (field? "expression")
      = texts.zipWith (fun t _ => some (.text t)) rolls := by
        rw [List.map_zipWith]
        rfl
    _ = ((texts.zip rolls).map Prod.fst).map fun t => some (.text t) := by
        rw [← List.map_uncurry_zip_eq_zipWith, List.map_map]
        rfl
    _ = texts.map fun t => some (.text t) := by rw [List.map_fst_zip h.le]

end Json

/-! ## Runs -/

namespace Invocation

variable {i : Invocation} {a : Arguments} {s : Settings} {n : Int}

/-- The invocation with other texts for its expressions, and another seed to
use where none is given. -/
def withExpressions (i : Invocation) (texts : List String) (entropy : Int) : Invocation :=
  ⟨Arguments.replaceExpressions i.arguments texts, i.workspace, entropy⟩

/-- What a document is printed for does not matter beyond the numbers of
expressions; the log depends on the options only. -/
theorem conclude_withExpressions {texts : List String} {es : List Expression} {rolls : List Roll}
    (hjson : a.json = true) (hwritten : a.expressions.length = es.length)
    (htexts : texts.length = es.length) (warnings : List LogRecord) (entries : List LogEntry) :
    conclude { a with expressions := texts } s warnings es rolls entries =
      conclude a s warnings es rolls entries := by
  rw [conclude, conclude, hjson, Output.render_document hwritten, Output.render_document htexts]
  rfl

/-- **A document reproduces itself**: let a run with a seed print a document
and end with exit code 0.  The document has a record for each expression,
and the texts that the records tell for these, in the places of the
expressions, are accepted together with the same options.  The run with
them comes to the same, exit code 0 and the document, character by character,
whatever seed it would use if none were given. -/
theorem document_reproduces [Library] (harguments : Arguments.parse? i.arguments = some a)
    (hjson : a.json = true)
    (hsettings : Settings.ofEnvironment i.workspace.load.environment = .ok s)
    (hseed : a.seed.or s.seed = some n) (hexit : i.run.exitCode = 0) :
    ∃ (records : List Json) (texts : List String),
      Json.read? i.run.stdout = some (.array records) ∧
      texts.length = a.expressions.length ∧
      records.map (Json.field? "expression") = texts.map (fun t => some (.text t)) ∧
      Arguments.parse? (Arguments.replaceExpressions i.arguments texts) =
        some { a with expressions := texts } ∧
      ∀ entropy, (i.withExpressions texts entropy).run = i.run := by
  obtain ⟨s', hready⟩ := exists_isReady harguments hexit
  obtain rfl : s = s' := Except.ok.inj (hsettings.symm.trans hready.settings)
  obtain ⟨es, rolls, t, hread, hrolls⟩ := hready.exists_run_rollAll hexit
  obtain ⟨hfaces, hrun⟩ := hready.run_of_rolled hread hrolls
  have hstdout : i.run.stdout = a.output es rolls := by
    rw [hrun] at hexit ⊢
    exact Output.eq_ofList_chars_of_render (render_of_conclude hexit)
  have hdocument := read?_output (isBatch_of_run_rollAll hread hrolls) hjson
  obtain ⟨hread', hshapes⟩ := Expression.canonical_texts hread
  generalize es.map (fun e => String.ofList e.chars) = texts at hread' hshapes hdocument
  have hlength : texts.length = a.expressions.length :=
    hread'.length_eq.trans hread.length_eq.symm
  have harguments' := Arguments.parse?_replaceExpressions harguments hlength hshapes
  refine ⟨texts.zipWith Json.ofRoll rolls, texts, hstdout ▸ hdocument, hlength,
    Json.map_field?_expression (hread'.length_eq.trans hfaces.length_eq), harguments',
    fun entropy => ?_⟩
  have hready' : (i.withExpressions texts entropy).IsReady { a with expressions := texts } s :=
    ⟨⟨hready.completion, harguments'⟩, hready.refusal, hready.settings⟩
  rw [Arguments.source_eq_of_seed hseed hseed i.entropy entropy] at hrolls
  obtain ⟨_, hrun'⟩ := hready'.run_of_rolled hread' hrolls
  rw [hrun', hrun]
  exact conclude_withExpressions hjson hread.length_eq hread'.length_eq _ _

/-- Two expressions that share a generator, one of them with a space that the
document does not show. -/
theorem document_reproduces_seven :
    (⟨["--json", "2d6+1!4", "--seed=7", "2d8"], {}, 5⟩ : Invocation).run =
      (⟨["--json", "2d6+1!4", "--seed=7", "2 d8"], {}, 0⟩ : Invocation).run := by
  have hready : IsReady ⟨["--json", "2d6+1!4", "--seed=7", "2 d8"], {}, 0⟩
      ⟨["2d6+1!4", "2 d8"], none, some 7, true, false⟩ {} :=
    ⟨⟨rfl, by decide +kernel⟩, rfl, rfl⟩
  obtain ⟨hexit, hstdout⟩ := hready.run_of_isBatch rfl isBatch_seven render_seven
  obtain ⟨records, texts, hread, _, hfields, _, hrun⟩ :=
    document_reproduces hready.arguments rfl hready.settings rfl hexit
  have htexts : texts = ["2d6+1!4", "2d8"] := by
    rw [hstdout, read?_output (s := {}) isBatch_seven rfl] at hread
    cases hread
    rw [Json.map_field?_expression rfl] at hfields
    have hinjective : Function.Injective fun t => some (Json.text t) :=
      fun _ _ h => Json.text.inj (Option.some.inj h)
    rw [← List.map_injective_iff.2 hinjective hfields]
    decide +kernel
  rw [← hrun 5, htexts]
  rfl

end Invocation

end Dicebag
