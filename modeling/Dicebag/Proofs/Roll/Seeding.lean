import Dicebag.Proofs.Expression.Grammar
import Dicebag.Proofs.Roll.Accounting
import Dicebag.Proofs.Source.Seeds

/-!
# Dicebag.Proofs.Roll.Seeding

Rolls on a generator.  Unlike a script, a generator keeps to the bounds it
is asked for, so whatever it yields for a die is one of its faces
(`Source.IsSeeded.of_yields`), and so is every value that a roll comes to
(`Expression.IsFaces.of_run_roll`).  For a die of less than 2³² faces it comes
from the generator's words one by one, each of them a face or a miss
(`Source.Yields.of_first`).

A roll asks its source for nothing but the values it draws, so a script of
what the generator yielded is rolled to the same (`exists_run_roll_script`),
and the other way round (`exists_run_roll_of_yields`).
Together with what every roll of an expression that was read has in common,
this is what there is to know of a text that is rolled with a seed
(`rollText_well_formed`).
-/

namespace Dicebag

/-! ## Sources that keep to the bounds -/

/-- The source is a generator. -/
def Source.IsSeeded : Source → Prop
  | .script _ => False
  | .seeded _ _ _ => True

namespace Source.IsSeeded

variable {lo hi value : Int} {s s' : Source} {values : List Int}

theorem ofSeed (seed : Int) (limit : Nat) : (Source.ofSeed seed limit).IsSeeded := trivial

theorem of_draw (hs : s.IsSeeded) (h : s.draw lo hi = .ok (value, s')) :
    s'.IsSeeded ∧ lo ≤ value ∧ value ≤ hi := by
  cases s with
  | script items => exact hs.elim
  | seeded generator limit left =>
    refine ⟨?_, mem_range_of_draw_seeded h⟩
    cases left with
    | zero => cases h
    | succ left =>
      simp only [draw] at h
      split at h
      · cases h
      · split at h
        · cases h
        · cases h
          trivial

theorem of_yields (hs : s.IsSeeded) (h : s.Yields lo hi values s') :
    s'.IsSeeded ∧ ∀ v ∈ values, lo ≤ v ∧ v ≤ hi := by
  induction h with
  | nil => exact ⟨hs, fun _ hv => absurd hv List.not_mem_nil⟩
  | cons hdraw _ ih =>
    obtain ⟨hs, hvalue⟩ := hs.of_draw hdraw
    obtain ⟨hs, hvalues⟩ := ih hs
    exact ⟨hs, List.forall_mem_cons.2 ⟨hvalue, hvalues⟩⟩

end Source.IsSeeded

/-! ## Values that words come to -/

namespace Source

/-- The face that a word comes to, unless it misses. -/
def face? (faces : Nat) (word : UInt32) : Option Int :=
  let n := word.toNat >>> (31 - faces.log2)
  if n < faces then some (1 + n) else none

variable {faces limit left : Nat} {g : Twister} {value : Int}

theorem face?_word (hnarrow : faces.log2 < 32) (g : Twister) :
    face? faces (g.word 0) =
      if g.attempt faces 0 < faces then some (1 + (g.attempt faces 0 : Int)) else none := by
  rw [Twister.attempt_zero_of_lt hnarrow]
  rfl

theorem draw_of_face?_eq_some (hnarrow : faces.log2 < 32)
    (hface : face? faces (g.word 0) = some value) :
    draw 1 faces (.seeded g limit (left + 1)) = .ok (value, .seeded (g.skip 1) limit left) := by
  have hwidth : ((faces : Int) - 1 + 1).toNat = faces := by omega
  rw [face?_word hnarrow, Option.ite_none_right_eq_some] at hface
  obtain ⟨hlt, hvalue⟩ := hface
  obtain rfl := Option.some.inj hvalue
  rw [draw, if_neg (by omega), hwidth, Twister.below?_of_lt hlt, Twister.span_of_lt hnarrow]

/-- A word that misses is passed over. -/
theorem draw_of_face?_eq_none (hnarrow : faces.log2 < 32)
    (hface : face? faces (g.word 0) = none) :
    draw 1 faces (.seeded g limit left) = draw 1 faces (.seeded (g.skip 1) limit left) := by
  have hwidth : ((faces : Int) - 1 + 1).toNat = faces := by omega
  have hmiss : faces ≤ g.attempt faces 0 := by
    rw [face?_word hnarrow, ite_eq_right_iff] at hface
    exact Nat.le_of_not_lt fun hlt => absurd (hface hlt) (Option.some_ne_none _)
  cases left with
  | zero => rfl
  | succ left =>
    rw [draw, draw, hwidth, Twister.below?_of_le hmiss, Twister.span_of_lt hnarrow]

theorem Yields.of_draw_eq {lo hi : Int} {s s' s'' : Source} {values : List Int}
    (hdraw : s.draw lo hi = s'.draw lo hi) (hvalues : values ≠ [])
    (h : s'.Yields lo hi values s'') : s.Yields lo hi values s'' := by
  cases h with
  | nil => exact absurd rfl hvalues
  | cons hfirst hrest => exact .cons (hdraw.trans hfirst) hrest

/-- Words of which the last does not miss are yielded as the faces that they come
to. -/
theorem Yields.of_first (hnarrow : faces.log2 < 32) (n : Nat)
    (hlast : ∀ word ∈ (g.first n).getLast?, face? faces word ≠ none) :
    (seeded g limit (left + ((g.first n).filterMap (face? faces)).length)).Yields 1 faces
      ((g.first n).filterMap (face? faces)) (.seeded (g.skip n) limit left) := by
  induction n generalizing g with
  | zero => exact .nil
  | succ n ih =>
    rw [Twister.first_succ] at hlast ⊢
    have hrest : ∀ word ∈ ((g.skip 1).first n).getLast?, face? faces word ≠ none := by
      intro word hword
      refine hlast word ?_
      rw [List.getLast?_cons, Option.mem_def.1 hword]
      rfl
    have hyields := ih hrest
    rw [← Twister.skip_add, Nat.add_comm 1 n] at hyields
    cases hface : face? faces (g.word 0) with
    | some value =>
      rw [List.filterMap_cons_some hface, List.length_cons, ← Nat.add_assoc]
      exact .cons (draw_of_face?_eq_some hnarrow hface) hyields
    | none =>
      rw [List.filterMap_cons_none hface]
      refine hyields.of_draw_eq (draw_of_face?_eq_none hnarrow hface) fun hnil => ?_
      have hmisses : ∀ word ∈ g.word 0 :: (g.skip 1).first n, face? faces word = none :=
        List.filterMap_eq_nil_iff.1 ((List.filterMap_cons_none hface).trans hnil)
      have hend := hlast _ (List.getLast?_eq_some_getLast (List.cons_ne_nil _ _))
      exact hend (hmisses _ (List.getLast_mem _))

/-- The same of a generator that is seeded with a number of one digit, some words
further on: what its words come to is computed. -/
theorem Yields.of_seed {seed : Int} {m n : Nat} {thrown : List (Option Int)}
    (hseed : seed.natAbs < 0x100000000) (hnarrow : faces.log2 < 32) (hn : m + n ≤ 227)
    (hthrown : ((List.range' m n).map
      (Twister.wordOf (Twister.seedWords (UInt32.ofNat seed.natAbs)))).map (face? faces) = thrown)
    (hlast : none ∉ thrown.getLast?) (hleft : (thrown.filterMap id).length ≤ left) :
    (seeded ((Twister.ofSeed seed).skip m) limit left).Yields 1 faces (thrown.filterMap id)
      (.seeded ((Twister.ofSeed seed).skip (m + n)) limit
        (left - (thrown.filterMap id).length)) := by
  obtain ⟨left, rfl⟩ := Nat.exists_eq_add_of_le' hleft
  rw [← Twister.first_skip_ofSeed hseed hn] at hthrown
  obtain rfl := hthrown
  rw [List.filterMap_map, Function.id_comp, Twister.skip_add, Nat.add_sub_cancel]
  refine .of_first hnarrow n fun word hword hmiss => hlast ?_
  rw [List.getLast?_map, Option.mem_def.1 hword, Option.map_some, hmiss]
  rfl

end Source

/-! ## Values of a roll -/

namespace Expression

/-- Every value of the roll is a face of a die of the expression. -/
def IsFaces (e : Expression) (r : Roll) : Prop := ∀ v ∈ r.values, 1 ≤ v ∧ v ≤ e.faces

variable {e : Expression} {mode : RollMode} {t t' : Table} {r : Roll}

theorem IsFaces.of_run_roll (hs : t.source.IsSeeded) (h : (e.roll mode).run t = .ok r t') :
    t'.source.IsSeeded ∧ e.IsFaces r := by
  obtain ⟨pool, chains, _, hr, hdealt⟩ := run_roll_eq_ok_iff.1 h
  obtain ⟨hs', hdraws⟩ := hs.of_yields hdealt.yields
  refine ⟨hs', fun v hv => hdraws v ?_⟩
  rw [hr] at hv
  obtain hkept | hchained := List.mem_append.1 ((descending_perm _).mem_iff.1 hv)
  · exact List.mem_append_left _ (mem_of_mem_window hkept)
  · exact List.mem_append_right _ hchained

theorem IsFaces.total_nonneg (h : e.IsFaces r) : 0 ≤ r.total := by
  rw [Roll.total_eq_sum]
  exact List.sum_nonneg fun v hv => Int.le_trans (by decide) (h v hv).1

/-- Every value adds at least one to the total, and at most the highest
face. -/
theorem IsFaces.total_bounds (h : e.IsFaces r) :
    (r.values.length : Int) ≤ r.total ∧ r.total ≤ r.values.length * e.faces := by
  rw [Roll.total_eq_sum]
  constructor
  · have hlow := List.card_nsmul_le_sum r.values 1 fun v hv => (h v hv).1
    rwa [nsmul_one] at hlow
  · have hhigh := List.sum_le_card_nsmul r.values e.faces fun v hv => (h v hv).2
    rwa [nsmul_eq_mul] at hhigh

/-! ## Rolls of the same draws -/

/-- A roll is the roll of a script that holds the values it drew, and draws
that script to its end. -/
theorem exists_run_roll_script (h : (e.roll mode).run t = .ok r t') :
    ∃ draws, t.source.Yields 1 e.faces draws t'.source ∧
      t'.calls = List.replicate draws.length ⟨1, e.faces⟩ ++ t.calls ∧
      ∃ u, (e.roll mode).run (.ofSource (.script draws)) = .ok r u ∧ u.source = .script [] := by
  obtain ⟨pool, chains, hroll, hr, hdealt⟩ := run_roll_eq_ok_iff.1 h
  have hscript := run_roll_script_eq_ok_iff.2
    ⟨pool, chains, [], hroll, (List.append_nil _).symm, hr, rfl⟩
  exact ⟨pool ++ chains.flatten, hdealt.yields, hdealt.calls, _, hscript, rfl⟩

/-- What a script is rolled to, to its last item, comes of any source that yields
the items. -/
theorem exists_run_roll_of_yields {draws : List Int} {s s' : Source} {u : Table}
    (hyields : s.Yields 1 e.faces draws s')
    (h : (e.roll mode).run (.ofSource (.script draws)) = .ok r u) (hend : u.source = .script []) :
    ∃ t, (e.roll mode).run (.ofSource s) = .ok r t ∧ t.source = s' := by
  obtain ⟨pool, chains, rest, hroll, rfl, hr, rfl⟩ := run_roll_script_eq_ok_iff.1 h
  obtain rfl := Source.script.inj hend
  rw [List.append_nil] at hyields
  exact ⟨⟨s', _, _⟩, run_roll_eq_ok_iff.2 ⟨pool, chains, hroll, hr, hyields, rfl, rfl⟩, rfl⟩

/-- As many values of a roll as dice are asked for end a chain. -/
theorem countP_ends_of_run_roll (hcount : 0 ≤ e.count) (h : (e.roll mode).run t = .ok r t') :
    (r.values.countP (fun v => !e.explodes mode v) : Int) = e.count := by
  obtain ⟨pool, chains, hroll, hr, _⟩ := run_roll_eq_ok_iff.1 h
  rw [hr, (descending_perm _).countP_eq, hroll.countP_ends, hroll.length_window hcount]

theorem pairwise_of_run_roll (h : (e.roll mode).run t = .ok r t') :
    r.values.Pairwise (· ≥ ·) := by
  obtain ⟨_, _, _, hr, _⟩ := run_roll_eq_ok_iff.1 h
  rw [hr]
  exact pairwise_descending _

end Expression

/-! ## Rolls with the seed seven -/

/-- The dice of `2d6+1!4`: the lowest of three is dropped, and one explodes. -/
theorem exists_run_roll_seven :
    ∃ t, ((⟨2, 6, 1, some 4, by decide, by decide⟩ : Expression).roll {}).run
        (.ofSource (.ofSeed 7 Source.ample)) = .ok ⟨[6, 4, 3, 1]⟩ t ∧
      t.source = .seeded ((Twister.ofSeed 7).skip 6) Source.ample (Source.ample - 5) := by
  have hthrown : ((List.range' 0 6).map
      (Twister.wordOf (Twister.seedWords (UInt32.ofNat (7 : Int).natAbs)))).map (Source.face? 6) =
        [some 3, none, some 2, some 4, some 6, some 1] := by decide +kernel
  have hyields : (Source.ofSeed 7 Source.ample).Yields 1 6 [3, 2, 4, 6, 1]
      (.seeded ((Twister.ofSeed 7).skip 6) Source.ample (Source.ample - 5)) :=
    .of_seed (m := 0) (n := 6) (by decide) (by decide) (by decide) hthrown (by decide) (by decide)
  have hscript : ((⟨2, 6, 1, some 4, by decide, by decide⟩ : Expression).roll {}).run
      (.ofSource (.script [3, 2, 4, 6, 1])) =
        .ok ⟨[6, 4, 3, 1]⟩ ⟨.script [], List.replicate 5 ⟨1, 6⟩, []⟩ := by cbv
  exact Expression.exists_run_roll_of_yields hyields hscript rfl

/-! ## Texts rolled with a seed -/

/-- A text is rolled with a seed if it reads as an expression that is rolled
on the generator of the seed. -/
theorem rollText_eq_ok_iff {text : String} {seed : Int} {trance : Bool} {r : Roll} :
    rollText text seed trance = .ok r ↔
      ∃ e t, Expression.parse text = .ok e ∧
        (e.roll { trance }).run (.ofSource (.ofSeed seed Source.ample)) = .ok r t := by
  unfold rollText
  cases hread : Expression.parse text with
  | error err => simp
  | ok e =>
    cases hrun : (e.roll { trance }).run (.ofSource (.ofSeed seed Source.ample)) with
    | error err t => simp [hrun]
    | ok s t => simp [hrun]

/-- **Rolls with a seed**: the values are faces of the die, highest first,
and as many of them are below the threshold as dice are asked for; each of
these adds at least one to the total and none more than the highest face.
The values that the generator yielded make a script that is rolled to the
same, to its last item. -/
theorem rollText_well_formed {text : String} {seed : Int} {trance : Bool} {e : Expression}
    {r : Roll} (hread : Expression.parse text = .ok e) (h : rollText text seed trance = .ok r) :
    (∀ v ∈ r.values, 1 ≤ v ∧ v ≤ e.faces) ∧ r.values.Pairwise (· ≥ ·) ∧
      (match (e.die { trance }).effective e.threshold with
        | none => (r.values.length : Int) = e.count
        | some lowest => (r.values.countP (· < lowest) : Int) = e.count) ∧
      e.count ≤ r.total ∧ r.total ≤ r.values.length * e.faces ∧
      ∃ t draws, (e.roll { trance }).run (.ofSource (.ofSeed seed Source.ample)) = .ok r t ∧
        (Source.ofSeed seed Source.ample).Yields 1 e.faces draws t.source ∧
        t.calls = List.replicate draws.length ⟨1, e.faces⟩ ∧
        ∃ u, (e.roll { trance }).run (.ofSource (.script draws)) = .ok r u ∧
          u.source = .script [] := by
  obtain ⟨_, t, hread', hrun⟩ := rollText_eq_ok_iff.1 h
  obtain rfl := Except.ok.inj (hread.symm.trans hread')
  have hcount : 0 ≤ e.count := (spelling_of_ofChars hread).count_nonneg
  have hends := Expression.countP_ends_of_run_roll hcount hrun
  obtain ⟨_, hfaces⟩ := Expression.IsFaces.of_run_roll (Source.IsSeeded.ofSeed _ _) hrun
  obtain ⟨hlow, hhigh⟩ := hfaces.total_bounds
  have hle : e.count ≤ r.values.length := by
    rw [← hends]
    exact_mod_cast List.countP_le_length
  obtain ⟨draws, hyields, hcalls, hscript⟩ := Expression.exists_run_roll_script hrun
  refine ⟨hfaces, Expression.pairwise_of_run_roll hrun, ?_, Int.le_trans hle hlow, hhigh,
    t, draws, hrun, hyields, ?_, hscript⟩
  · split
    · next hnone =>
      simpa only [Die.explodesAt_of_none hnone, Bool.not_false, List.countP_true] using hends
    · next lowest hsome =>
      simpa only [Die.explodesAt_of_some hsome, ← decide_not, Int.not_le] using hends
  · simpa [Table.ofSource] using hcalls

/-- Five dice on the generator of a seed, two of them for an explosion. -/
theorem rollText_well_formed_seven :
    rollText "2d6+1!4" 7 false = .ok ⟨[6, 4, 3, 1]⟩ ∧
      ([6, 4, 3, 1] : List Int).countP (· < 4) = 2 ∧
      ∃ t draws, (Source.ofSeed 7 Source.ample).Yields 1 6 draws t ∧
        ∃ u, ((⟨2, 6, 1, some 4, by decide, by decide⟩ : Expression).roll {}).run
          (.ofSource (.script draws)) = .ok ⟨[6, 4, 3, 1]⟩ u ∧ u.source = .script [] := by
  have hread : Expression.parse "2d6+1!4" = .ok ⟨2, 6, 1, some 4, by decide, by decide⟩ := by
    decide
  obtain ⟨t, hroll, _⟩ := exists_run_roll_seven
  have hrun : rollText "2d6+1!4" 7 false = .ok ⟨[6, 4, 3, 1]⟩ :=
    rollText_eq_ok_iff.2 ⟨_, t, hread, hroll⟩
  obtain ⟨_, _, hends, _, _, t, draws, _, hyields, _, hscript⟩ := rollText_well_formed hread hrun
  exact ⟨hrun, Int.ofNat_inj.1 hends, t.source, draws, hyields, hscript⟩

end Dicebag
