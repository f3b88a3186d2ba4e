import Dicebag.CommandLine.Run
import Dicebag.Proofs.Expression.RoundTrip
import Dicebag.Proofs.Roll.Seeding

/-!
# Dicebag.Proofs.CommandLine.Stages

What the stages of a run come to, one by one.

* `readAll_eq_ok_iff`, `readAll_eq_error_iff` — the expressions are read
  one by one, up to the first that is refused;
* `run_rollAll_faces` — on a generator, each of them is rolled to faces of
  its dice;
* `render_ofLists` — such rolls are printed unless the total of one is too
  long: the numbers of an expression that was read are short enough, so the
  faces of its dice are, and no other number is shown.
-/

namespace Dicebag

/-! ## Numbers within the bound -/

namespace Decimal

theorem fits_of_le {m n : Int} (hm : 0 ≤ m) (hle : m ≤ n) (h : fits n = true) :
    fits m = true := by
  have habs : m.natAbs ≤ n.natAbs := by omega
  rw [fits, decide_eq_true_eq] at h ⊢
  exact Nat.lt_of_le_of_lt habs h

theorem fits_iff_lt {n : Int} (h : 0 ≤ n) : fits n = true ↔ n < 10 ^ maxDigits := by
  obtain ⟨k, rfl⟩ := Int.eq_ofNat_of_zero_le h
  rw [fits, decide_eq_true_eq, Int.natAbs_natCast, Nat.pow_eq]
  generalize maxDigits = digits
  exact_mod_cast Iff.rfl

end Decimal

namespace Invocation

/-! ## Reading -/

/-- All expressions are read if each of them is. -/
theorem readAll_eq_ok_iff {texts : List String} {es : List Expression} :
    readAll texts = .ok es ↔
      List.Forall₂ (fun text e => Expression.parse text = .ok e) texts es := by
  induction texts generalizing es with
  | nil =>
    rw [readAll, List.forall₂_nil_left_iff, Except.ok.injEq, eq_comm]
  | cons text texts ih =>
    rw [readAll, List.forall₂_cons_left_iff]
    cases hread : Expression.parse text with
    | error err => exact ⟨nofun, fun ⟨_, _, h, _⟩ => nomatch h⟩
    | ok e =>
      cases hrest : readAll texts with
      | error err =>
        refine ⟨nofun, fun ⟨_, _, _, h, _⟩ => ?_⟩
        rw [← ih, hrest] at h
        cases h
      | ok others =>
        constructor
        · intro h
          cases h
          exact ⟨e, others, rfl, ih.1 hrest, rfl⟩
        · intro ⟨_, _, he, h, hes⟩
          rw [← ih, hrest] at h
          cases h
          cases he
          rw [hes]
          rfl

/-- Reading stops at the first expression that is refused. -/
theorem readAll_eq_error_iff {texts : List String} {written : String} {err : ParseError} :
    readAll texts = .error (written, err) ↔
      ∃ before rest, texts = before ++ written :: rest ∧
        (∀ text ∈ before, ∃ e, Expression.parse text = .ok e) ∧
        Expression.parse written = .error err := by
  induction texts with
  | nil =>
    refine ⟨nofun, fun ⟨before, rest, h, _⟩ => ?_⟩
    exact absurd h.symm (List.append_ne_nil_of_right_ne_nil _ (List.cons_ne_nil _ _))
  | cons text texts ih =>
    rw [readAll]
    cases hread : Expression.parse text with
    | error other =>
      constructor
      · intro h
        cases h
        exact ⟨[], texts, rfl, fun _ h => absurd h List.not_mem_nil, hread⟩
      · intro ⟨before, rest, htexts, hbefore, hwritten⟩
        cases before with
        | nil =>
          obtain ⟨rfl, _⟩ := List.cons.inj htexts
          rw [hread] at hwritten
          cases hwritten
          rfl
        | cons first before =>
          obtain ⟨rfl, _⟩ := List.cons.inj htexts
          obtain ⟨e, he⟩ := hbefore text List.mem_cons_self
          rw [hread] at he
          cases he
    | ok e =>
      have hmap : (readAll texts).map (e :: ·) = .error (written, err) ↔
          readAll texts = .error (written, err) := by
        cases readAll texts <;> simp [Except.map]
      rw [hmap, ih]
      constructor
      · intro ⟨before, rest, htexts, hbefore, hwritten⟩
        exact ⟨text :: before, rest, congrArg _ htexts,
          List.forall_mem_cons.2 ⟨⟨e, hread⟩, hbefore⟩, hwritten⟩
      · intro ⟨before, rest, htexts, hbefore, hwritten⟩
        cases before with
        | nil =>
          obtain ⟨rfl, _⟩ := List.cons.inj htexts
          rw [hread] at hwritten
          cases hwritten
        | cons first before =>
          obtain ⟨_, hrest⟩ := List.cons.inj htexts
          exact ⟨before, rest, hrest, (List.forall_mem_cons.1 hbefore).2, hwritten⟩

/-! ## Rolling -/

theorem rollAll_cons (mode : RollMode) (e : Expression) (es : List Expression) :
    rollAll mode (e :: es) = (do
      let r ← e.roll mode
      let rs ← rollAll mode es
      pure (r :: rs)) := List.mapM_cons

/-- On a generator every expression is rolled to faces of its dice. -/
theorem run_rollAll_faces {mode : RollMode} {es : List Expression} {rolls : List Roll}
    {t t' : Table} (hs : t.source.IsSeeded) (h : (rollAll mode es).run t = .ok rolls t') :
    List.Forall₂ Expression.IsFaces es rolls := by
  induction es generalizing t rolls with
  | nil =>
    cases h
    exact .nil
  | cons e es ih =>
    rw [rollAll_cons] at h
    obtain ⟨r, t₁, hroll, h⟩ := run_bind_eq_ok_iff.1 h
    obtain ⟨rs, t₂, hrolls, h⟩ := run_bind_eq_ok_iff.1 h
    cases h
    obtain ⟨hs, hfaces⟩ := Expression.IsFaces.of_run_roll hs hroll
    exact .cons hfaces (ih hs hrolls)

end Invocation

/-! ## Printing -/

/-- The expression was read and its roll holds faces of its dice. -/
structure Rolled.IsFair (r : Rolled) : Prop where
  parse : ∃ text, Expression.parse text = .ok r.expression
  faces : r.expression.IsFaces r.roll

namespace Rolled.IsFair

variable {r : Rolled}

theorem fits_numbers (h : r.IsFair) : ∀ n ∈ r.expression.numbers, Decimal.fits n = true := by
  obtain ⟨text, hread⟩ := h.parse
  exact (spelling_of_ofChars hread).fits

/-- A face of a die is no longer than the number of its faces. -/
theorem fits_values (h : r.IsFair) : ∀ v ∈ r.roll.values, Decimal.fits v = true := by
  intro v hv
  obtain ⟨hone, hfaces⟩ := h.faces v hv
  have hfits : Decimal.fits r.expression.faces = true :=
    h.fits_numbers _ (by simp [Expression.numbers])
  exact Decimal.fits_of_le (by omega) hfaces hfits

theorem fits_line_iff (h : r.IsFair) :
    (∀ n ∈ r.roll.numbers, Decimal.fits n = true) ↔ Decimal.fits r.roll.total = true := by
  unfold Roll.numbers
  split
  · rw [List.forall_mem_singleton]
  · rw [List.forall_mem_cons]
    exact and_iff_left h.fits_values

theorem fits_record_iff (h : r.IsFair) :
    (∀ n ∈ r.expression.numbers ++ r.roll.total :: r.roll.values, Decimal.fits n = true) ↔
      Decimal.fits r.roll.total = true := by
  rw [List.forall_mem_append, List.forall_mem_cons]
  exact (and_iff_right h.fits_numbers).trans (and_iff_left h.fits_values)

end Rolled.IsFair

/-- Expressions that were read and rolled fairly make a list of such. -/
theorem Rolled.isFair_of_mem_ofLists {texts : List String} {es : List Expression}
    {rolls : List Roll}
    (hread : List.Forall₂ (fun text e => Expression.parse text = .ok e) texts es)
    (hfaces : List.Forall₂ Expression.IsFaces es rolls) :
    ∀ r ∈ ofLists texts es rolls, r.IsFair := by
  induction hread generalizing rolls with
  | nil => exact fun r h => absurd h List.not_mem_nil
  | cons hparse _ ih =>
    cases hfaces with
    | cons hface hfaces => exact List.forall_mem_cons.2 ⟨⟨⟨_, hparse⟩, hface⟩, ih hfaces⟩

/-- Every roll has its place in the list. -/
theorem Rolled.map_roll_ofLists {texts : List String} {es : List Expression} {rolls : List Roll}
    (htexts : texts.length = es.length) (hrolls : es.length = rolls.length) :
    (ofLists texts es rolls).map roll = rolls := by
  have hzip : (es.zip rolls).map Prod.snd = rolls := List.map_snd_zip hrolls.ge
  have hzips : (texts.zip (es.zip rolls)).map Prod.snd = es.zip rolls :=
    List.map_snd_zip (by rw [List.length_zip]; omega)
  calc
    (ofLists texts es rolls).map roll
      = ((texts.zip (es.zip rolls)).map Prod.snd).map Prod.snd := by
        rw [ofLists, List.map_map, List.map_map]
        rfl
    _ = rolls := by rw [hzips, hzip]

namespace Output

/-- The characters that are printed. -/
def chars (json : Bool) (rolled : List Rolled) : List Char :=
  if json then document rolled else lines rolled

/-- Fair rolls are printed unless a total is too long. -/
theorem render_of_isFair {rolled : List Rolled} (h : ∀ r ∈ rolled, r.IsFair) (json : Bool) :
    render json rolled =
      if ∀ r ∈ rolled, Decimal.fits r.roll.total = true then .ok (String.ofList (chars json rolled))
      else .error .tooLong := by
  have hlines : (lineNumbers rolled).all Decimal.fits = true ↔
      ∀ r ∈ rolled, Decimal.fits r.roll.total = true := by
    rw [List.all_eq_true, lineNumbers, List.forall_mem_flatMap]
    exact forall₂_congr fun r hr => (h r hr).fits_line_iff
  have hdocument : (documentNumbers rolled).all Decimal.fits = true ↔
      ∀ r ∈ rolled, Decimal.fits r.roll.total = true := by
    rw [List.all_eq_true, documentNumbers, List.forall_mem_flatMap]
    exact forall₂_congr fun r hr => (h r hr).fits_record_iff
  cases json with
  | false =>
    rw [render, if_neg Bool.false_ne_true, Decimal.render]
    exact if_congr hlines rfl rfl
  | true =>
    rw [render, if_pos rfl, Decimal.render]
    exact if_congr hdocument rfl rfl

/-- Expressions that were read and rolled fairly are printed unless a total
is too long. -/
theorem render_ofLists {texts : List String} {es : List Expression} {rolls : List Roll}
    (hread : List.Forall₂ (fun text e => Expression.parse text = .ok e) texts es)
    (hfaces : List.Forall₂ Expression.IsFaces es rolls) (json : Bool) :
    render json (Rolled.ofLists texts es rolls) =
      if ∀ r ∈ rolls, r.total < 10 ^ Decimal.maxDigits then
        .ok (String.ofList (chars json (Rolled.ofLists texts es rolls)))
      else .error .tooLong := by
  have hfair := Rolled.isFair_of_mem_ofLists hread hfaces
  have hrolls : (Rolled.ofLists texts es rolls).map Rolled.roll = rolls :=
    Rolled.map_roll_ofLists hread.length_eq hfaces.length_eq
  have hfits : (∀ r ∈ Rolled.ofLists texts es rolls, Decimal.fits r.roll.total = true) ↔
      ∀ r ∈ rolls, r.total < 10 ^ Decimal.maxDigits := by
    conv_rhs => rw [← hrolls, List.forall_mem_map]
    exact forall₂_congr fun r hr => Decimal.fits_iff_lt (hfair r hr).faces.total_nonneg
  rw [render_of_isFair hfair]
  exact if_congr hfits rfl rfl

end Output

end Dicebag
