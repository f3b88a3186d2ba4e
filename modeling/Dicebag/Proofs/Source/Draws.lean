import Dicebag.Proofs.Source.Words
import Dicebag.Session

/-!
# Dicebag.Proofs.Source.Draws

Numbers that a generator gives between two bounds.  The bounds only count by
how many numbers lie between them, so a generator that answers a call answers
the call moved anywhere else with the number moved as far (`Gives.moved`), and
what it answers with lies between the bounds however far apart they are
(`Gives.lo_le`, `Gives.le_hi`).

A call on a generator comes to one of three things: it is refused
(`report_of_empty`), it is answered (`report_of_gives`), or the search for an
answer has no end (`report_of_misses`).  Whatever the calls are, all that they
do to a generator is to take words from it (`exists_left_eq`).
-/

namespace Dicebag

/-! ## Calls -/

namespace Call

/-- How many numbers lie between the bounds. -/
def width (call : Call) : Nat := (call.hi - call.lo + 1).toNat

/-- The call with both its bounds moved. -/
def moved (call : Call) (offset : Int) : Call := ⟨call.lo + offset, call.hi + offset⟩

/-- The operation that is this one call. -/
def operation (call : Call) : Operation := .draw call.lo call.hi

theorem width_moved (call : Call) (offset : Int) : (call.moved offset).width = call.width := by
  rw [width, width, moved, add_sub_add_right_eq_sub]

end Call

/-! ## What a generator gives -/

namespace Twister

/-- Called for a number between two bounds, the generator gives this one and
is another generator then: numbers as wide as the range are drawn, and the
first that is below its width is counted from the lower bound. -/
def Gives (g : Twister) (call : Call) (value : Int) (g' : Twister) : Prop :=
  ∃ i, HitsAt call.width i g ∧ value = call.lo + attempt call.width i g ∧
    g' = g.skip ((i + 1) * span call.width)

/-- All the numbers drawn for a call miss its range. -/
def Misses (g : Twister) (call : Call) : Prop := ∀ i, call.width ≤ attempt call.width i g

variable {g g' : Twister} {call : Call} {value : Int}

namespace Gives

theorem lo_le (h : g.Gives call value g') : call.lo ≤ value := by
  obtain ⟨i, _, rfl, _⟩ := h
  omega

theorem le_hi (h : g.Gives call value g') : value ≤ call.hi := by
  obtain ⟨i, hhits, rfl, _⟩ := h
  have hlt := hhits.lt
  unfold Call.width at hlt ⊢
  omega

theorem not_empty (h : g.Gives call value g') : ¬ call.hi < call.lo :=
  Int.not_lt_of_ge (Int.le_trans h.lo_le h.le_hi)

theorem exists_eq_skip (h : g.Gives call value g') : ∃ n, g' = g.skip n := by
  obtain ⟨i, _, _, hafter⟩ := h
  exact ⟨_, hafter⟩

/-- Moving the bounds moves the number as far, and takes the same words. -/
theorem moved (h : g.Gives call value g') (offset : Int) :
    g.Gives (call.moved offset) (value + offset) g' := by
  obtain ⟨i, hhits, rfl, rfl⟩ := h
  refine ⟨i, ?_⟩
  rw [Call.width_moved]
  exact ⟨hhits, Int.add_right_comm _ _ _, rfl⟩

end Gives

/-- A generator whose words are zero gives the lower bound, here at the cost of
two words. -/
example : Gives ⟨.replicate 624 0, 0⟩ ⟨-7, 2 ^ 40⟩ (-7) ⟨.replicate 624 0, 2⟩ :=
  ⟨0, hitsAt_zero_iff.2 (by decide), by decide, rfl⟩

theorem gives_iff_below? :
    g.Gives call value g' ↔ ∃ n : Nat, below? call.width g = some (n, g') ∧ value = call.lo + n := by
  constructor
  · intro ⟨i, hhits, hvalue, hafter⟩
    exact ⟨_, below?_eq_some_iff.2 ⟨i, hhits, rfl, hafter⟩, hvalue⟩
  · rintro ⟨_, hbelow, rfl⟩
    obtain ⟨i, hhits, rfl, hafter⟩ := below?_eq_some_iff.1 hbelow
    exact ⟨i, hhits, rfl, hafter⟩

theorem gives_or_misses (g : Twister) (call : Call) :
    (∃ value g', g.Gives call value g') ∨ g.Misses call := by
  cases hbelow : below? call.width g with
  | none => exact .inr (below?_eq_none_iff.1 hbelow)
  | some found => exact .inl ⟨_, _, gives_iff_below?.2 ⟨_, hbelow, rfl⟩⟩

end Twister

/-! ## One call -/

namespace Operation

variable {g g' : Twister} {call : Call} {value : Int} (limit rest : Nat)

/-- A call asks the source once, and logs nothing. -/
theorem report_operation (call : Call) (s : Source) :
    call.operation.report s =
      match s.renew.draw call.lo call.hi with
      | .ok (value, s') => ⟨.ok (.value value), s', [call], []⟩
      | .error e => ⟨.error e, s.renew, [call], []⟩ := by
  simp only [Call.operation, report, deal, EStateM.run, Functor.map, EStateM.map, Dicebag.draw,
    Table.ofSource]
  cases s.renew.draw call.lo call.hi <;> rfl

/-- A call for an empty range is refused, and no word is taken. -/
theorem report_of_empty (call : Call) (h : call.hi < call.lo) :
    call.operation.report (.seeded g (limit + 1) rest) =
      ⟨.error (.emptyRange call.lo call.hi), .seeded g (limit + 1) (limit + 1), [call], []⟩ := by
  rw [report_operation, Source.renew, Source.draw, if_pos h]

theorem report_of_gives (h : g.Gives call value g') :
    call.operation.report (.seeded g (limit + 1) rest) =
      ⟨.ok (.value value), .seeded g' (limit + 1) limit, [call], []⟩ := by
  obtain ⟨n, hbelow, rfl⟩ := Twister.gives_iff_below?.1 h
  rw [report_operation, Source.renew, Source.draw, if_neg h.not_empty, ← Call.width, hbelow]

/-- If all numbers miss there is no answer. -/
theorem report_of_misses (hrange : call.lo ≤ call.hi) (h : g.Misses call) :
    call.operation.report (.seeded g (limit + 1) rest) =
      ⟨.error .rangeMissed, .seeded g (limit + 1) (limit + 1), [call], []⟩ := by
  have hbelow : g.below? call.width = none := Twister.below?_eq_none_iff.2 h
  rw [report_operation, Source.renew, Source.draw, if_neg (Int.not_lt_of_ge hrange), ← Call.width,
    hbelow]

/-- Whatever a call comes to, it only takes words from the generator. -/
theorem exists_source_eq (g : Twister) (call : Call) :
    ∃ n rest', (call.operation.report (.seeded g (limit + 1) rest)).source =
      .seeded (g.skip n) (limit + 1) rest' := by
  by_cases hempty : call.hi < call.lo
  · rw [report_of_empty limit rest call hempty]
    exact ⟨0, _, rfl⟩
  · obtain ⟨value, g', hgives⟩ | hmisses := g.gives_or_misses call
    · obtain ⟨n, rfl⟩ := hgives.exists_eq_skip
      rw [report_of_gives limit rest hgives]
      exact ⟨n, _, rfl⟩
    · rw [report_of_misses limit rest (Int.not_lt.1 hempty) hmisses]
      exact ⟨0, _, rfl⟩

end Operation

/-! ## Calls one after the other -/

namespace Session

/-- The source that the last of some operations leaves. -/
def left (ops : List Operation) (s : Source) : Source :=
  ((run ops s).getLast?.map Report.source).getD s

theorem left_cons (op : Operation) (ops : List Operation) (s : Source) :
    left (op :: ops) s = left ops (op.report s).source := by
  rw [left, left, run, List.getLast?_cons]
  cases (run ops (op.report s).source).getLast? <;> rfl

/-- Calls only take words from a generator. -/
theorem exists_left_eq (g : Twister) (limit rest : Nat) (calls : List Call) :
    ∃ n rest', left (calls.map Call.operation) (.seeded g (limit + 1) rest) =
      .seeded (g.skip n) (limit + 1) rest' := by
  induction calls generalizing g rest with
  | nil => exact ⟨0, rest, rfl⟩
  | cons call calls ih =>
    obtain ⟨m, rest₁, hsource⟩ := Operation.exists_source_eq limit rest g call
    obtain ⟨n, rest', hleft⟩ := ih (g.skip m) rest₁
    refine ⟨m + n, rest', ?_⟩
    rw [List.map_cons, left_cons, hsource, hleft, Twister.skip_add]

/-- **Numbers between bounds**: any calls on the source of a seed, if it gives
answers at all, leave its generator some words further on.  A call for an empty
range is refused then and takes no word.  Any other call is answered with a
number between its bounds, and with both bounds moved it is answered with the
number moved as far and leaves the same generator; or it has no answer, which
is only if all the numbers that are drawn for it miss. -/
theorem draws_move_with_bounds (seed : Int) (limit : Nat) (history : List Call) (lo hi : Int) :
    ∃ g rest,
      left (history.map Call.operation) (.ofSeed seed (limit + 1)) = .seeded g (limit + 1) rest ∧
      (∃ n, g = (Twister.ofSeed seed).skip n) ∧
      (hi < lo → (Operation.draw lo hi).report (.seeded g (limit + 1) rest) =
        ⟨.error (.emptyRange lo hi), .seeded g (limit + 1) (limit + 1), [⟨lo, hi⟩], []⟩) ∧
      (lo ≤ hi →
        (∃ value g', g.Gives ⟨lo, hi⟩ value g' ∧ lo ≤ value ∧ value ≤ hi ∧
          (Operation.draw lo hi).report (.seeded g (limit + 1) rest) =
            ⟨.ok (.value value), .seeded g' (limit + 1) limit, [⟨lo, hi⟩], []⟩ ∧
          ∀ c, (Operation.draw (lo + c) (hi + c)).report (.seeded g (limit + 1) rest) =
            ⟨.ok (.value (value + c)), .seeded g' (limit + 1) limit, [⟨lo + c, hi + c⟩], []⟩) ∨
        g.Misses ⟨lo, hi⟩ ∧
          (Operation.draw lo hi).report (.seeded g (limit + 1) rest) =
            ⟨.error .rangeMissed, .seeded g (limit + 1) (limit + 1), [⟨lo, hi⟩], []⟩) := by
  obtain ⟨n, rest, hleft⟩ := exists_left_eq (.ofSeed seed) limit (limit + 1) history
  refine ⟨(Twister.ofSeed seed).skip n, rest, hleft, ⟨n, rfl⟩, ?_, ?_⟩
  · intro hempty
    exact Operation.report_of_empty limit rest ⟨lo, hi⟩ hempty
  · intro hrange
    obtain ⟨value, g', hgives⟩ | hmisses := Twister.gives_or_misses _ ⟨lo, hi⟩
    · refine .inl ⟨value, g', hgives, hgives.lo_le, hgives.le_hi, ?_, fun c => ?_⟩
      · exact Operation.report_of_gives limit rest hgives
      · exact Operation.report_of_gives limit rest (hgives.moved c)
    · exact .inr ⟨hmisses, Operation.report_of_misses limit rest hrange hmisses⟩

end Session

end Dicebag
