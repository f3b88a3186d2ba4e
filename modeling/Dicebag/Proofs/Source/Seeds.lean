import Dicebag.Proofs.Source.Words
import Mathlib.Data.List.Basic

/-!
# Dicebag.Proofs.Source.Seeds

The first words of a generator that is seeded with a number of one digit.
Seeding goes over the state several times, from front to back, and each word
comes of what stood at its position and of the word before it.  Such a `sweep`
works on a list of words as well, and there it takes one step for each word.

* `wordAt_fold` — what a sweep makes of the words of a state;
* `map_wordAt_ofKey` — the words of a seeded state, by three sweeps over lists
  (`seedWords`);
* `first_skip_ofSeed` — the words that are given out first, each from three words
  of the state and without the renewal of all others.
-/

namespace Dicebag.Twister

variable {words : Vector UInt32 624} {w : UInt32} {i j m n p : Nat}

/-! ## Positions -/

theorem wordAt_eq_getElem (words : Vector UInt32 624) (hj : j < 624) :
    wordAt words j = words[j] := by
  simp only [wordAt, Nat.mod_eq_of_lt hj]
  rfl

theorem wordAt_putWord (hi : i < 624) (hj : j < 624) :
    wordAt (putWord words i w) j = if j = i then w else wordAt words j := by
  simp only [wordAt_eq_getElem _ hj, putWord, Nat.mod_eq_of_lt hi, Vector.getElem_set, eq_comm]

theorem wordAt_putBeside (hi : i < 624) (hj : j < 624) :
    wordAt (putBeside words i w) j =
      if j = i ∨ i = 623 ∧ j = 0 then w else wordAt words j := by
  unfold putBeside
  split
  · next hlast =>
    rw [wordAt_putWord (by omega) hj, wordAt_putWord hi hj]
    grind
  · next hlast =>
    rw [wordAt_putWord hi hj]
    simp [hlast]

/-! ## Sweeps -/

/-- The words behind a position after a sweep: each is made of its position, the
word that stood there, and the new word before it. -/
def swept (f : Nat → UInt32 → UInt32 → UInt32) (old : Nat → UInt32) (p : Nat) (start : UInt32) :
    Nat → UInt32
  | 0 => start
  | n + 1 => f (p + n + 1) (old (p + n + 1)) (swept f old p start n)

/-- A sweep over the words behind a position, as a list. -/
def sweep (f : Nat → UInt32 → UInt32 → UInt32) : Nat → UInt32 → List UInt32 → List UInt32
  | _, _, [] => []
  | i, before, w :: rest => f i w before :: sweep f (i + 1) (f i w before) rest

variable {f : Nat → UInt32 → UInt32 → UInt32} {old : Nat → UInt32} {start : UInt32}

theorem swept_succ (n : Nat) :
    swept f old p start (n + 1) = swept f old (p + 1) (f (p + 1) (old (p + 1)) start) n := by
  induction n with
  | zero => rfl
  | succ n ih =>
    rw [swept, ih, swept]
    congr 2 <;> omega

theorem sweep_map_range (m p : Nat) (start : UInt32) :
    sweep f (p + 1) start ((List.range m).map fun n => old (p + n + 1)) =
      (List.range m).map fun n => swept f old p start (n + 1) := by
  induction m generalizing p start with
  | zero => rfl
  | succ m ih =>
    have hrest : ((List.range m).map fun n => old (p + n.succ + 1)) =
        (List.range m).map fun n => old (p + 1 + n + 1) := by
      refine List.map_congr_left fun n _ => ?_
      congr 1
      omega
    rw [List.range_succ_eq_map, List.map_cons, List.map_cons, List.map_map, List.map_map]
    refine congrArg₂ List.cons rfl ?_
    change sweep f (p + 1 + 1) (f (p + 1) (old (p + 1)) start)
      ((List.range m).map fun n => old (p + n.succ + 1)) = _
    rw [hrest, ih]
    exact List.map_congr_left fun n _ => (swept_succ (n + 1)).symm

/-- Steps that each replace the word at the next position sweep the state. -/
theorem wordAt_fold {step : Nat → Vector UInt32 624 → Vector UInt32 624} (hm : m < 624)
    (hstep : ∀ t words, p + t < m → ∀ j < 624, wordAt (step t words) j =
      if j = p + t + 1 then f (p + t + 1) (wordAt words (p + t + 1)) (wordAt words (p + t))
      else wordAt words j) (hn : p + n ≤ m) (hj : j < 624) :
    wordAt (Nat.fold n (fun t _ => step t) words) j =
      if p < j ∧ j ≤ p + n then swept f (wordAt words) p (wordAt words p) (j - p)
      else wordAt words j := by
  induction n generalizing j with
  | zero => rw [Nat.fold_zero, if_neg (by omega)]
  | succ n ih =>
    have hlast : wordAt (Nat.fold n (fun t _ => step t) words) (p + n) =
        swept f (wordAt words) p (wordAt words p) n := by
      rw [ih (by omega) (by omega)]
      split
      · rw [Nat.add_sub_cancel_left]
      · obtain rfl : n = 0 := by omega
        rfl
    have hnext : wordAt (Nat.fold n (fun t _ => step t) words) (p + n + 1) =
        wordAt words (p + n + 1) := by
      rw [ih (by omega) (by omega), if_neg (by omega)]
    rw [Nat.fold_succ, hstep n _ (by omega) j hj, hlast, hnext]
    split
    · next heq =>
      rw [if_pos (by omega), heq, show p + n + 1 - p = n + 1 by omega, swept]
    · rw [ih (by omega) hj]
      exact if_congr (by omega) rfl rfl

/-! ## Seeding -/

/-- The next word that a single word expands to. -/
def expandStep (i : Nat) (_ before : UInt32) : UInt32 :=
  1812433253 * fold30 before + UInt32.ofNat i

/-- A word with a key of one word mixed in. -/
def keyStep (key : UInt32) (_ : Nat) (w before : UInt32) : UInt32 :=
  (w ^^^ (fold30 before * 1664525)) + key

/-- A word with its position mixed in. -/
def placeStep (i : Nat) (w before : UInt32) : UInt32 :=
  (w ^^^ (fold30 before * 1566083941)) - UInt32.ofNat i

/-- The words of a state into which a key of one word was mixed, from the words
behind the first after a round of that. -/
def placeWords (key : UInt32) (keyed : List UInt32) : List UInt32 :=
  let first := keyStep key 1 (keyed.headD 0) (keyed.getLastD 0)
  let placed := sweep placeStep 2 first keyed.tail
  0x80000000 :: placeStep 1 first (placed.getLastD 0) :: placed

/-- The words of the state that is seeded with a key of one word. -/
def seedWords (key : UInt32) : List UInt32 :=
  placeWords key
    (sweep (keyStep key) 1 19650218 (sweep expandStep 1 19650218 (List.replicate 623 0)))

theorem wordAt_expand (seed : UInt32) (hj : j < 624) :
    wordAt (expand seed) j = swept expandStep (fun _ => 0) 0 seed j := by
  have hold : ∀ (old : Nat → UInt32) n,
      swept expandStep old 0 seed n = swept expandStep (fun _ => 0) 0 seed n := by
    intro old n
    induction n with
    | zero => rfl
    | succ n ih => rw [swept, swept, ih, expandStep, expandStep]
  have hfirst : wordAt (putWord (.replicate 624 0) 0 seed) 0 = seed := by
    rw [wordAt_putWord (by decide) (by decide), if_pos rfl]
  have hstep : ∀ t words, 0 + t < 623 → ∀ j < 624,
      wordAt (putWord words (t + 1)
          (1812433253 * fold30 (wordAt words t) + UInt32.ofNat (t + 1))) j =
        if j = 0 + t + 1 then
          expandStep (0 + t + 1) (wordAt words (0 + t + 1)) (wordAt words (0 + t))
        else wordAt words j := by
    intro t words ht j hj
    rw [wordAt_putWord (by omega) hj, Nat.zero_add, expandStep]
  rw [expand, wordAt_fold (by decide) hstep (Nat.le_refl _) hj, hfirst, hold]
  split
  · rw [Nat.sub_zero]
  · obtain rfl : j = 0 := by omega
    exact hfirst

/-- The last step of a sweep over the state also puts its word before the
others. -/
theorem wordAt_fold_round {step : Nat → Vector UInt32 624 → Vector UInt32 624} (hp : p < 623)
    (hstep : ∀ t words, p + t < 623 → step t words = putBeside words (p + t + 1)
      (f (p + t + 1) (wordAt words (p + t + 1)) (wordAt words (p + t)))) (hj : j < 624) :
    wordAt (Nat.fold (623 - p) (fun t _ => step t) words) j =
      if j = 0 then swept f (wordAt words) p (wordAt words p) (623 - p)
      else if p < j then swept f (wordAt words) p (wordAt words p) (j - p)
      else wordAt words j := by
  have hfold : ∀ i < 624, wordAt (Nat.fold (622 - p) (fun t _ => step t) words) i =
      if p < i ∧ i ≤ p + (622 - p) then swept f (wordAt words) p (wordAt words p) (i - p)
      else wordAt words i := by
    intro i hi
    refine wordAt_fold (m := 622) (by decide) (fun t words ht j hj => ?_) (by omega) hi
    rw [hstep t words (by omega), wordAt_putBeside (by omega) hj]
    exact if_congr (by omega) rfl rfl
  have hlast : wordAt (Nat.fold (622 - p) (fun t _ => step t) words) 622 =
      swept f (wordAt words) p (wordAt words p) (622 - p) := by
    rw [hfold 622 (by decide)]
    split
    · rfl
    · obtain rfl : p = 622 := by omega
      rfl
  have hnext : wordAt (Nat.fold (622 - p) (fun t _ => step t) words) 623 = wordAt words 623 := by
    rw [hfold 623 (by decide), if_neg (by omega)]
  have hswept : swept f (wordAt words) p (wordAt words p) (623 - p) =
      f 623 (wordAt words 623) (swept f (wordAt words) p (wordAt words p) (622 - p)) := by
    rw [show 623 - p = 622 - p + 1 by omega, swept, show p + (622 - p) + 1 = 623 by omega]
  have hround : wordAt (Nat.fold (623 - p) (fun t _ => step t) words) j =
      if j = 623 ∨ j = 0 then swept f (wordAt words) p (wordAt words p) (623 - p)
      else wordAt (Nat.fold (622 - p) (fun t _ => step t) words) j := by
    rw [hswept, show 623 - p = 622 - p + 1 by omega, Nat.fold_succ, hstep _ _ (by omega),
      show p + (622 - p) + 1 = 623 by omega, show p + (622 - p) = 622 by omega, hnext, hlast,
      wordAt_putBeside (by decide) hj]
    simp only [true_and]
  rw [hround, hfold j hj]
  by_cases hfirst : j = 0
  · rw [if_pos (.inr hfirst), if_pos hfirst]
  · by_cases hend : j = 623
    · rw [if_pos (.inl hend), if_neg hfirst, if_pos (by omega), hend]
    · rw [if_neg (by omega), if_neg hfirst]
      exact if_congr (by omega) rfl rfl

theorem mixKey_singleton (key : UInt32) (t : Nat) (words : Vector UInt32 624) :
    mixKey #[key] t words = putBeside words (position t)
      (keyStep key (position t) (wordAt words (position t)) (wordAt words (position t - 1))) := by
  simp [mixKey, keyStep, Nat.mod_one]

theorem mixPosition_eq (t : Nat) (words : Vector UInt32 624) :
    mixPosition t words = putBeside words (position t)
      (placeStep (position t) (wordAt words (position t)) (wordAt words (position t - 1))) := rfl

/-! ## States as lists -/

/-- The words of a state behind a position. -/
def behind (p : Nat) (words : Vector UInt32 624) : List UInt32 :=
  (List.range (623 - p)).map fun n => wordAt words (p + n + 1)

theorem behind_congr {words' : Vector UInt32 624}
    (h : ∀ j, p < j → j < 624 → wordAt words j = wordAt words' j) :
    behind p words = behind p words' := by
  refine List.map_congr_left fun n hn => h _ (by omega) ?_
  have := List.mem_range.1 hn
  omega

theorem behind_eq_cons (hp : p < 623) (words : Vector UInt32 624) :
    behind p words = wordAt words (p + 1) :: behind (p + 1) words := by
  rw [behind, behind, show 623 - p = 623 - (p + 1) + 1 by omega, List.range_succ_eq_map,
    List.map_cons, List.map_map]
  refine congrArg _ (List.map_congr_left fun n _ => ?_)
  rw [Function.comp_apply, show p + n.succ + 1 = p + 1 + n + 1 by omega]

/-- A round of steps sweeps the words behind a position, and puts the last of them
before the others. -/
theorem behind_fold {step : Nat → Vector UInt32 624 → Vector UInt32 624} (hp : p < 623)
    (hstep : ∀ t words, p + t < 623 → step t words = putBeside words (p + t + 1)
      (f (p + t + 1) (wordAt words (p + t + 1)) (wordAt words (p + t)))) :
    behind p (Nat.fold (623 - p) (fun t _ => step t) words) =
        sweep f (p + 1) (wordAt words p) (behind p words) ∧
      wordAt (Nat.fold (623 - p) (fun t _ => step t) words) 0 =
        (sweep f (p + 1) (wordAt words p) (behind p words)).getLastD 0 ∧
      ∀ j, 0 < j → j ≤ p →
        wordAt (Nat.fold (623 - p) (fun t _ => step t) words) j = wordAt words j := by
  rw [behind, behind, sweep_map_range]
  refine ⟨List.map_congr_left fun n hn => ?_, ?_, fun j hj hle => ?_⟩
  · have := List.mem_range.1 hn
    rw [wordAt_fold_round hp hstep (by omega), if_neg (by omega), if_pos (by omega),
      show p + n + 1 - p = n + 1 by omega]
  · rw [wordAt_fold_round hp hstep (by decide), if_pos rfl, show 623 - p = 622 - p + 1 by omega,
      List.range_succ, List.map_append]
    exact (List.getLastD_concat ..).symm
  · rw [wordAt_fold_round hp hstep (by omega), if_neg (by omega), if_neg (by omega)]

theorem behind_expand (seed : UInt32) :
    behind 0 (expand seed) = sweep expandStep 1 seed (List.replicate 623 0) := by
  have hzeros : List.replicate 623 (0 : UInt32) = (List.range 623).map fun _ => 0 := by
    rw [List.map_const', List.length_range]
  rw [hzeros, behind]
  refine Eq.trans (List.map_congr_left fun n hn => ?_)
    (@sweep_map_range expandStep (fun _ => 0) 623 0 seed).symm
  have := List.mem_range.1 hn
  rw [wordAt_expand seed (by omega), Nat.zero_add]

/-- The first round of a key of one word. -/
theorem behind_mixKey (key : UInt32) (words : Vector UInt32 624) :
    behind 0 (Nat.fold 623 (fun t _ => mixKey #[key] t) words) =
        sweep (keyStep key) 1 (wordAt words 0) (behind 0 words) ∧
      wordAt (Nat.fold 623 (fun t _ => mixKey #[key] t) words) 0 =
        (sweep (keyStep key) 1 (wordAt words 0) (behind 0 words)).getLastD 0 := by
  have hstep : ∀ t words, 0 + t < 623 → mixKey #[key] t words = putBeside words (0 + t + 1)
      (keyStep key (0 + t + 1) (wordAt words (0 + t + 1)) (wordAt words (0 + t))) := by
    intro t words ht
    have hposition : position t = 0 + t + 1 := by
      rw [position, Nat.mod_eq_of_lt (by omega)]
      omega
    rw [mixKey_singleton, hposition, Nat.add_sub_cancel]
  obtain ⟨hbehind, hfirst, _⟩ := behind_fold (by decide) hstep
  exact ⟨hbehind, hfirst⟩

/-- Behind the first round a key of one word is mixed into the second word again. -/
theorem behind_mixKey_again (key : UInt32) (words : Vector UInt32 624) {keyed : List UInt32}
    (hkeyed : sweep (keyStep key) 1 (wordAt words 0) (behind 0 words) = keyed) :
    wordAt (Nat.fold 624 (fun t _ => mixKey #[key] t) words) 1 =
        keyStep key 1 (keyed.headD 0) (keyed.getLastD 0) ∧
      behind 1 (Nat.fold 624 (fun t _ => mixKey #[key] t) words) = keyed.tail := by
  obtain ⟨hround, hfirst⟩ := behind_mixKey key words
  rw [Nat.fold_succ 623]
  generalize Nat.fold 623 (fun t _ => mixKey #[key] t) words = round at hround hfirst ⊢
  have hcons : keyed = wordAt round 1 :: behind 1 round := by
    rw [← hkeyed, ← hround, behind_eq_cons (by decide)]
  have hposition : position 623 = 1 := rfl
  rw [hkeyed, hcons] at hfirst
  rw [hcons, mixKey_singleton, hposition, List.headD_cons, List.tail_cons, ← hfirst]
  refine ⟨?_, behind_congr fun j hj hj' => ?_⟩
  · rw [wordAt_putBeside (by decide) (by decide), if_pos (.inl rfl)]
  · rw [wordAt_putBeside (by decide) hj', if_neg (by omega)]

/-- The round of the positions behind the first two. -/
theorem behind_mixPosition (words : Vector UInt32 624) :
    behind 1 (Nat.fold 622 (fun t _ => mixPosition (624 + t)) words) =
        sweep placeStep 2 (wordAt words 1) (behind 1 words) ∧
      wordAt (Nat.fold 622 (fun t _ => mixPosition (624 + t)) words) 0 =
        (sweep placeStep 2 (wordAt words 1) (behind 1 words)).getLastD 0 ∧
      wordAt (Nat.fold 622 (fun t _ => mixPosition (624 + t)) words) 1 = wordAt words 1 := by
  have hstep : ∀ t words, 1 + t < 623 → mixPosition (624 + t) words = putBeside words (1 + t + 1)
      (placeStep (1 + t + 1) (wordAt words (1 + t + 1)) (wordAt words (1 + t))) := by
    intro t words ht
    have hposition : position (624 + t) = 1 + t + 1 := by
      unfold position
      omega
    rw [mixPosition_eq, hposition, Nat.add_sub_cancel]
  obtain ⟨hbehind, hfirst, hsecond⟩ := behind_fold (by decide) hstep
  exact ⟨hbehind, hfirst, hsecond 1 (by decide) (Nat.le_refl _)⟩

theorem map_wordAt_range (words : Vector UInt32 624) :
    (List.range 624).map (wordAt words) = wordAt words 0 :: wordAt words 1 :: behind 1 words := by
  have hcons : (List.range 624).map (wordAt words) = wordAt words 0 :: behind 0 words := by
    rw [List.range_succ_eq_map, List.map_cons, List.map_map, behind]
    refine congrArg _ (List.map_congr_left fun n _ => ?_)
    rw [Function.comp_apply, Nat.zero_add]
  rw [hcons, behind_eq_cons (by decide)]

/-- Behind the round of the positions the second word has its own mixed in, and the
first is replaced. -/
theorem map_wordAt_mixPosition (words : Vector UInt32 624) (w : UInt32) {placed : List UInt32}
    (hplaced : sweep placeStep 2 (wordAt words 1) (behind 1 words) = placed) :
    (List.range 624).map
        (wordAt (putWord (Nat.fold 623 (fun t _ => mixPosition (624 + t)) words) 0 w)) =
      w :: placeStep 1 (wordAt words 1) (placed.getLastD 0) :: placed := by
  obtain ⟨hround, hfirst, hsecond⟩ := behind_mixPosition words
  rw [Nat.fold_succ 622, map_wordAt_range]
  generalize Nat.fold 622 (fun t _ => mixPosition (624 + t)) words = round
    at hround hfirst hsecond ⊢
  have hposition : position (624 + 622) = 1 := rfl
  have hwords : ∀ j < 624, wordAt (putWord (mixPosition (624 + 622) round) 0 w) j =
      if j = 0 then w else if j = 1 then placeStep 1 (wordAt round 1) (wordAt round 0)
      else wordAt round j := by
    intro j hj
    rw [wordAt_putWord (by decide) hj, mixPosition_eq, hposition,
      wordAt_putBeside (by decide) hj]
    exact if_congr Iff.rfl rfl (if_congr (by omega) rfl rfl)
  have hbehind : behind 1 (putWord (mixPosition (624 + 622) round) 0 w) = behind 1 round := by
    refine behind_congr fun j hj hj' => ?_
    rw [hwords j hj', if_neg (by omega), if_neg (by omega)]
  rw [hwords 0 (by decide), hwords 1 (by decide), if_pos rfl, if_neg (by decide), if_pos rfl,
    hbehind, hround, hfirst, hsecond, hplaced]

/-- The words of a state that is seeded with a key of one word. -/
theorem map_wordAt_ofKey (key : UInt32) :
    (List.range 624).map (wordAt (ofKey #[key]).words) = seedWords key := by
  have hfirst : wordAt (expand 19650218) 0 = 19650218 := wordAt_expand _ (by decide)
  obtain ⟨hsecond, hrest⟩ := behind_mixKey_again key (expand 19650218) rfl
  rw [hfirst, behind_expand] at hsecond hrest
  change (List.range 624).map (wordAt (putWord (Nat.fold 623 (fun t _ => mixPosition (624 + t))
    (Nat.fold 624 (fun t _ => mixKey #[key] t) (expand 19650218))) 0 0x80000000)) = _
  rw [map_wordAt_mixPosition _ _ rfl, hsecond, hrest, seedWords, placeWords]

/-! ## The first words -/

/-- The word that is made of a word, the word behind it and one further on where a
state is renewed. -/
def twist (w next far : UInt32) : UInt32 :=
  let y := (w &&& 0x80000000) ||| (next &&& 0x7fffffff)
  far ^^^ (y >>> 1) ^^^ if y &&& 1 = 0 then 0 else 0x9908b0df

/-- One step of the renewal of a state. -/
def renewStep (i : Nat) (words : Vector UInt32 624) : Vector UInt32 624 :=
  putWord words i (twist (wordAt words i) (wordAt words (i + 1)) (wordAt words (i + 397)))

theorem wordAt_fold_renewStep (hn : n ≤ 624) (hj : j < 624) :
    (n ≤ j → wordAt (Nat.fold n (fun t _ => renewStep t) words) j = wordAt words j) ∧
      (j < n → j < 227 → wordAt (Nat.fold n (fun t _ => renewStep t) words) j =
        twist (wordAt words j) (wordAt words (j + 1)) (wordAt words (j + 397))) := by
  induction n generalizing j with
  | zero => exact ⟨fun _ => rfl, fun hlt => absurd hlt (Nat.not_lt_zero _)⟩
  | succ n ih =>
    have hold : ∀ i < 624, n ≤ i →
        wordAt (Nat.fold n (fun t _ => renewStep t) words) i = wordAt words i :=
      fun i hi => (ih (Nat.le_of_succ_le hn) hi).1
    rw [Nat.fold_succ, renewStep, wordAt_putWord (by omega) hj]
    refine ⟨fun hle => ?_, fun hlt hfront => ?_⟩
    · rw [if_neg (by omega), hold j hj (by omega)]
    · split
      · next heq =>
        rw [heq] at hfront ⊢
        rw [hold n (by omega) (Nat.le_refl _), hold (n + 1) (by omega) (by omega),
          hold (n + 397) (by omega) (by omega)]
      · exact (ih (Nat.le_of_succ_le hn) hj).2 (by omega) hfront

/-- The words in front are made of words that are not renewed yet. -/
theorem wordAt_renew (hj : j < 227) :
    wordAt (renew words) j =
      twist (wordAt words j) (wordAt words (j + 1)) (wordAt words (j + 397)) :=
  (wordAt_fold_renewStep (Nat.le_refl 624) (by omega)).2 (by omega) hj

theorem skip_of_used {g : Twister} (hused : g.used = 624) (hn : n < 624) :
    g.skip (n + 1) = ⟨renew g.words, n + 1⟩ := by
  induction n with
  | zero =>
    rw [skip_succ, skip_zero, next, if_neg (by omega)]
  | succ n ih =>
    rw [skip_add (n + 1) 1, ih (by omega), skip_succ, skip_zero, next, if_pos hn]

/-- A state that was given out is renewed for the words behind it. -/
theorem word_of_used {g : Twister} (hused : g.used = 624) (hn : n < 624) :
    g.word n = temper (wordAt (renew g.words) n) := by
  cases n with
  | zero => rw [word, skip_zero, next, if_neg (by omega)]
  | succ n => rw [word, skip_of_used hused (by omega), next, if_pos hn]

/-- The word behind `n` others of a generator that was seeded to these words. -/
def wordOf (words : List UInt32) (n : Nat) : UInt32 :=
  temper (twist (words.getD n 0) (words.getD (n + 1) 0) (words.getD (n + 397) 0))

theorem getD_seedWords (key : UInt32) (hj : j < 624) :
    (seedWords key).getD j 0 = wordAt (ofKey #[key]).words j := by
  rw [← map_wordAt_ofKey, List.getD_eq_getElem?_getD, List.getElem?_map, List.getElem?_range hj,
    Option.map_some, Option.getD_some]

theorem word_ofSeed {seed : Int} (hseed : seed.natAbs < 0x100000000) (hn : n < 227) :
    (ofSeed seed).word n = wordOf (seedWords (UInt32.ofNat seed.natAbs)) n := by
  have hkey : ofSeed seed = ofKey #[UInt32.ofNat seed.natAbs] := by
    rw [ofSeed, keyOf, if_pos hseed]
  rw [hkey, word_of_used rfl (by omega), wordAt_renew hn, wordOf, getD_seedWords _ (by omega),
    getD_seedWords _ (by omega), getD_seedWords _ (by omega)]

/-- **First words**: the words that a generator gives out behind some others, if it
is seeded with a number of one digit. -/
theorem first_skip_ofSeed {seed : Int} (hseed : seed.natAbs < 0x100000000) (hn : m + n ≤ 227) :
    ((ofSeed seed).skip m).first n =
      (List.range' m n).map (wordOf (seedWords (UInt32.ofNat seed.natAbs))) := by
  rw [first, List.range'_eq_map_range, List.map_map]
  refine List.map_congr_left fun i hi => ?_
  have hlt := List.mem_range.1 hi
  rw [word_skip, word_ofSeed hseed (by omega), Function.comp_apply]

example : (ofSeed (-7)).first 4 = [0x52e6b438, 0xf2a74de4, 0x269e0d37, 0x6513270e] :=
  (first_skip_ofSeed (m := 0) (by decide) (by decide)).trans (by decide +kernel)

end Dicebag.Twister
