/-!
# Dicebag.Source.Twister

The Mersenne Twister MT19937: a state of 624 words of 32 bits that is
renewed as a whole once all its words have been given out.  A natural
number seeds it, through its base-2³² digits; from its words numbers of
any width are put together, and from those, by rejection, numbers below
any bound.

* `below?_lt` — a number asked for below a bound is below it.
-/

namespace Dicebag

/-- The words of the state, and how many of them have been given out. -/
structure Twister where
  words : Vector UInt32 624
  used : Nat

namespace Twister

/-! ## Seeding -/

/-- The word at a position, positions being counted around the state. -/
def wordAt (words : Vector UInt32 624) (i : Nat) : UInt32 :=
  words.get ⟨i % 624, Nat.mod_lt i (by decide)⟩

/-- Replaces the word at a position, positions being counted around the
state. -/
def putWord (words : Vector UInt32 624) (i : Nat) (word : UInt32) : Vector UInt32 624 :=
  words.set (i % 624) word (Nat.mod_lt i (by decide))

/-- A word with its upper bits mixed into its lower ones. -/
def fold30 (word : UInt32) : UInt32 := word ^^^ (word >>> 30)

/-- The words that a single word expands to. -/
def expand (seed : UInt32) : Vector UInt32 624 :=
  Nat.fold 623
    (fun i _ words =>
      putWord words (i + 1) (1812433253 * fold30 (wordAt words i) + UInt32.ofNat (i + 1)))
    (putWord (Vector.replicate 624 0) 0 seed)

/-- The base-2³² digits of a number, lowest first; zero has one digit. -/
def keyOf (n : Nat) : List UInt32 :=
  if n < 0x100000000 then [UInt32.ofNat n]
  else UInt32.ofNat n :: keyOf (n / 0x100000000)
termination_by n

/-- The position that the `t`-th step of seeding works on: all positions
but the first, over and over. -/
def position (t : Nat) : Nat := 1 + t % 623

/-- Replaces the word at a position of seeding.  The first word follows
the last, so that the next position always finds its predecessor just
before it. -/
def putBeside (words : Vector UInt32 624) (i : Nat) (word : UInt32) : Vector UInt32 624 :=
  let words := putWord words i word
  if i = 623 then putWord words 0 word else words

/-- One step of mixing the key into the state. -/
def mixKey (key : Array UInt32) (t : Nat) (words : Vector UInt32 624) : Vector UInt32 624 :=
  let i := position t
  let j := t % key.size
  putBeside words i
    ((wordAt words i ^^^ (fold30 (wordAt words (i - 1)) * 1664525)) + key.getD j 0
      + UInt32.ofNat j)

/-- One step of mixing the positions into the state. -/
def mixPosition (t : Nat) (words : Vector UInt32 624) : Vector UInt32 624 :=
  let i := position t
  putBeside words i
    ((wordAt words i ^^^ (fold30 (wordAt words (i - 1)) * 1566083941)) - UInt32.ofNat i)

/-- The state seeded with a key: every word of the key and every position
is mixed in at least once. -/
def ofKey (key : Array UInt32) : Twister :=
  let rounds := max 624 key.size
  let words := Nat.fold rounds (fun t _ words => mixKey key t words) (expand 19650218)
  let words := Nat.fold 623 (fun t _ words => mixPosition (rounds + t) words) words
  ⟨putWord words 0 0x80000000, 624⟩

/-- The state seeded with a number, whose sign does not matter. -/
def ofSeed (seed : Int) : Twister := ofKey (keyOf seed.natAbs).toArray

/-! ## Words -/

/-- The words that follow a state all of whose words have been given out. -/
def renew (words : Vector UInt32 624) : Vector UInt32 624 :=
  Nat.fold 624
    (fun i _ words =>
      let y := (wordAt words i &&& 0x80000000) ||| (wordAt words (i + 1) &&& 0x7fffffff)
      let twist : UInt32 := if y &&& 1 = 0 then 0 else 0x9908b0df
      putWord words i (wordAt words (i + 397) ^^^ (y >>> 1) ^^^ twist))
    words

/-- What is given out for a word of the state. -/
def temper (word : UInt32) : UInt32 :=
  let y := word ^^^ (word >>> 11)
  let y := y ^^^ ((y <<< 7) &&& 0x9d2c5680)
  let y := y ^^^ ((y <<< 15) &&& 0xefc60000)
  y ^^^ (y >>> 18)

/-- The next word, and the state after it. -/
def next (g : Twister) : UInt32 × Twister :=
  if g.used < 624 then (temper (wordAt g.words g.used), ⟨g.words, g.used + 1⟩)
  else
    let words := renew g.words
    (temper (wordAt words 0), ⟨words, 1⟩)

/-! ## Numbers -/

/-- A number of `k` bits: words from the lowest up, of the last of which
only the upper bits are taken. -/
def bits (k : Nat) (g : Twister) : Nat × Twister :=
  if k ≤ 32 then
    let (word, g) := g.next
    (word.toNat >>> (32 - k), g)
  else
    let (word, g) := g.next
    let (rest, g) := bits (k - 32) g
    (word.toNat + 0x100000000 * rest, g)
termination_by k

/-- A number below `bound`: numbers as wide as the bound are drawn until
one is below it.  Each of them is with a chance of at least one half, but
nothing bounds the search, and there is no number if none of them is. -/
def below? (bound : Nat) (g : Twister) : Option (Nat × Twister) :=
  let (n, behind) := bits (bound.log2 + 1) g
  if n < bound then some (n, behind) else (below? (g := behind)) bound
partial_fixpoint

/-! ## Laws -/

theorem below?_lt {bound n : Nat} {g g' : Twister} (h : below? bound g = some (n, g')) :
    n < bound := by
  refine below?.partial_correctness (fun bound _ found => found.1 < bound) ?_ bound g (n, g') h
  intro search ih bound g found h
  simp only at h
  split at h
  · cases h; assumption
  · exact ih _ _ _ h

end Twister

end Dicebag
