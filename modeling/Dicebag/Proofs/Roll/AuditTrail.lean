import Dicebag.Proofs.Expression.RoundTrip
import Dicebag.Proofs.Roll.Auditing
import Dicebag.Proofs.Roll.Reading

/-!
# Dicebag.Proofs.Roll.AuditTrail

The log of a roll tells all of it.  Each message is read back as the
expression and the values that it shows (`LogEntry.read?_render`), the
messages of a roll are one for the pool and one for each chain
(`Expression.IsTrail`), and what they show is what was drawn, in the order in
which it was drawn (`Expression.roll_leaves_trail`).  A roll that stops has
told of the parts that were complete.

That the level at which the log is written changes nothing but the log is
`Expression.alike_roll`.
-/

namespace Dicebag

/-! ## Messages read back -/

namespace LogEntry

/-- What a message shows: the expression, and the values in brackets behind
it. -/
inductive Shown where
  | pool (expression : String) (rolled kept : List Int)
  | chain (expression : String) (rolled : List Int)
  deriving DecidableEq

/-- What the text behind the colon of a message shows. -/
def readLists? (expression : String) (text : List Char) : Option Shown :=
  match text.dropPrefix? " rolled [".toList with
  | some lists => do
    let (rolled, rest) ← lists.dropInfix? "], kept [".toList
    let kept ← rest.dropSuffix? [']']
    let rolled ← Decimal.readIntegers? [',', ' '] rolled
    let kept ← Decimal.readIntegers? [',', ' '] kept
    pure (.pool expression rolled kept)
  | none => do
    let rest ← text.dropPrefix? " explosion chain [".toList
    let rolled ← rest.dropSuffix? [']']
    let rolled ← Decimal.readIntegers? [',', ' '] rolled
    pure (.chain expression rolled)

/-- What a message shows, the expression in front of its first colon. -/
def read? (message : String) : Option Shown :=
  match Text.cutFirst? (· == ':') message.toList with
  | some (expression, _, text) => readLists? (String.ofList expression) text
  | none => none

/-- What an entry tells, the expression in its canonical form. -/
def shown : LogEntry → Shown
  | .pool e rolled kept => .pool (String.ofList e.chars) rolled kept
  | .chain e rolled => .chain (String.ofList e.chars) rolled

variable {entry : LogEntry} {message : String} {values rolled kept : List Int}

theorem readIntegers?_list (h : ∀ v ∈ values, Decimal.fits v = true) :
    Decimal.readIntegers? [',', ' '] ([',', ' '].intercalate (values.map Decimal.integer)) =
      some values :=
  Decimal.readIntegers?_intercalate (by decide) (by decide) (by decide) h

/-- A bracket ends the values that stand in front of it. -/
theorem dropInfix?_lists (values : List Int) (rest : List Char) :
    ([',', ' '].intercalate (values.map Decimal.integer) ++ "], kept [".toList ++ rest).dropInfix?
        "], kept [".toList =
      some ([',', ' '].intercalate (values.map Decimal.integer), rest) :=
  Text.dropInfix?_of_first_notMem
    (fun h => absurd (Decimal.mem_intercalate_integers h) (by decide)) rest

theorem readLists?_pool (expression : String) (hrolled : ∀ v ∈ rolled, Decimal.fits v = true)
    (hkept : ∀ v ∈ kept, Decimal.fits v = true) :
    readLists? expression (" rolled ".toList ++ list rolled ++ ", kept ".toList ++ list kept) =
      some (.pool expression rolled kept) := by
  have htext : " rolled ".toList ++ list rolled ++ ", kept ".toList ++ list kept =
      " rolled [".toList ++ ([',', ' '].intercalate (rolled.map Decimal.integer) ++
        "], kept [".toList ++ ([',', ' '].intercalate (kept.map Decimal.integer) ++ [']'])) := by
    simp [list]
  rw [readLists?, htext, List.dropPrefix?_append_of_beq _ (beq_self_eq_true _)]
  simp only [dropInfix?_lists, Text.dropSuffix?_append, readIntegers?_list hrolled,
    readIntegers?_list hkept, Option.bind_eq_bind, Option.bind_some]
  rfl

theorem readLists?_chain (expression : String) (h : ∀ v ∈ rolled, Decimal.fits v = true) :
    readLists? expression (" explosion chain ".toList ++ list rolled) =
      some (.chain expression rolled) := by
  have htext : " explosion chain ".toList ++ list rolled =
      " explosion chain [".toList ++
        ([',', ' '].intercalate (rolled.map Decimal.integer) ++ [']']) := by
    simp [list]
  have hother : ∀ rest : List Char,
      (" explosion chain [".toList ++ rest).dropPrefix? " rolled [".toList = none := fun _ => rfl
  rw [readLists?, htext, hother, List.dropPrefix?_append_of_beq _ (beq_self_eq_true _)]
  simp only [Text.dropSuffix?_append, readIntegers?_list h, Option.bind_eq_bind,
    Option.bind_some]
  rfl

/-- A message is cut behind the expression. -/
theorem cutFirst?_chars (e : Expression) (rest : List Char) :
    Text.cutFirst? (· == ':') (e.chars ++ ':' :: rest) = some (e.chars, ':', rest) := by
  refine Text.cutFirst?_of_notMem (fun h => ?_) rest
  exact absurd (Expression.mem_chars h) (by decide)

/-- The message of an entry shows what the entry tells. -/
theorem read?_render (h : entry.render = .ok message) : read? message = some entry.shown := by
  obtain ⟨hfits, rfl⟩ := Decimal.render_eq_ok_iff.1 h
  cases entry with
  | pool e rolled kept =>
    have htext : (LogEntry.pool e rolled kept).chars = e.chars ++ ':' ::
        (" rolled ".toList ++ list rolled ++ ", kept ".toList ++ list kept) := by
      simp [chars]
    have hnumbers : (∀ v ∈ rolled, Decimal.fits v = true) ∧ ∀ v ∈ kept, Decimal.fits v = true := by
      simp only [numbers, List.forall_mem_append] at hfits
      exact ⟨hfits.1.2, hfits.2⟩
    rw [read?, String.toList_ofList, htext, cutFirst?_chars]
    exact readLists?_pool _ hnumbers.1 hnumbers.2
  | chain e rolled =>
    have htext : (LogEntry.chain e rolled).chars = e.chars ++ ':' ::
        (" explosion chain ".toList ++ list rolled) := by
      simp [chars]
    have hnumbers : ∀ v ∈ rolled, Decimal.fits v = true := by
      simp only [numbers, List.forall_mem_append] at hfits
      exact hfits.2
    rw [read?, String.toList_ofList, htext, cutFirst?_chars]
    exact readLists?_chain _ hnumbers

/-- The message of an entry whose numbers are short enough. -/
def record (entry : LogEntry) : LogRecord :=
  ⟨Level.debug.rank, "legend.roller", String.ofList entry.chars⟩

theorem record?_eq (h : ∀ n ∈ entry.numbers, Decimal.fits n = true) :
    entry.record? = some entry.record := by
  have hrender : entry.render = .ok (String.ofList entry.chars) :=
    Decimal.render_eq_ok_iff.2 ⟨h, rfl⟩
  rw [record?, hrender]
  rfl

theorem read?_record (h : ∀ n ∈ entry.numbers, Decimal.fits n = true) :
    read? entry.record.message = some entry.shown :=
  read?_render (Decimal.render_eq_ok_iff.2 ⟨h, rfl⟩)

end LogEntry

/-! ## Logs of rolls -/

namespace Logging

/-- How dice are rolled at a level, as in a run: a log is kept where it is
written. -/
def rollMode (l : Logging) (trance : Bool) : RollMode :=
  ⟨trance, l.writes "legend.roller" Level.debug.rank⟩

/-- What is written of the log of a table. -/
def written (l : Logging) (t : Table) : List LogRecord :=
  (t.log.reverse.filterMap LogEntry.record?).filter fun r => l.writes r.logger r.rank

/-- The level at which rolls are told of. -/
def debug : Logging := ⟨Level.debug.rank⟩

theorem debug_writes : debug.writes "legend.roller" Level.debug.rank = true := rfl

theorem debug_rollMode (trance : Bool) : debug.rollMode trance = ⟨trance, true⟩ := rfl

end Logging

namespace Expression

/-- The entries of a log that tell of a pool and of chains. -/
def trail (e : Expression) (pool : List Int) (chains : List (List Int)) : List LogEntry :=
  .pool e pool (e.window pool) :: chains.map (.chain e)

/-- Records of a log that tell of a pool and of chains: one for the pool and
one for each chain, with their texts as messages.  What the messages show is
the expression in its canonical form, the pool in order, its window in
ascending order, and the chains in order. -/
structure IsTrail (e : Expression) (pool : List Int) (chains : List (List Int))
    (records : List LogRecord) : Prop where
  written : records = (e.trail pool chains).map LogEntry.record
  shown : ∃ label, e.render = .ok label ∧
    records.map (fun r => LogEntry.read? r.message) =
      some (.pool label pool (e.window pool)) :: chains.map fun c => some (.chain label c)
  ascending : (e.window pool).Pairwise (· ≤ ·)

variable {e : Expression} {items pool : List Int} {chains : List (List Int)} {t : Table}

theorem IsTrail.length_eq {records : List LogRecord} (h : e.IsTrail pool chains records) :
    records.length = 1 + chains.length := by
  simp [h.written, trail, Nat.add_comm]

/-- At that level a roll notes its pool and its chains. -/
theorem noted_append_chainEntries (e : Expression) (trance : Bool) (pool : List Int)
    (chains : List (List Int)) :
    noted (Logging.debug.rollMode trance).audit (.pool e pool (e.window pool)) ++
      e.chainEntries (Logging.debug.rollMode trance) chains = e.trail pool chains := by
  simp [Logging.debug_rollMode, noted, chainEntries, trail, List.map_eq_flatMap]

theorem fits_trail (hfits : ∀ n ∈ e.numbers ++ (pool ++ chains.flatten), Decimal.fits n = true)
    {entry : LogEntry} (hentry : entry ∈ e.trail pool chains) :
    ∀ n ∈ entry.numbers, Decimal.fits n = true := by
  simp only [List.forall_mem_append] at hfits
  obtain ⟨hexpression, hpool, hchains⟩ := hfits
  obtain rfl | hentry := List.mem_cons.1 hentry
  · simp only [LogEntry.numbers, List.forall_mem_append]
    exact ⟨⟨hexpression, hpool⟩, fun v hv => hpool v (mem_of_mem_window hv)⟩
  · obtain ⟨c, hc, rfl⟩ := List.mem_map.1 hentry
    simp only [LogEntry.numbers, List.forall_mem_append]
    exact ⟨hexpression, fun v hv => hchains v (List.mem_flatten.2 ⟨c, hc, hv⟩)⟩

/-- A log with the entries of a trail is written as one. -/
theorem isTrail_written (hfits : ∀ n ∈ e.numbers ++ (pool ++ chains.flatten), Decimal.fits n = true)
    (hlog : t.log = (e.trail pool chains).reverse) :
    e.IsTrail pool chains (Logging.debug.written t) := by
  have hrecords : (e.trail pool chains).filterMap LogEntry.record? =
      (e.trail pool chains).map LogEntry.record := by
    rw [← List.filterMap_eq_map]
    exact List.filterMap_congr fun entry hentry => LogEntry.record?_eq (fits_trail hfits hentry)
  have hwritten : Logging.debug.written t = (e.trail pool chains).map LogEntry.record := by
    rw [Logging.written, hlog, List.reverse_reverse, hrecords, List.filter_eq_self,
      List.forall_mem_map]
    exact fun _ _ => Logging.debug_writes
  have hshown : (Logging.debug.written t).map (fun r => LogEntry.read? r.message) =
      (e.trail pool chains).map fun entry => some entry.shown := by
    rw [hwritten, List.map_map]
    exact List.map_congr_left fun entry hentry =>
      LogEntry.read?_record (fits_trail hfits hentry)
  refine ⟨hwritten, ⟨String.ofList e.chars, ?_, ?_⟩, pairwise_window e pool⟩
  · exact Decimal.render_eq_ok_iff.2 ⟨fun n hn => hfits n (List.mem_append_left _ hn), rfl⟩
  · rw [hshown, trail, List.map_cons, List.map_map]
    rfl

/-- **The log is an audit trail**: let the numbers of an expression and the
items of a script be short enough to be written.  Rolling the expression
from the script with the log at the level of debugging comes to the same as
with the log at any other level: the same roll or error, the same requests,
and the same items left.

* If the roll completes, it has consumed a pool and chains, one for each die
  of the window that is at or above the threshold.  There is one message for
  the pool and one for each chain, in that order, and they show the items in
  the order in which they were consumed; the window and the chains, sorted,
  are the roll.
* If the script runs out within the pool, nothing is logged.
* If it runs out behind the pool, there is one message for the pool and one
  for each chain that was finished; the items behind these began a chain. -/
theorem roll_leaves_trail (e : Expression) (trance : Bool) (l : Logging) (items : List Int)
    (hshort : ∀ n ∈ e.numbers ++ items, Decimal.width n ≤ Decimal.maxDigits) :
    let mode := Logging.debug.rollMode trance
    let run := (e.roll mode).run (.ofSource (.script items))
    ResultAlike Eq run ((e.roll (l.rollMode trance)).run (.ofSource (.script items))) ∧
    (∀ r t, run = .ok r t →
      ∃ pool chains rest, e.IsRoll mode pool chains ∧ items = pool ++ chains.flatten ++ rest ∧
        t.source = .script rest ∧
        r.values = descending (e.window pool ++ chains.flatten) ∧
        (Logging.debug.written t).length = 1 + (e.window pool).countP (e.explodes mode) ∧
        e.IsTrail pool chains (Logging.debug.written t)) ∧
    ∀ err t, run = .error err t →
      err = .scriptExhausted ∧ t.source = .script [] ∧
      (items.length < e.poolSize.toNat → Logging.debug.written t = []) ∧
      (e.poolSize.toNat ≤ items.length →
        ∃ pool chains unfinished, items = pool ++ (chains.flatten ++ unfinished) ∧
          pool.length = e.poolSize.toNat ∧
          chains.length < (e.window pool).countP (e.explodes mode) ∧
          (∀ c ∈ chains, IsChain (e.explodes mode) c) ∧
          (∀ v ∈ unfinished, e.explodes mode v = true) ∧
          e.IsTrail pool chains (Logging.debug.written t)) := by
  intro mode run
  have hfits : ∀ {values rest : List Int}, items = values ++ rest →
      ∀ n ∈ e.numbers ++ values, Decimal.fits n = true := by
    intro values rest hitems n hn
    refine (Decimal.fits_iff_width_le n).2 (hshort n ?_)
    rw [hitems, ← List.append_assoc]
    exact List.mem_append_left _ hn
  refine ⟨e.alike_roll trance _ _ _ _ (.refl _), fun r t hrun => ?_, fun err t hrun => ?_⟩
  · obtain ⟨pool, chains, rest, hroll, hitems, hr, ht⟩ := run_roll_script_eq_ok_iff.1 hrun
    have hlog : t.log = (e.trail pool chains).reverse := by
      rw [ht, noted_append_chainEntries]
    have htrail := isTrail_written (hfits hitems) hlog
    refine ⟨pool, chains, rest, hroll, hitems, by rw [ht], by rw [hr], ?_, htrail⟩
    rw [htrail.length_eq, hroll.length_chains]
  · obtain ⟨values, hlt, hstopped⟩ |
      ⟨pool, chains, values, hpool, hlt, hchains, hvalues, hstopped⟩ :=
      run_roll_eq_error_iff.1 hrun
    · obtain ⟨rfl, herr, ht⟩ := Table.stopped_script_iff.1 hstopped
      refine ⟨herr, by rw [ht], fun _ => ?_, fun hle => absurd hlt (Nat.not_lt.2 hle)⟩
      rw [ht]
      rfl
    · obtain ⟨hitems, herr, ht⟩ := Table.stopped_script_iff.1 hstopped
      have hlog : t.log = (e.trail pool chains).reverse := by
        rw [ht, noted_append_chainEntries]
        exact List.append_nil _
      have htrail := isTrail_written (hfits (hitems.trans (List.append_assoc ..).symm)) hlog
      refine ⟨herr, by rw [ht], fun hless => ?_, fun _ =>
        ⟨pool, chains, values, hitems, hpool, hlt, hchains, hvalues, htrail⟩⟩
      rw [hitems, List.length_append] at hless
      omega

/-- Both dice that are kept of three explode, and the log tells of all six
items that were consumed; a script that runs out within the pool leaves no
log. -/
theorem roll_leaves_trail_two_chains :
    ∃ t t' pool chains, ((⟨2, 6, 1, some 5, by decide, by decide⟩ : Expression).roll
          (Logging.debug.rollMode false)).run (.ofSource (.script [3, 6, 5, 2, 6, 1, 4])) =
        .ok ⟨[6, 6, 5, 2, 1]⟩ t ∧
      pool ++ chains.flatten = [3, 6, 5, 2, 6, 1] ∧
      (⟨2, 6, 1, some 5, by decide, by decide⟩ : Expression).IsTrail pool chains
        (Logging.debug.written t) ∧
      ((⟨2, 6, 1, some 5, by decide, by decide⟩ : Expression).roll
          (Logging.debug.rollMode false)).run (.ofSource (.script [3, 6])) =
        .error .scriptExhausted t' ∧
      Logging.debug.written t' = [] := by
  let e : Expression := ⟨2, 6, 1, some 5, by decide, by decide⟩
  have hrun : (e.roll (Logging.debug.rollMode false)).run
      (.ofSource (.script [3, 6, 5, 2, 6, 1, 4])) = .ok ⟨[6, 6, 5, 2, 1]⟩
        ⟨.script [4], List.replicate 6 ⟨1, 6⟩, (e.trail [3, 6, 5] [[2], [6, 1]]).reverse⟩ := by
    rw [Logging.debug_rollMode]
    cbv
  have hstopped : (e.roll (Logging.debug.rollMode false)).run (.ofSource (.script [3, 6])) =
      .error .scriptExhausted ⟨.script [], List.replicate 3 ⟨1, 6⟩, []⟩ := by
    rw [Logging.debug_rollMode]
    cbv
  obtain ⟨_, hok, _⟩ := roll_leaves_trail e false {} [3, 6, 5, 2, 6, 1, 4] (by decide +kernel)
  obtain ⟨_, _, herror⟩ := roll_leaves_trail e false {} [3, 6] (by decide +kernel)
  obtain ⟨pool, chains, rest, _, hitems, hrest, _, _, htrail⟩ := hok _ _ hrun
  obtain ⟨_, _, hnothing, _⟩ := herror _ _ hstopped
  cases hrest
  have hconsumed : [3, 6, 5, 2, 6, 1] ++ [4] = pool ++ chains.flatten ++ [4] := hitems
  exact ⟨_, _, pool, chains, hrun, (List.append_cancel_right hconsumed).symm, htrail, hstopped,
    hnothing (by decide)⟩

end Expression

end Dicebag
