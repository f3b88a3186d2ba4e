import Dicebag.Roll.Execute

/-!
# Dicebag.Proofs.Roll.Dealing

What dealing does to a table, said once for every kind of source.

`Source.Yields` tells which values a source answers with, one after the
other.  `Table.Dealt` says of two tables that one comes of the other by
such answers and by entries of the log, and `Table.Stopped` that the
source refused the request after them.  Every deal is then one
equivalence for the case that it ends and one for the case that it stops,
and later modules reason from these and open no deal:

* `run_pool_eq_ok_iff`, `run_pool_eq_error_iff` — a pool is that many values;
* `run_chain_eq_ok_iff`, `run_chain_eq_error_iff` — a chain ends with its
  first value that does not explode;
* `run_chains_eq_ok_iff`, `run_chains_eq_error_iff` — chains one after the other;
* `run_roll_eq_ok_iff`, `run_roll_eq_error_iff` — a whole roll.
-/

namespace Dicebag

/-! ## What a source yields -/

/-- Asked again and again for a number between two bounds, a source
answers with the values in order and has become another source then. -/
inductive Source.Yields (lo hi : Int) : Source → List Int → Source → Prop
  | nil {s} : Yields lo hi s [] s
  | cons {s s' s'' value values} (hdraw : s.draw lo hi = .ok (value, s'))
    (hrest : Yields lo hi s' values s'') : Yields lo hi s (value :: values) s''

namespace Source.Yields

theorem append {lo hi : Int} {s s' s'' : Source} {values others : List Int}
    (h : s.Yields lo hi values s') (hothers : s'.Yields lo hi others s'') :
    s.Yields lo hi (values ++ others) s'' := by
  induction h with
  | nil => exact hothers
  | cons hdraw _ ih => exact .cons hdraw (ih hothers)

theorem append_iff {lo hi : Int} {s s'' : Source} {values others : List Int} :
    s.Yields lo hi (values ++ others) s'' ↔
      ∃ s', s.Yields lo hi values s' ∧ s'.Yields lo hi others s'' := by
  refine ⟨fun h => ?_, fun ⟨_, hvalues, hothers⟩ => hvalues.append hothers⟩
  induction values generalizing s with
  | nil => exact ⟨s, .nil, h⟩
  | cons value values ih =>
    obtain _ | ⟨hdraw, hrest⟩ := h
    obtain ⟨s', hvalues, hothers⟩ := ih hrest
    exact ⟨s', .cons hdraw hvalues, hothers⟩

/-- A source has as many answers fewer to come as it has given. -/
theorem supply_eq {lo hi : Int} {s s' : Source} {values : List Int}
    (h : s.Yields lo hi values s') : s.supply = s'.supply + values.length := by
  induction h with
  | nil => rfl
  | cons hdraw _ ih => rw [supply_of_draw hdraw, ih, List.length_cons, Nat.add_assoc]

/-- A script yields its items from the front. -/
theorem script_iff {lo hi : Int} {items values : List Int} {s : Source} :
    (Source.script items).Yields lo hi values s ↔
      ∃ rest, items = values ++ rest ∧ s = .script rest := by
  induction values generalizing items with
  | nil =>
    constructor
    · intro h
      cases h
      exact ⟨items, rfl, rfl⟩
    · intro ⟨rest, hitems, hs⟩
      rw [hs, hitems]
      exact .nil
  | cons value values ih =>
    constructor
    · intro h
      cases items with
      | nil => obtain _ | ⟨hdraw, _⟩ := h; cases hdraw
      | cons item items =>
        obtain _ | ⟨hdraw, hrest⟩ := h
        cases hdraw
        obtain ⟨rest, hitems, hs⟩ := ih.1 hrest
        exact ⟨rest, congrArg _ hitems, hs⟩
    · intro ⟨rest, hitems, hs⟩
      rw [hitems]
      exact .cons rfl (ih.2 ⟨rest, rfl, hs⟩)

end Source.Yields

/-! ## Ends and stops of deals -/

section

variable {α β : Type} {deal : Deal α} {next : α → Deal β} {t t' : Table}

theorem run_bind_eq_ok_iff {b : β} :
    (deal >>= next).run t = .ok b t' ↔
      ∃ a t₁, deal.run t = .ok a t₁ ∧ (next a).run t₁ = .ok b t' := by
  rw [EStateM.run_bind]
  cases deal.run t with
  | ok a t₁ =>
    refine ⟨fun h => ⟨a, t₁, rfl, h⟩, fun ⟨_, _, ha, h⟩ => ?_⟩
    cases ha
    exact h
  | error e t₁ => exact ⟨nofun, nofun⟩

theorem run_bind_eq_error_iff {e : DrawError} :
    (deal >>= next).run t = .error e t' ↔
      deal.run t = .error e t' ∨ ∃ a t₁, deal.run t = .ok a t₁ ∧ (next a).run t₁ = .error e t' := by
  rw [EStateM.run_bind]
  cases deal.run t with
  | ok a t₁ =>
    refine ⟨fun h => .inr ⟨a, t₁, rfl, h⟩, fun h => ?_⟩
    obtain h | ⟨_, _, ha, h⟩ := h
    · cases h
    · cases ha
      exact h
  | error e t₁ =>
    constructor
    · intro h
      cases h
      exact .inl rfl
    · intro h
      obtain h | ⟨_, _, ha, _⟩ := h
      · cases h
        rfl
      · cases ha

end

/-! ## What is dealt at a table -/

/-- One table comes of another by values that its source answered with,
each on a request for a die of so many faces, and by entries of its log. -/
structure Table.Dealt (faces : Int) (t : Table) (values : List Int) (entries : List LogEntry)
    (t' : Table) : Prop where
  yields : t.source.Yields 1 faces values t'.source
  calls : t'.calls = List.replicate values.length ⟨1, faces⟩ ++ t.calls
  log : t'.log = entries.reverse ++ t.log

/-- After the values and the entries the source refuses one more
request. -/
def Table.Stopped (faces : Int) (t : Table) (values : List Int) (entries : List LogEntry)
    (e : DrawError) (t' : Table) : Prop :=
  ∃ t₁, t.Dealt faces values entries t₁ ∧ (draw 1 faces).run t₁ = .error e t'

namespace Table

theorem dealt_nil_iff {faces : Int} {t t' : Table} : t.Dealt faces [] [] t' ↔ t' = t := by
  constructor
  · intro ⟨hyields, hcalls, hlog⟩
    obtain ⟨source, calls, log⟩ := t
    obtain ⟨source', calls', log'⟩ := t'
    obtain rfl : calls' = calls := hcalls
    obtain rfl : log' = log := hlog
    cases hyields
    rfl
  · intro h
    subst h
    exact ⟨.nil, rfl, rfl⟩

theorem dealt_append_iff {faces : Int} {t t' : Table} {values others : List Int}
    {entries more : List LogEntry} :
    t.Dealt faces (values ++ others) (entries ++ more) t' ↔
      ∃ t₁, t.Dealt faces values entries t₁ ∧ t₁.Dealt faces others more t' := by
  constructor
  · intro ⟨hyields, hcalls, hlog⟩
    obtain ⟨s, hvalues, hothers⟩ := Source.Yields.append_iff.1 hyields
    refine ⟨⟨s, List.replicate values.length ⟨1, faces⟩ ++ t.calls, entries.reverse ++ t.log⟩,
      ⟨hvalues, rfl, rfl⟩, ⟨hothers, ?_, ?_⟩⟩
    · rw [hcalls, List.length_append, Nat.add_comm, ← List.replicate_append_replicate,
        List.append_assoc]
    · rw [hlog, List.reverse_append, List.append_assoc]
  · intro ⟨t₁, ⟨hvalues, hcalls, hlog⟩, ⟨hothers, hcalls', hlog'⟩⟩
    refine ⟨hvalues.append hothers, ?_, ?_⟩
    · rw [hcalls', hcalls, ← List.append_assoc, List.replicate_append_replicate,
        List.length_append, Nat.add_comm]
    · rw [hlog', hlog, ← List.append_assoc, List.reverse_append]

theorem stopped_append_iff {faces : Int} {t t' : Table} {values others : List Int}
    {entries more : List LogEntry} {e : DrawError} :
    t.Stopped faces (values ++ others) (entries ++ more) e t' ↔
      ∃ t₁, t.Dealt faces values entries t₁ ∧ t₁.Stopped faces others more e t' := by
  constructor
  · intro ⟨t₂, hdealt, hdraw⟩
    obtain ⟨t₁, hvalues, hothers⟩ := dealt_append_iff.1 hdealt
    exact ⟨t₁, hvalues, t₂, hothers, hdraw⟩
  · intro ⟨t₁, hvalues, t₂, hothers, hdraw⟩
    exact ⟨t₂, dealt_append_iff.2 ⟨t₁, hvalues, hothers⟩, hdraw⟩

theorem stopped_nil_iff {faces : Int} {t t' : Table} {e : DrawError} :
    t.Stopped faces [] [] e t' ↔ (draw 1 faces).run t = .error e t' := by
  constructor
  · intro ⟨t₁, hdealt, hdraw⟩
    rw [dealt_nil_iff.1 hdealt] at hdraw
    exact hdraw
  · intro hdraw
    exact ⟨t, dealt_nil_iff.2 rfl, hdraw⟩

end Table

/-! ## Draws and notes -/

theorem run_draw_eq_ok_iff {faces value : Int} {t t' : Table} :
    (draw 1 faces).run t = .ok value t' ↔ t.Dealt faces [value] [] t' := by
  simp only [EStateM.run, draw]
  constructor
  · intro h
    split at h
    · next hdraw =>
      cases h
      exact ⟨.cons hdraw .nil, rfl, rfl⟩
    · cases h
  · intro h
    obtain ⟨hyields, hcalls, hlog⟩ := h
    obtain ⟨source, calls, log⟩ := t'
    obtain rfl : calls = ⟨1, faces⟩ :: t.calls := hcalls
    obtain rfl : log = t.log := hlog
    obtain _ | ⟨hdraw, hnil⟩ := hyields
    cases hnil
    rw [hdraw]

theorem run_draw_eq_error_iff {faces : Int} {t t' : Table} {e : DrawError} :
    (draw 1 faces).run t = .error e t' ↔
      t.source.draw 1 faces = .error e ∧ t' = ⟨t.source, ⟨1, faces⟩ :: t.calls, t.log⟩ := by
  simp only [EStateM.run, draw]
  constructor
  · intro h
    split at h
    · cases h
    · next hdraw =>
      cases h
      exact ⟨hdraw, rfl⟩
  · intro h
    obtain ⟨hdraw, ht⟩ := h
    rw [hdraw, ht]

/-- The first of several values is a draw. -/
theorem Table.dealt_cons_iff {faces value : Int} {values : List Int} {entries : List LogEntry}
    {t t' : Table} :
    t.Dealt faces (value :: values) entries t' ↔
      ∃ t₁, (draw 1 faces).run t = .ok value t₁ ∧ t₁.Dealt faces values entries t' := by
  simp only [run_draw_eq_ok_iff]
  exact @dealt_append_iff faces t t' [value] values [] entries

theorem Table.stopped_cons_iff {faces value : Int} {values : List Int}
    {entries : List LogEntry} {e : DrawError} {t t' : Table} :
    t.Stopped faces (value :: values) entries e t' ↔
      ∃ t₁, (draw 1 faces).run t = .ok value t₁ ∧ t₁.Stopped faces values entries e t' := by
  simp only [run_draw_eq_ok_iff]
  exact @stopped_append_iff faces t t' [value] values [] entries e

/-- The entries that a note adds. -/
def noted (wanted : Bool) (entry : LogEntry) : List LogEntry := if wanted then [entry] else []

theorem run_note_eq_ok_iff {faces : Int} {wanted : Bool} {entry : LogEntry} {t t' : Table} :
    (note wanted entry).run t = .ok () t' ↔ t.Dealt faces [] (noted wanted entry) t' := by
  rw [run_note]
  constructor
  · intro h
    cases h
    refine ⟨.nil, rfl, ?_⟩
    cases wanted <;> rfl
  · intro ⟨hyields, hcalls, hlog⟩
    obtain ⟨source, calls, log⟩ := t'
    obtain rfl : calls = t.calls := hcalls
    obtain rfl : log = (noted wanted entry).reverse ++ t.log := hlog
    cases hyields
    cases wanted <;> rfl

/-- Values are drawn first and noted then. -/
theorem Table.dealt_noted_iff {faces : Int} {wanted : Bool} {entry : LogEntry} {t t' : Table}
    {values : List Int} :
    t.Dealt faces values (noted wanted entry) t' ↔
      ∃ t₁, t.Dealt faces values [] t₁ ∧ (note wanted entry).run t₁ = .ok () t' := by
  have hsplit : t.Dealt faces (values ++ []) ([] ++ noted wanted entry) t' ↔ _ :=
    Table.dealt_append_iff
  rw [List.append_nil, List.nil_append] at hsplit
  simp only [hsplit, ← run_note_eq_ok_iff]

/-! ## Pools -/

theorem Die.run_pool_eq_ok_iff {die : Die} {n : Nat} {t t' : Table} {values : List Int} :
    (die.pool n).run t = .ok values t' ↔
      values.length = n ∧ t.Dealt die.faces values [] t' := by
  induction n generalizing t values with
  | zero =>
    rw [Die.pool_zero, List.length_eq_zero_iff]
    constructor
    · intro h
      cases h
      exact ⟨rfl, Table.dealt_nil_iff.2 rfl⟩
    · intro ⟨hnil, hdealt⟩
      subst hnil
      rw [Table.dealt_nil_iff.1 hdealt]
      rfl
  | succ n ih =>
    rw [Die.pool_succ, run_bind_eq_ok_iff]
    constructor
    · intro ⟨value, t₁, hvalue, h⟩
      obtain ⟨others, t₂, hothers, h⟩ := run_bind_eq_ok_iff.1 h
      cases h
      obtain ⟨hlength, hdealt⟩ := ih.1 hothers
      exact ⟨congrArg _ hlength, Table.dealt_cons_iff.2 ⟨t₁, hvalue, hdealt⟩⟩
    · intro ⟨hlength, hdealt⟩
      obtain ⟨value, others, rfl⟩ := List.exists_cons_of_length_eq_add_one hlength
      obtain ⟨t₁, hvalue, hothers⟩ := Table.dealt_cons_iff.1 hdealt
      have hpool := ih.2 ⟨Nat.succ.inj hlength, hothers⟩
      refine ⟨value, t₁, hvalue, ?_⟩
      exact run_bind_eq_ok_iff.2 ⟨others, t', hpool, rfl⟩

theorem Die.run_pool_eq_error_iff {die : Die} {n : Nat} {t t' : Table} {e : DrawError} :
    (die.pool n).run t = .error e t' ↔
      ∃ values, values.length < n ∧ t.Stopped die.faces values [] e t' := by
  induction n generalizing t with
  | zero => exact ⟨nofun, fun ⟨_, hlt, _⟩ => absurd hlt (Nat.not_lt_zero _)⟩
  | succ n ih =>
    rw [Die.pool_succ, run_bind_eq_error_iff]
    constructor
    · intro h
      obtain h | ⟨value, t₁, hvalue, h⟩ := h
      · exact ⟨[], Nat.succ_pos n, Table.stopped_nil_iff.2 h⟩
      · obtain h | ⟨_, _, _, h⟩ := run_bind_eq_error_iff.1 h
        · obtain ⟨others, hlt, hstopped⟩ := ih.1 h
          exact ⟨value :: others, Nat.succ_lt_succ hlt,
            Table.stopped_cons_iff.2 ⟨t₁, hvalue, hstopped⟩⟩
        · cases h
    · intro ⟨values, hlt, hstopped⟩
      cases values with
      | nil => exact .inl (Table.stopped_nil_iff.1 hstopped)
      | cons value others =>
        obtain ⟨t₁, hvalue, hothers⟩ := Table.stopped_cons_iff.1 hstopped
        have hpool := ih.2 ⟨others, Nat.lt_of_succ_lt_succ hlt, hothers⟩
        refine .inr ⟨value, t₁, hvalue, ?_⟩
        exact run_bind_eq_error_iff.2 (.inl hpool)

/-! ## Chains -/

theorem Die.explodesAt_of_none {die : Die} {threshold : Option Int}
    (h : die.effective threshold = none) (value : Int) :
    die.explodesAt threshold value = false := by
  unfold Die.explodesAt
  rw [h]

theorem Die.explodesAt_of_some {die : Die} {threshold : Option Int} {lowest : Int}
    (h : die.effective threshold = some lowest) (value : Int) :
    die.explodesAt threshold value = decide (lowest ≤ value) := by
  unfold Die.explodesAt
  rw [h]

/-- A die that explodes at a value explodes at any higher one. -/
theorem Die.explodesAt_mono {die : Die} {threshold : Option Int} {low high : Int}
    (hle : low ≤ high) (h : die.explodesAt threshold low = true) :
    die.explodesAt threshold high = true := by
  cases heffective : die.effective threshold with
  | none =>
    rw [Die.explodesAt_of_none heffective] at h
    contradiction
  | some lowest =>
    rw [Die.explodesAt_of_some heffective, decide_eq_true_eq] at h ⊢
    exact Int.le_trans h hle

/-- A chain of explosions: values that explode, and behind them one that
does not. -/
def IsChain (explodes : Int → Bool) (rolled : List Int) : Prop :=
  ∃ front last, rolled = front ++ [last] ∧ (∀ v ∈ front, explodes v = true) ∧
    explodes last = false

theorem not_isChain_nil {explodes : Int → Bool} : ¬ IsChain explodes [] := by
  intro ⟨front, last, hnil, _⟩
  exact absurd hnil.symm (List.append_ne_nil_of_right_ne_nil _ (List.cons_ne_nil _ _))

theorem isChain_cons_iff {explodes : Int → Bool} {value : Int} {rolled : List Int} :
    IsChain explodes (value :: rolled) ↔
      explodes value = true ∧ IsChain explodes rolled ∨
        explodes value = false ∧ rolled = [] := by
  constructor
  · intro ⟨front, last, heq, hfront, hlast⟩
    cases front with
    | nil =>
      cases heq
      exact .inr ⟨hlast, rfl⟩
    | cons v front =>
      obtain ⟨rfl, rfl⟩ := List.cons.inj heq
      obtain ⟨hv, hfront⟩ := List.forall_mem_cons.1 hfront
      exact .inl ⟨hv, front, last, rfl, hfront, hlast⟩
  · intro h
    obtain ⟨hvalue, front, last, rfl, hfront, hlast⟩ | ⟨hvalue, rfl⟩ := h
    · exact ⟨value :: front, last, rfl, List.forall_mem_cons.2 ⟨hvalue, hfront⟩, hlast⟩
    · exact ⟨[], value, rfl, fun _ hv => absurd hv List.not_mem_nil, hvalue⟩

theorem Die.run_chain_eq_ok_iff {die : Die} {threshold : Option Int} {t t' : Table}
    {rolled : List Int} :
    (die.chain threshold).run t = .ok rolled t' ↔
      IsChain (die.explodesAt threshold) rolled ∧ t.Dealt die.faces rolled [] t' := by
  -- a chain has no length of its own; the answers left in the source bound it
  generalize hn : t.source.supply = n
  induction n using Nat.strongRecOn generalizing t rolled with
  | ind n ih =>
    rw [Die.chain_eq, run_bind_eq_ok_iff]
    constructor
    · intro ⟨value, t₁, hvalue, h⟩
      have hlt := hn ▸ supply_lt_of_draw hvalue
      split at h
      · next hexplodes =>
        obtain ⟨others, t₂, hothers, h⟩ := run_bind_eq_ok_iff.1 h
        cases h
        obtain ⟨hchain, hdealt⟩ := (ih _ hlt rfl).1 hothers
        exact ⟨isChain_cons_iff.2 (.inl ⟨hexplodes, hchain⟩),
          Table.dealt_cons_iff.2 ⟨t₁, hvalue, hdealt⟩⟩
      · next hends =>
        cases h
        exact ⟨isChain_cons_iff.2 (.inr ⟨Bool.not_eq_true _ ▸ hends, rfl⟩),
          run_draw_eq_ok_iff.1 hvalue⟩
    · intro ⟨hchain, hdealt⟩
      cases rolled with
      | nil => exact absurd hchain not_isChain_nil
      | cons value others =>
        obtain ⟨t₁, hvalue, hothers⟩ := Table.dealt_cons_iff.1 hdealt
        have hlt := hn ▸ supply_lt_of_draw hvalue
        refine ⟨value, t₁, hvalue, ?_⟩
        obtain ⟨hexplodes, hchain⟩ | ⟨hends, rfl⟩ := isChain_cons_iff.1 hchain
        · rw [if_pos hexplodes, run_bind_eq_ok_iff]
          exact ⟨others, t', (ih _ hlt rfl).2 ⟨hchain, hothers⟩, rfl⟩
        · rw [if_neg (Bool.not_eq_true _ ▸ hends), Table.dealt_nil_iff.1 hothers]
          rfl

theorem Die.run_chain_eq_error_iff {die : Die} {threshold : Option Int} {t t' : Table}
    {e : DrawError} :
    (die.chain threshold).run t = .error e t' ↔
      ∃ values, (∀ v ∈ values, die.explodesAt threshold v = true) ∧
        t.Stopped die.faces values [] e t' := by
  generalize hn : t.source.supply = n
  induction n using Nat.strongRecOn generalizing t with
  | ind n ih =>
    rw [Die.chain_eq, run_bind_eq_error_iff]
    constructor
    · intro h
      obtain h | ⟨value, t₁, hvalue, h⟩ := h
      · exact ⟨[], fun _ hv => absurd hv List.not_mem_nil, Table.stopped_nil_iff.2 h⟩
      · have hlt := hn ▸ supply_lt_of_draw hvalue
        split at h
        · next hexplodes =>
          obtain h | ⟨_, _, _, h⟩ := run_bind_eq_error_iff.1 h
          · obtain ⟨others, hothers, hstopped⟩ := (ih _ hlt rfl).1 h
            exact ⟨value :: others, List.forall_mem_cons.2 ⟨hexplodes, hothers⟩,
              Table.stopped_cons_iff.2 ⟨t₁, hvalue, hstopped⟩⟩
          · cases h
        · cases h
    · intro ⟨values, hvalues, hstopped⟩
      cases values with
      | nil => exact .inl (Table.stopped_nil_iff.1 hstopped)
      | cons value others =>
        obtain ⟨hexplodes, hothers⟩ := List.forall_mem_cons.1 hvalues
        obtain ⟨t₁, hvalue, hstopped⟩ := Table.stopped_cons_iff.1 hstopped
        have hlt := hn ▸ supply_lt_of_draw hvalue
        refine .inr ⟨value, t₁, hvalue, ?_⟩
        rw [if_pos hexplodes, run_bind_eq_error_iff]
        exact .inl ((ih _ hlt rfl).2 ⟨others, hothers, hstopped⟩)

namespace Expression

/-- Whether a die of the expression explodes at a value. -/
abbrev explodes (e : Expression) (mode : RollMode) : Int → Bool :=
  (e.die mode).explodesAt e.threshold

/-- The entries that tell of the chains. -/
def chainEntries (e : Expression) (mode : RollMode) (chains : List (List Int)) : List LogEntry :=
  chains.flatMap fun chain => noted mode.audit (.chain e chain)

variable {e : Expression} {mode : RollMode} {t t' : Table}

theorem dealt_chains_cons_iff {chain : List Int} {chains : List (List Int)} :
    t.Dealt e.faces (chain :: chains).flatten (e.chainEntries mode (chain :: chains)) t' ↔
      ∃ t₁, t.Dealt e.faces chain (noted mode.audit (.chain e chain)) t₁ ∧
        t₁.Dealt e.faces chains.flatten (e.chainEntries mode chains) t' :=
  Table.dealt_append_iff

theorem stopped_chains_cons_iff {chain values : List Int} {chains : List (List Int)}
    {err : DrawError} :
    t.Stopped e.faces ((chain :: chains).flatten ++ values)
        (e.chainEntries mode (chain :: chains)) err t' ↔
      ∃ t₁, t.Dealt e.faces chain (noted mode.audit (.chain e chain)) t₁ ∧
        t₁.Stopped e.faces (chains.flatten ++ values) (e.chainEntries mode chains) err t' := by
  rw [List.flatten_cons, List.append_assoc]
  exact Table.stopped_append_iff

theorem run_chains_eq_ok_iff {n : Nat} {chains : List (List Int)} :
    (e.chains mode n).run t = .ok chains t' ↔
      chains.length = n ∧ (∀ c ∈ chains, IsChain (e.explodes mode) c) ∧
        t.Dealt e.faces chains.flatten (e.chainEntries mode chains) t' := by
  induction n generalizing t chains with
  | zero =>
    rw [chains_zero, List.length_eq_zero_iff]
    constructor
    · intro h
      cases h
      exact ⟨rfl, fun _ hc => absurd hc List.not_mem_nil, Table.dealt_nil_iff.2 rfl⟩
    · intro ⟨hnil, _, hdealt⟩
      subst hnil
      rw [Table.dealt_nil_iff.1 hdealt]
      rfl
  | succ n ih =>
    rw [chains_succ, run_bind_eq_ok_iff]
    constructor
    · intro ⟨chain, t₁, hrun, h⟩
      obtain ⟨hchain, hrolled⟩ := Die.run_chain_eq_ok_iff.1 hrun
      obtain ⟨_, t₂, hnote, h⟩ := run_bind_eq_ok_iff.1 h
      obtain ⟨others, t₃, hothers, h⟩ := run_bind_eq_ok_iff.1 h
      cases h
      obtain ⟨hlength, hchains, hdealt⟩ := ih.1 hothers
      have hnoted := Table.dealt_noted_iff.2 ⟨t₁, hrolled, hnote⟩
      exact ⟨congrArg _ hlength, List.forall_mem_cons.2 ⟨hchain, hchains⟩,
        dealt_chains_cons_iff.2 ⟨t₂, hnoted, hdealt⟩⟩
    · intro ⟨hlength, hchains, hdealt⟩
      obtain ⟨chain, others, rfl⟩ := List.exists_cons_of_length_eq_add_one hlength
      obtain ⟨hchain, hchains⟩ := List.forall_mem_cons.1 hchains
      obtain ⟨t₂, hnoted, hdealt⟩ := dealt_chains_cons_iff.1 hdealt
      obtain ⟨t₁, hrolled, hnote⟩ := Table.dealt_noted_iff.1 hnoted
      have hothers := ih.2 ⟨Nat.succ.inj hlength, hchains, hdealt⟩
      refine ⟨chain, t₁, Die.run_chain_eq_ok_iff.2 ⟨hchain, hrolled⟩, ?_⟩
      refine run_bind_eq_ok_iff.2 ⟨(), t₂, hnote, ?_⟩
      exact run_bind_eq_ok_iff.2 ⟨others, t', hothers, rfl⟩

theorem run_chains_eq_error_iff {n : Nat} {err : DrawError} :
    (e.chains mode n).run t = .error err t' ↔
      ∃ chains values, chains.length < n ∧ (∀ c ∈ chains, IsChain (e.explodes mode) c) ∧
        (∀ v ∈ values, e.explodes mode v = true) ∧
        t.Stopped e.faces (chains.flatten ++ values) (e.chainEntries mode chains) err t' := by
  induction n generalizing t with
  | zero => exact ⟨nofun, fun ⟨_, _, hlt, _⟩ => absurd hlt (Nat.not_lt_zero _)⟩
  | succ n ih =>
    rw [chains_succ, run_bind_eq_error_iff]
    constructor
    · intro h
      obtain h | ⟨chain, t₁, hrun, h⟩ := h
      · obtain ⟨values, hvalues, hstopped⟩ := Die.run_chain_eq_error_iff.1 h
        exact ⟨[], values, Nat.succ_pos n, fun _ hc => absurd hc List.not_mem_nil, hvalues,
          hstopped⟩
      · obtain ⟨hchain, hrolled⟩ := Die.run_chain_eq_ok_iff.1 hrun
        obtain h | ⟨_, t₂, hnote, h⟩ := run_bind_eq_error_iff.1 h
        · rw [run_note] at h
          cases h
        obtain h | ⟨_, _, _, h⟩ := run_bind_eq_error_iff.1 h
        · obtain ⟨others, values, hlt, hchains, hvalues, hstopped⟩ := ih.1 h
          have hnoted := Table.dealt_noted_iff.2 ⟨t₁, hrolled, hnote⟩
          exact ⟨chain :: others, values, Nat.succ_lt_succ hlt,
            List.forall_mem_cons.2 ⟨hchain, hchains⟩, hvalues,
            stopped_chains_cons_iff.2 ⟨t₂, hnoted, hstopped⟩⟩
        · cases h
    · intro ⟨chains, values, hlt, hchains, hvalues, hstopped⟩
      cases chains with
      | nil => exact .inl (Die.run_chain_eq_error_iff.2 ⟨values, hvalues, hstopped⟩)
      | cons chain others =>
        obtain ⟨hchain, hchains⟩ := List.forall_mem_cons.1 hchains
        obtain ⟨t₂, hnoted, hstopped⟩ := stopped_chains_cons_iff.1 hstopped
        obtain ⟨t₁, hrolled, hnote⟩ := Table.dealt_noted_iff.1 hnoted
        have hothers :=
          ih.2 ⟨others, values, Nat.lt_of_succ_lt_succ hlt, hchains, hvalues, hstopped⟩
        refine .inr ⟨chain, t₁, Die.run_chain_eq_ok_iff.2 ⟨hchain, hrolled⟩, ?_⟩
        refine run_bind_eq_error_iff.2 (.inr ⟨(), t₂, hnote, ?_⟩)
        exact run_bind_eq_error_iff.2 (.inl hothers)

/-! ## Rolls -/

/-- A pool and chains that a roll can consist of: the pool has the dice
that the expression rolls, and there is one chain for each die of its
window that explodes. -/
structure IsRoll (e : Expression) (mode : RollMode) (pool : List Int)
    (chains : List (List Int)) : Prop where
  length_pool : pool.length = e.poolSize.toNat
  length_chains : chains.length = (e.window pool).countP (e.explodes mode)
  isChain : ∀ c ∈ chains, IsChain (e.explodes mode) c

theorem run_roll_eq_ok_iff {r : Roll} :
    (e.roll mode).run t = .ok r t' ↔
      ∃ pool chains, e.IsRoll mode pool chains ∧
        r = ⟨descending (e.window pool ++ chains.flatten)⟩ ∧
        t.Dealt e.faces (pool ++ chains.flatten)
          (noted mode.audit (.pool e pool (e.window pool)) ++ e.chainEntries mode chains) t' := by
  rw [roll, run_bind_eq_ok_iff]
  constructor
  · intro ⟨pool, t₁, hpool, h⟩
    obtain ⟨hlength, hrolled⟩ := Die.run_pool_eq_ok_iff.1 hpool
    obtain ⟨_, t₂, hnote, h⟩ := run_bind_eq_ok_iff.1 h
    obtain ⟨chains, t₃, hchains, h⟩ := run_bind_eq_ok_iff.1 h
    cases h
    obtain ⟨hcount, hchains, hdealt⟩ := run_chains_eq_ok_iff.1 hchains
    have hnoted := Table.dealt_noted_iff.2 ⟨t₁, hrolled, hnote⟩
    exact ⟨pool, chains, ⟨hlength, hcount, hchains⟩, rfl,
      Table.dealt_append_iff.2 ⟨t₂, hnoted, hdealt⟩⟩
  · intro ⟨pool, chains, ⟨hlength, hcount, hchains⟩, hr, hdealt⟩
    obtain ⟨t₂, hnoted, hdealt⟩ := Table.dealt_append_iff.1 hdealt
    obtain ⟨t₁, hrolled, hnote⟩ := Table.dealt_noted_iff.1 hnoted
    have hchains := run_chains_eq_ok_iff.2 ⟨hcount, hchains, hdealt⟩
    refine ⟨pool, t₁, Die.run_pool_eq_ok_iff.2 ⟨hlength, hrolled⟩, ?_⟩
    refine run_bind_eq_ok_iff.2 ⟨(), t₂, hnote, ?_⟩
    exact run_bind_eq_ok_iff.2 ⟨chains, t', hchains, hr ▸ rfl⟩

/-- A roll stops in its pool, or in a chain after a whole pool. -/
theorem run_roll_eq_error_iff {err : DrawError} :
    (e.roll mode).run t = .error err t' ↔
      (∃ values, values.length < e.poolSize.toNat ∧ t.Stopped e.faces values [] err t') ∨
      ∃ pool chains values, pool.length = e.poolSize.toNat ∧
        chains.length < (e.window pool).countP (e.explodes mode) ∧
        (∀ c ∈ chains, IsChain (e.explodes mode) c) ∧
        (∀ v ∈ values, e.explodes mode v = true) ∧
        t.Stopped e.faces (pool ++ (chains.flatten ++ values))
          (noted mode.audit (.pool e pool (e.window pool)) ++ e.chainEntries mode chains)
          err t' := by
  rw [roll, run_bind_eq_error_iff]
  constructor
  · intro h
    obtain h | ⟨pool, t₁, hpool, h⟩ := h
    · exact .inl (Die.run_pool_eq_error_iff.1 h)
    · obtain ⟨hlength, hrolled⟩ := Die.run_pool_eq_ok_iff.1 hpool
      obtain h | ⟨_, t₂, hnote, h⟩ := run_bind_eq_error_iff.1 h
      · rw [run_note] at h
        cases h
      obtain h | ⟨_, _, _, h⟩ := run_bind_eq_error_iff.1 h
      · obtain ⟨chains, values, hlt, hchains, hvalues, hstopped⟩ := run_chains_eq_error_iff.1 h
        have hnoted := Table.dealt_noted_iff.2 ⟨t₁, hrolled, hnote⟩
        exact .inr ⟨pool, chains, values, hlength, hlt, hchains, hvalues,
          Table.stopped_append_iff.2 ⟨t₂, hnoted, hstopped⟩⟩
      · cases h
  · intro h
    obtain h | ⟨pool, chains, values, hlength, hlt, hchains, hvalues, hstopped⟩ := h
    · exact .inl (Die.run_pool_eq_error_iff.2 h)
    · obtain ⟨t₂, hnoted, hstopped⟩ := Table.stopped_append_iff.1 hstopped
      obtain ⟨t₁, hrolled, hnote⟩ := Table.dealt_noted_iff.1 hnoted
      have hstops := run_chains_eq_error_iff.2 ⟨chains, values, hlt, hchains, hvalues, hstopped⟩
      refine .inr ⟨pool, t₁, Die.run_pool_eq_ok_iff.2 ⟨hlength, hrolled⟩, ?_⟩
      refine run_bind_eq_error_iff.2 (.inr ⟨(), t₂, hnote, ?_⟩)
      exact run_bind_eq_error_iff.2 (.inl hstops)

end Expression

end Dicebag
