import Dicebag.Proofs.Roll.Dealing

/-!
# Dicebag.Proofs.Roll.Auditing

Keeping a log changes nothing but the log.  `Table.Alike` relates tables
that differ in their logs alone, and `Deal.Alike` relates deals that come to
the same at such tables: they draw the same, stop for the same reason, and
leave tables that differ in their logs alone.  Deals that are made of such
deals one after the other are such deals again (`Deal.Alike.bind`), and
rolling with a log and rolling without one are such deals (`alike_roll`).
-/

namespace Dicebag

/-! ## Tables and results -/

/-- Two tables differ in their logs alone. -/
structure Table.Alike (t u : Table) : Prop where
  source : t.source = u.source
  calls : t.calls = u.calls

/-- Two results differ in the logs of their tables alone, and in their
values as `R` allows. -/
inductive ResultAlike {α β : Type} (R : α → β → Prop) :
    EStateM.Result DrawError Table α → EStateM.Result DrawError Table β → Prop
  | ok {a b t u} (hvalue : R a b) (htable : t.Alike u) : ResultAlike R (.ok a t) (.ok b u)
  | error {e t u} (htable : t.Alike u) : ResultAlike R (.error e t) (.error e u)

namespace Table

variable {faces : Int} {t t' u : Table} {values : List Int} {entries : List LogEntry}
  {err : DrawError}

theorem Alike.refl (t : Table) : t.Alike t := ⟨rfl, rfl⟩

/-- The same can be dealt at a table alike, with any entries noted. -/
theorem Dealt.alike (h : t.Dealt faces values entries t') (htu : t.Alike u)
    (more : List LogEntry) : ∃ u', u.Dealt faces values more u' ∧ t'.Alike u' := by
  refine ⟨⟨t'.source, t'.calls, more.reverse ++ u.log⟩, ⟨?_, ?_, rfl⟩, rfl, rfl⟩
  · rw [← htu.source]
    exact h.yields
  · rw [← htu.calls]
    exact h.calls

theorem Stopped.alike (h : t.Stopped faces values entries err t') (htu : t.Alike u)
    (more : List LogEntry) : ∃ u', u.Stopped faces values more err u' ∧ t'.Alike u' := by
  obtain ⟨t₁, hdealt, hdraw⟩ := h
  obtain ⟨u₁, hdealt', hsource, hcalls⟩ := hdealt.alike htu more
  obtain ⟨herr, rfl⟩ := run_draw_eq_error_iff.1 hdraw
  refine ⟨⟨u₁.source, ⟨1, faces⟩ :: u₁.calls, u₁.log⟩, ⟨u₁, hdealt', ?_⟩, hsource, ?_⟩
  · exact run_draw_eq_error_iff.2 ⟨hsource ▸ herr, rfl⟩
  · exact congrArg (_ :: ·) hcalls

end Table

/-! ## Deals -/

/-- Two deals come to the same at tables that differ in their logs alone;
their values may differ as `R` allows. -/
def Deal.Alike {α β : Type} (R : α → β → Prop) (deal : Deal α) (deal' : Deal β) : Prop :=
  ∀ t u : Table, t.Alike u → ResultAlike R (deal.run t) (deal'.run u)

namespace Deal.Alike

variable {α β γ δ : Type} {R : α → β → Prop} {S : γ → δ → Prop} {deal : Deal α} {deal' : Deal β}
  {next : α → Deal γ} {next' : β → Deal δ}

theorem pure {a : α} {b : β} (h : R a b) :
    Deal.Alike R (Pure.pure a : Deal α) (Pure.pure b : Deal β) :=
  fun _ _ htu => .ok h htu

theorem bind (h : Deal.Alike R deal deal')
    (hnext : ∀ a b, R a b → Deal.Alike S (next a) (next' b)) :
    Deal.Alike S (deal >>= next) (deal' >>= next') := by
  intro t u htu
  rw [EStateM.run_bind, EStateM.run_bind]
  have hresult := h t u htu
  generalize deal.run t = result at hresult
  generalize deal'.run u = result' at hresult
  cases hresult with
  | ok hvalue htable => exact hnext _ _ hvalue _ _ htable
  | error htable => exact .error htable

theorem get : Deal.Alike Table.Alike MonadState.get MonadState.get := fun _ _ htu => .ok htu htu

end Deal.Alike

namespace Expression

/-- Rolling comes to the same whether or not a log is kept. -/
theorem alike_roll (e : Expression) (trance audit audit' : Bool) :
    Deal.Alike Eq (e.roll ⟨trance, audit⟩) (e.roll ⟨trance, audit'⟩) := by
  intro t u htu
  cases hrun : (e.roll ⟨trance, audit⟩).run t with
  | ok r t' =>
    obtain ⟨pool, chains, ⟨hpool, hcount, hchains⟩, hr, hdealt⟩ := run_roll_eq_ok_iff.1 hrun
    obtain ⟨u', hdealt', hu⟩ := hdealt.alike htu
      (noted audit' (.pool e pool (e.window pool)) ++ e.chainEntries ⟨trance, audit'⟩ chains)
    have hrun' : (e.roll ⟨trance, audit'⟩).run u = .ok r u' :=
      run_roll_eq_ok_iff.2 ⟨pool, chains, ⟨hpool, hcount, hchains⟩, hr, hdealt'⟩
    rw [hrun']
    exact .ok rfl hu
  | error err t' =>
    have hrun' : ∃ u', (e.roll ⟨trance, audit'⟩).run u = .error err u' ∧ t'.Alike u' := by
      obtain ⟨values, hlt, hstopped⟩ |
        ⟨pool, chains, values, hpool, hlt, hchains, hvalues, hstopped⟩ :=
        run_roll_eq_error_iff.1 hrun
      · obtain ⟨u', hstopped', hu⟩ := hstopped.alike htu []
        exact ⟨u', run_roll_eq_error_iff.2 (.inl ⟨values, hlt, hstopped'⟩), hu⟩
      · obtain ⟨u', hstopped', hu⟩ := hstopped.alike htu
          (noted audit' (.pool e pool (e.window pool)) ++ e.chainEntries ⟨trance, audit'⟩ chains)
        exact ⟨u', run_roll_eq_error_iff.2
          (.inr ⟨pool, chains, values, hpool, hlt, hchains, hvalues, hstopped'⟩), hu⟩
    obtain ⟨u', hrun', hu⟩ := hrun'
    rw [hrun']
    exact .error hu

end Expression

end Dicebag
