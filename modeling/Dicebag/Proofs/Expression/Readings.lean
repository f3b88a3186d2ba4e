import Dicebag.Expression.Parser
import Dicebag.Proofs.Decimal

/-!
# Dicebag.Proofs.Expression.Readings

What the pieces of an expression are read as.  Each reader succeeds on
the pieces it should and with the number they stand for; `read_eq_ok_iff`
assembles them.  No mark of an expression is a digit, so a run of digits
holds none of them.
-/

namespace Dicebag

open Decimal (IsRun value)

theorem bind_eq_ok_iff {ε α β : Type} {x : Except ε α} {f : α → Except ε β} {b : β} :
    x >>= f = .ok b ↔ ∃ a, x = .ok a ∧ f a = .ok b := by
  cases x with
  | error e => exact ⟨nofun, nofun⟩
  | ok a => exact ⟨fun h => ⟨a, rfl, h⟩, fun ⟨_, hx, hf⟩ => Except.ok.inj hx ▸ hf⟩

namespace Pieces

/-! ## Digits and marks -/

theorem isDie_eq_true_iff {c : Char} : isDie c = true ↔ c = 'd' ∨ c = 'D' := by
  simp [isDie]

theorem isSign_eq_true_iff {c : Char} : isSign c = true ↔ c = '+' ∨ c = '-' := by
  simp [isSign]

theorem isDie_of_isDigit {c : Char} (h : c.isDigit) : isDie c = false := by
  rw [← Bool.not_eq_true, isDie_eq_true_iff]
  intro hdie
  obtain rfl | rfl := hdie <;> exact absurd h (by decide)

theorem isSign_of_isDigit {c : Char} (h : c.isDigit) : isSign c = false := by
  rw [← Bool.not_eq_true, isSign_eq_true_iff]
  intro hsign
  obtain rfl | rfl := hsign <;> exact absurd h (by decide)

theorem isSign_of_isDie {c : Char} (h : isDie c) : isSign c = false := by
  obtain rfl | rfl := isDie_eq_true_iff.1 h <;> rfl

theorem ne_bang_of_isDigit {c : Char} (h : c.isDigit) : c ≠ '!' := by
  intro hbang
  subst hbang
  exact absurd h (by decide)

end Pieces

theorem Decimal.IsRun.isDie_eq_false {digits : List Char} (h : IsRun digits) :
    ∀ c ∈ digits, Pieces.isDie c = false := fun c hc => Pieces.isDie_of_isDigit (h.isDigit c hc)

theorem Decimal.IsRun.isSign_eq_false {digits : List Char} (h : IsRun digits) :
    ∀ c ∈ digits, Pieces.isSign c = false :=
  fun c hc => Pieces.isSign_of_isDigit (h.isDigit c hc)

theorem Decimal.IsRun.bang_notMem {digits : List Char} (h : IsRun digits) : '!' ∉ digits :=
  fun hmem => Pieces.ne_bang_of_isDigit (h.isDigit _ hmem) rfl

/-! ## The readers -/

namespace Pieces

theorem readPiece_eq_ok_iff {α : Type} {reader : List Char → Except Decimal.ReadError α}
    {piece : List Char} {a : α} : readPiece reader piece = .ok a ↔ reader piece = .ok a := by
  unfold readPiece
  cases reader piece with
  | error e => exact ⟨nofun, nofun⟩
  | ok b => exact ⟨fun h => congrArg _ (Except.ok.inj h), fun h => congrArg _ (Except.ok.inj h)⟩

theorem readPiece_natural_of_isRun {piece : List Char} (h : IsRun piece) :
    readPiece Decimal.readNatural piece = .ok (value piece) :=
  readPiece_eq_ok_iff.2 (Decimal.readNatural_eq_ok_iff_isRun.2 ⟨h, rfl⟩)

theorem readDice_eq_ok_iff {p : Pieces} {count faces : Nat} :
    p.readDice = .ok (count, faces) ↔
      IsRun p.lead ∧
        (p.faces = none ∧ count = 1 ∧ faces = value p.lead ∨
          ∃ piece, p.faces = some piece ∧ IsRun piece ∧
            count = value p.lead ∧ faces = value piece) := by
  unfold readDice
  split
  · next hnil => exact ⟨nofun, fun h => absurd hnil h.1.ne_nil⟩
  rw [bind_eq_ok_iff]
  constructor
  · intro ⟨lead, hlead, h⟩
    obtain ⟨hrun, rfl⟩ := Decimal.readNatural_eq_ok_iff_isRun.1 (readPiece_eq_ok_iff.1 hlead)
    refine ⟨hrun, ?_⟩
    split at h
    · next hnone =>
      cases h
      exact .inl ⟨hnone, rfl, rfl⟩
    · next piece hsome =>
      split at h
      · cases h
      · obtain ⟨k, hk, heq⟩ := bind_eq_ok_iff.1 h
        obtain ⟨hpiece, rfl⟩ := Decimal.readNatural_eq_ok_iff_isRun.1 (readPiece_eq_ok_iff.1 hk)
        cases heq
        exact .inr ⟨piece, hsome, hpiece, rfl, rfl⟩
  · intro ⟨hrun, hfaces⟩
    refine ⟨_, readPiece_natural_of_isRun hrun, ?_⟩
    obtain ⟨hnone, rfl, rfl⟩ | ⟨piece, hsome, hpiece, rfl, rfl⟩ := hfaces
    · rw [hnone]
      rfl
    · -- a run of digits holds no further `d`
      have hany : piece.any isDie = false :=
        List.any_eq_false.2 fun c hc => Bool.not_eq_true _ ▸ hpiece.isDie_eq_false c hc
      rw [hsome]
      simp only [hany, Bool.false_eq_true, if_false]
      rw [bind_eq_ok_iff]
      exact ⟨_, readPiece_natural_of_isRun hpiece, rfl⟩

theorem readModifier_eq_ok_iff {p : Pieces} {m : Int} :
    p.readModifier = .ok m ↔
      p.modifier = none ∧ m = 0 ∨
        ∃ piece, p.modifier = some piece ∧ Decimal.readSigned piece = .ok m := by
  unfold readModifier
  split
  · next hnone =>
    rw [hnone]
    constructor
    · intro h
      exact .inl ⟨rfl, (Except.ok.inj h).symm⟩
    · intro h
      obtain ⟨_, rfl⟩ | ⟨_, hsome, _⟩ := h
      · rfl
      · cases hsome
  · next piece hsome =>
    rw [hsome, readPiece_eq_ok_iff]
    constructor
    · intro h
      exact .inr ⟨piece, rfl, h⟩
    · intro h
      obtain ⟨hnone, _⟩ | ⟨_, heq, h⟩ := h
      · cases hnone
      · cases heq
        exact h

theorem readThreshold_eq_ok_iff {p : Pieces} {t : Option Int} :
    p.readThreshold = .ok t ↔
      p.threshold = none ∧ t = none ∨ p.threshold = some [] ∧ t = some 0 ∨
        ∃ piece, p.threshold = some piece ∧ IsRun piece ∧ t = some (value piece : Int) := by
  unfold readThreshold
  split
  · next hnone =>
    rw [hnone]
    constructor
    · intro h
      exact .inl ⟨rfl, (Except.ok.inj h).symm⟩
    · intro h
      obtain ⟨_, rfl⟩ | ⟨hsome, _⟩ | ⟨_, hsome, _⟩ := h
      · rfl
      · cases hsome
      · cases hsome
  · next hnil =>
    rw [hnil]
    constructor
    · intro h
      exact .inr (.inl ⟨rfl, (Except.ok.inj h).symm⟩)
    · intro h
      obtain ⟨hnone, _⟩ | ⟨_, rfl⟩ | ⟨_, heq, hpiece, _⟩ := h
      · cases hnone
      · rfl
      · cases heq
        exact absurd rfl hpiece.ne_nil
  · next piece hne hsome =>
    rw [hsome, bind_eq_ok_iff]
    constructor
    · intro ⟨n, hn, h⟩
      obtain ⟨hpiece, rfl⟩ := Decimal.readNatural_eq_ok_iff_isRun.1 (readPiece_eq_ok_iff.1 hn)
      exact .inr (.inr ⟨piece, rfl, hpiece, (Except.ok.inj h).symm⟩)
    · intro h
      obtain ⟨hnone, _⟩ | ⟨hnil, _⟩ | ⟨_, heq, hpiece, rfl⟩ := h
      · cases hnone
      · cases hnil
        exact absurd rfl hne
      · cases heq
        exact ⟨_, readPiece_natural_of_isRun hpiece, rfl⟩

theorem read_eq_ok_iff {p : Pieces} {e : Expression} :
    p.read = .ok e ↔
      ∃ count faces m t, p.readDice = .ok (count, faces) ∧ p.readModifier = .ok m ∧
        p.readThreshold = .ok t ∧ e.count = count ∧ e.faces = faces ∧ e.modifier = m ∧
        e.threshold = Expression.resolve faces t := by
  unfold read
  constructor
  · intro h
    obtain ⟨⟨count, faces⟩, hdice, h⟩ := bind_eq_ok_iff.1 h
    obtain ⟨m, hmodifier, h⟩ := bind_eq_ok_iff.1 h
    obtain ⟨t, hthreshold, h⟩ := bind_eq_ok_iff.1 h
    exact ⟨count, faces, m, t, hdice, hmodifier, hthreshold, Expression.make_eq_ok_iff.1 h⟩
  · intro ⟨count, faces, m, t, hdice, hmodifier, hthreshold, he⟩
    rw [hdice, hmodifier, hthreshold]
    exact Expression.make_eq_ok_iff.2 he

end Pieces

end Dicebag
