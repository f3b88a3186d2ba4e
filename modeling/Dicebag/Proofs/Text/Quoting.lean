import Dicebag.Expression.Error
import Dicebag.Library

/-!
# Dicebag.Proofs.Text.Quoting

Quoted texts on a terminal.  The escape character has no visible form, so
between quotes it stands by its code point (`escape_notMem_quoteChars`), and
what is complained about a text starts a control sequence only where the
text does so itself (`ParseError.escape_notMem_complaint`).
-/

namespace Dicebag

namespace Text

/-! ## Quoted texts -/

theorem digitChar_ne_escape : ∀ n < 16, Nat.digitChar n ≠ '\x1b' := by decide

theorem escape_notMem_toDigits (n : Nat) : '\x1b' ∉ Nat.toDigits 16 n := by
  induction n using Nat.strongRecOn with
  | ind n ih =>
    rw [Nat.toDigits_eq_if (by decide)]
    split
    · next hsmall =>
      rw [List.mem_singleton]
      exact (digitChar_ne_escape n hsmall).symm
    · next hlarge =>
      have hlt : n / 16 < n := Nat.div_lt_self (by omega) (by decide)
      have hdigit : n % 16 < 16 := Nat.mod_lt n (by decide)
      rw [List.mem_append, List.mem_singleton]
      exact not_or.2 ⟨ih _ hlt, (digitChar_ne_escape _ hdigit).symm⟩

theorem escape_notMem_hexDigits (width n : Nat) : '\x1b' ∉ hexDigits width n := by
  rw [hexDigits, List.mem_append, not_or]
  refine ⟨fun h => ?_, escape_notMem_toDigits n⟩
  exact absurd (List.eq_of_mem_replicate h) (by decide)

theorem escape_notMem_escapeCode (n : Nat) : '\x1b' ∉ escapeCode n := by
  unfold escapeCode
  repeat' split
  all_goals
    rw [List.mem_cons, List.mem_cons, not_or, not_or]
    exact ⟨by decide, by decide, escape_notMem_hexDigits _ _⟩

theorem escape_notMem_escape {mark c : Char} (hmark : mark ≠ '\x1b') : '\x1b' ∉ escape mark c := by
  unfold escape
  split
  · next hc =>
    have hne : '\x1b' ≠ c := by
      rintro rfl
      obtain h | h := hc
      · exact hmark h.symm
      · exact absurd h (by decide)
    simp [hne]
  · split
    · decide
    · split
      · decide
      · split
        · decide
        · split
          · next hprintable =>
            rw [List.mem_singleton]
            rintro rfl
            exact absurd hprintable (by decide)
          · exact escape_notMem_escapeCode _

theorem quoteMark_ne_escape (text : List Char) : quoteMark text ≠ '\x1b' := by
  unfold quoteMark
  split <;> decide

/-- A quoted text holds no escape character. -/
theorem escape_notMem_quoteChars (text : List Char) : '\x1b' ∉ quoteChars text := by
  have hmark := quoteMark_ne_escape text
  rw [quoteChars, List.mem_append, List.mem_cons, List.mem_flatMap, List.mem_singleton]
  intro h
  obtain (h | ⟨c, _, h⟩) | h := h
  · exact hmark h.symm
  · exact escape_notMem_escape hmark h
  · exact hmark h.symm

end Text

/-! ## Control sequences -/

/-- A control sequence at the front of a text is skipped. -/
theorem Text.plain_of_skipControl? {text rest : String}
    (h : skipControl? text.toList = some rest.toList) (hrest : '\x1b' ∉ rest.toList) :
    plain text = rest := by
  have hskip : plainChars text.toList = plainChars rest.toList := by
    rw [plainChars]
    split
    · next other hother =>
      rw [h] at hother
      cases hother
      rfl
    · next hnone =>
      rw [h] at hnone
      cases hnone
  rw [plain, hskip, plainChars_eq_self hrest, String.ofList_toList]

/-! ## Complaints about an expression -/

theorem ParseError.escape_notMem_message (e : ParseError) : '\x1b' ∉ e.message.toList := by
  cases e with
  | number text cause =>
    rw [message, String.toList_append, List.mem_append, not_or]
    refine ⟨by decide, ?_⟩
    rw [Text.quote, String.toList_ofList]
    exact Text.escape_notMem_quoteChars _
  | _ => rw [message]; decide

/-- A complaint about a text without escape characters has no control
sequences to lose. -/
theorem ParseError.escape_notMem_complaint {written : String} (h : '\x1b' ∉ written.toList)
    (e : ParseError) : '\x1b' ∉ (written ++ ": " ++ e.message ++ "\n").toList := by
  simp only [String.toList_append, List.mem_append, not_or]
  exact ⟨⟨⟨h, by decide⟩, e.escape_notMem_message⟩, by decide⟩

theorem Library.keepsPlain_standard : KeepsPlain := by
  intro text h
  change Text.plain text = text
  rw [Text.plain, Text.plainChars_eq_self h, String.ofList_toList]

end Dicebag
