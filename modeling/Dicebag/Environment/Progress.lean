import Dicebag.Environment.Statement

/-!
# Dicebag.Environment.Progress

Reading statements comes to an end.  A statement that reads takes
something off the text (`length_lt_of_read`), and so does skipping one
that does not (`length_skipLine_lt_of_read`).  The readers are taken in
their order, each with what it leaves of the text when it succeeds and
where it stands when it breaks off.
-/

namespace Dicebag.Statement

/-! ## White space, comments, ends of lines -/

theorem length_dropWhile_le (p : Char → Bool) (text : List Char) :
    (text.dropWhile p).length ≤ text.length :=
  (List.dropWhile_suffix p).length_le

theorem length_skipBlanks_le (text : List Char) : (skipBlanks text).length ≤ text.length :=
  length_dropWhile_le _ _

theorem length_skipLine_le (text : List Char) : (skipLine text).length ≤ text.length := by
  have := length_dropWhile_le (· != '\n') text
  simp only [skipLine, List.length_drop]
  omega

theorem length_skipLine_lt {text : List Char} (h : text ≠ []) :
    (skipLine text).length < text.length := by
  have := length_dropWhile_le (· != '\n') text
  have := List.length_pos_iff.2 h
  simp only [skipLine, List.length_drop]
  omega

theorem length_skipComment_le (text : List Char) : (skipComment text).length ≤ text.length := by
  unfold skipComment
  split
  · rename_i rest h
    have := length_dropWhile_le (· != '\n') rest
    have := length_skipBlanks_le text
    rw [h] at this
    simp only [List.length_cons] at this
    omega
  · exact Nat.le_refl _

theorem length_skipExport_le (text : List Char) : (skipExport text).length ≤ text.length := by
  unfold skipExport
  split
  · rename_i c rest
    split
    · have := length_skipBlanks_le rest
      simp only [List.length_cons]
      omega
    · exact Nat.le_refl _
  · exact Nat.le_refl _

theorem readLineEnd_length {text rest : List Char} (h : readLineEnd text = .ok rest) :
    rest.length ≤ text.length := by
  have := length_skipBlanks_le text
  unfold readLineEnd at h
  split at h
  · cases h; simp
  · rename_i heq
    cases h
    rw [heq] at this
    simp only [List.length_cons] at this
    omega
  · cases h

theorem readLineEnd_error {text broken : List Char} (h : readLineEnd text = .error broken) :
    broken = text := by
  unfold readLineEnd at h
  split at h <;> cases h
  rfl

/-! ## Names and values -/

theorem length_lt_of_readName {text name rest : List Char} (h : readName text = .ok (name, rest)) :
    rest.length < text.length := by
  unfold readName at h
  split at h
  · rename_i quoted
    split at h
    · rename_i heq
      cases h
      have := length_dropWhile_le (· != '\'') quoted
      rw [heq] at this
      simp only [List.length_cons] at this ⊢
      omega
    · cases h
  · split at h
    · cases h
    · rename_i hne
      cases h
      have happ := congrArg List.length (List.takeWhile_append_dropWhile (p := isNameChar) (l := text))
      have := List.length_pos_iff.2 hne
      simp only [List.length_append] at happ
      omega

theorem eq_of_readName_error {text broken : List Char} (h : readName text = .error broken) :
    broken = text := by
  unfold readName at h
  split at h <;> split at h <;> cases h <;> rfl

theorem length_le_of_readQuoted {mark : Char} {text quoted rest : List Char}
    (h : readQuoted? mark text = some (quoted, rest)) : rest.length ≤ text.length := by
  fun_induction readQuoted? mark text generalizing quoted rest with
  | case1 => cases h
  | case2 => cases h
  | case3 c text ih =>
    obtain ⟨⟨x, y⟩, hx, heq⟩ := Option.map_eq_some_iff.1 h
    cases heq
    have := ih hx
    simp only [List.length_cons]
    omega
  | case4 => cases h; simp
  | case5 c text _ _ hc ih =>
    obtain ⟨⟨x, y⟩, hx, heq⟩ := Option.map_eq_some_iff.1 h
    cases heq
    have := ih hx
    simp only [List.length_cons]
    omega

theorem length_le_of_readValue {text value rest : List Char}
    (h : readValue text = .ok (value, rest)) : rest.length ≤ text.length := by
  unfold readValue at h
  split at h
  · cases h; simp
  · split at h
    · cases h; simp
    · split at h
      · split at h
        · rename_i hquoted
          cases h
          have := length_le_of_readQuoted hquoted
          simp only [List.length_cons]
          omega
        · cases h
      · cases h
        exact length_dropWhile_le _ _

theorem eq_of_readValue_error {text broken : List Char} (h : readValue text = .error broken) :
    broken = text := by
  unfold readValue at h
  split at h
  · cases h
  · split at h
    · cases h
    · split at h
      · split at h <;> cases h
        rfl
      · cases h

theorem length_le_of_readAssigned {text rest : List Char} {value : Option (List Char)}
    (h : readAssigned text = .ok (value, rest)) : rest.length ≤ text.length := by
  unfold readAssigned at h
  split at h
  · rename_i behind
    have := length_skipBlanks_le behind
    simp only [List.length_cons]
    dsimp only at h
    split at h
    · cases h; omega
    · cases hv : readValue (skipBlanks behind) with
      | error e => simp [hv, Except.map] at h
      | ok p =>
        simp only [hv, Except.map, Except.ok.injEq, Prod.mk.injEq] at h
        have hv : readValue (skipBlanks behind) = .ok (p.1, p.2) := hv
        have := length_le_of_readValue hv
        rw [← h.2]
        omega
  · cases h; simp

theorem length_le_of_readAssigned_error {text broken : List Char}
    (h : readAssigned text = .error broken) : broken.length ≤ text.length := by
  unfold readAssigned at h
  split at h
  · rename_i behind
    have := length_skipBlanks_le behind
    simp only [List.length_cons]
    dsimp only at h
    split at h
    · cases h
    · cases hv : readValue (skipBlanks behind) with
      | error e =>
        simp only [hv, Except.map, Except.error.injEq] at h
        rw [← h, eq_of_readValue_error hv]
        omega
      | ok p => simp [hv, Except.map] at h
  · cases h

/-! ## Statements -/

theorem length_lt_of_readBinding {text rest : List Char} {statement : Statement}
    (h : readBinding text = .ok (statement, rest)) : rest.length < text.length := by
  unfold readBinding at h
  cases hname : readName text with
  | error e => simp [hname, bind, Except.bind] at h
  | ok p =>
    obtain ⟨name, behind⟩ := p
    simp only [hname, bind, Except.bind] at h
    cases hvalue : readAssigned (skipBlanks behind) with
    | error e => simp [hvalue] at h
    | ok q =>
      obtain ⟨value, rest'⟩ := q
      simp only [hvalue] at h
      cases hend : readLineEnd (skipComment rest') with
      | error e => simp [hend] at h
      | ok r =>
        simp only [hend, pure, Except.pure, Except.ok.injEq, Prod.mk.injEq] at h
        have := length_lt_of_readName hname
        have := length_skipBlanks_le behind
        have := length_le_of_readAssigned hvalue
        have := length_skipComment_le rest'
        have := readLineEnd_length hend
        rw [← h.2]
        omega

theorem length_le_of_readBinding_error {text broken : List Char}
    (h : readBinding text = .error broken) : broken.length ≤ text.length := by
  unfold readBinding at h
  cases hname : readName text with
  | error e =>
    simp only [hname, bind, Except.bind, Except.error.injEq] at h
    exact h ▸ Nat.le_of_eq (congrArg List.length (eq_of_readName_error hname))
  | ok p =>
    obtain ⟨name, behind⟩ := p
    simp only [hname, bind, Except.bind] at h
    have := length_lt_of_readName hname
    have := length_skipBlanks_le behind
    cases hvalue : readAssigned (skipBlanks behind) with
    | error e =>
      simp only [hvalue, Except.error.injEq] at h
      have := length_le_of_readAssigned_error hvalue
      rw [← h]
      omega
    | ok q =>
      obtain ⟨value, rest'⟩ := q
      simp only [hvalue] at h
      have := length_le_of_readAssigned hvalue
      have := length_skipComment_le rest'
      cases hend : readLineEnd (skipComment rest') with
      | error e =>
        simp only [hend, Except.error.injEq] at h
        rw [← h, readLineEnd_error hend]
        omega
      | ok r => simp [hend, pure, Except.pure] at h

/-- A statement that reads takes something off the text. -/
theorem length_lt_of_read {text rest : List Char} {statement : Option Statement}
    (h : read text = .ok (statement, rest)) : rest.length < text.length := by
  have hlen := length_skipExport_le text
  unfold read at h
  split at h
  · rename_i rest' heq
    have := length_skipLine_le rest'
    rw [heq] at hlen
    cases h
    simp only [List.length_cons] at hlen
    omega
  · cases hb : readBinding (skipExport text) with
    | error e => simp [hb, Except.map] at h
    | ok p =>
      simp only [hb, Except.map, Except.ok.injEq, Prod.mk.injEq] at h
      have hb : readBinding (skipExport text) = .ok (p.1, p.2) := hb
      have := length_lt_of_readBinding hb
      rw [← h.2]
      omega

/-- Skipping the line on which a statement breaks off takes something off
the text. -/
theorem length_skipLine_lt_of_read {text broken : List Char} (hne : text ≠ [])
    (h : read text = .error broken) : (skipLine broken).length < text.length := by
  have hlen := length_skipExport_le text
  have hbroken : broken.length ≤ text.length := by
    unfold read at h
    split at h
    · cases h
    · cases hb : readBinding (skipExport text) with
      | error e =>
        simp only [hb, Except.map, Except.error.injEq] at h
        have := length_le_of_readBinding_error hb
        rw [← h]
        omega
      | ok p => simp [hb, Except.map] at h
  cases broken with
  | nil => simpa [skipLine] using List.length_pos_iff.2 hne
  | cons c rest => exact Nat.lt_of_lt_of_le (length_skipLine_lt (List.cons_ne_nil c rest)) hbroken

end Dicebag.Statement
