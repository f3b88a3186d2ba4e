import Dicebag.Proofs.Decimal
import Dicebag.Proofs.Roll.Accounting
import Dicebag.Proofs.Text.Separators

/-!
# Dicebag.Proofs.Roll.Reading

The text of a roll read back.  `Roll.read?` takes a text apart where the
equals sign and the plus signs stand and reads the numbers between them; of
the text of a roll it gives the values, and their sum as the total
(`Roll.read?_chars`).  So a text is the text of one roll at most
(`Roll.render_reads_back`).

The three forms of a text, for one value, for none and for several, do not
get mixed up, since only one value stands without an equals sign, and only
where there is no value nothing stands between the brackets.
-/

namespace Dicebag

/-- What is written item by item is read item by item. -/
theorem mapM_map_eq_some {α β γ : Type} {f : β → Option γ} {g : α → β} {k : α → γ} {items : List α}
    (h : ∀ a ∈ items, f (g a) = some (k a)) : (items.map g).mapM f = some (items.map k) := by
  induction items with
  | nil => rfl
  | cons a items ih =>
    obtain ⟨ha, hitems⟩ := List.forall_mem_cons.1 h
    simp [ha, ih hitems]

/-! ## Numbers -/

namespace Decimal

variable {n : Int} {c d : Char} {others : List Char} {values : List Int}

/-- The number that a text is: digits, behind a minus sign if there is
one. -/
def readInteger? (text : List Char) : Option Int :=
  if text.head? = some '-' then (readSigned text).toOption
  else (readNatural text).toOption.map Int.ofNat

/-- The numbers that stand between separators, none in an empty text. -/
def readIntegers? (separator text : List Char) : Option (List Int) :=
  if text = [] then some [] else (Text.splitAt separator text).mapM readInteger?

/-- A number is read from its text. -/
theorem readInteger?_integer (h : fits n = true) : readInteger? (integer n) = some n := by
  unfold readInteger?
  obtain hneg | hnonneg := Int.lt_or_le n 0
  · have hrun := isRun_natural ((fits_iff_width_le n).1 h)
    have hread : readSigned ('-' :: natural n.natAbs) = .ok n := by
      refine readSigned_eq_ok_iff.2 ⟨_, hrun, .inr ⟨rfl, ?_⟩⟩
      rw [value_natural]
      omega
    simp [integer_of_neg hneg, hread, Except.toOption]
  · have hread := readNatural_natural (n := n.natAbs) (by rwa [Int.natAbs_of_nonneg hnonneg])
    rw [integer_of_nonneg hnonneg, if_neg (head?_natural_ne_minus _), hread]
    simp [Except.toOption, hnonneg]

theorem mapM_readInteger? (h : ∀ v ∈ values, fits v = true) :
    (values.map integer).mapM readInteger? = some values := by
  have hread := mapM_map_eq_some (k := id) fun v hv => readInteger?_integer (h v hv)
  rwa [List.map_id] at hread

theorem notMem_integer (hd : d.isDigit = false) (hminus : d ≠ '-') : d ∉ integer n := by
  intro h
  obtain hdigit | rfl := isDigit_or_eq_minus_of_mem_integer h
  · rw [hd] at hdigit
    contradiction
  · contradiction

/-- Numbers between separators fall apart into the texts of the numbers. -/
theorem splitAt_intercalate_integers (hcd : c ≠ d) (hd : d.isDigit = false) (hminus : d ≠ '-')
    (hne : values ≠ []) :
    Text.splitAt (c :: d :: others) ((c :: d :: others).intercalate (values.map integer)) =
      values.map integer := by
  refine Text.splitAt_intercalate hcd ?_ (by simpa using hne)
  rw [List.forall_mem_map]
  exact fun v _ => notMem_integer hd hminus

theorem intercalate_integers_ne_nil (separator : List Char) (hne : values ≠ []) :
    separator.intercalate (values.map integer) ≠ [] := by
  cases values with
  | nil => contradiction
  | cons v values => cases values <;> simp [List.intercalate_cons_cons, integer_ne_nil]

theorem readIntegers?_intercalate (hcd : c ≠ d) (hd : d.isDigit = false) (hminus : d ≠ '-')
    (h : ∀ v ∈ values, fits v = true) :
    readIntegers? (c :: d :: others) ((c :: d :: others).intercalate (values.map integer)) =
      some values := by
  by_cases hne : values = []
  · simp [readIntegers?, hne]
  · rw [readIntegers?, if_neg (intercalate_integers_ne_nil _ hne),
      splitAt_intercalate_integers hcd hd hminus hne, mapM_readInteger? h]

end Decimal

/-! ## Rolls -/

namespace Roll

variable {r : Roll} {v : Int} {text : String}

/-- The number that a text shows behind spaces. -/
def readPadded? (text : List Char) : Option Int := Decimal.readInteger? (text.dropWhile (· == ' '))

/-- The total and the values that a text shows.  A number by itself is
both. -/
def read? (text : List Char) : Option (Int × List Int) :=
  match text.dropInfix? [' ', '=', ' ', '('] with
  | none => (readPadded? text).map fun n => (n, [n])
  | some (total, rest) => do
    let total ← readPadded? total
    let breakdown ← rest.dropSuffix? [')']
    let values ← Decimal.readIntegers? [' ', '+', ' '] breakdown
    pure (total, values)

theorem readPadded?_padded {n : Int} (h : Decimal.fits n = true) :
    readPadded? (padded (Decimal.integer n)) = some n := by
  obtain ⟨c, digits, heq⟩ := List.exists_cons_of_ne_nil (Decimal.integer_ne_nil n)
  have hc : c ≠ ' ' := by
    rintro rfl
    exact Decimal.notMem_integer rfl (by decide) (heq ▸ List.mem_cons_self)
  have hdrop : (padded (Decimal.integer n)).dropWhile (· == ' ') = Decimal.integer n := by
    rw [padded, List.dropWhile_append_of_pos (by simp), heq]
    simp [hc]
  rw [readPadded?, hdrop, Decimal.readInteger?_integer h]

/-! ### The forms of a text -/

theorem eq_singleton_or_length_ne_one (r : Roll) : (∃ v, r = ⟨[v]⟩) ∨ r.values.length ≠ 1 := by
  obtain ⟨values⟩ := r
  rw [or_iff_not_imp_right, not_not, List.length_eq_one_iff]
  rintro ⟨v, rfl⟩
  exact ⟨v, rfl⟩

theorem chars_singleton (v : Int) : chars ⟨[v]⟩ = padded (Decimal.integer v) := by
  simp [chars, total_eq_sum]

theorem chars_of_length_ne_one (h : r.values.length ≠ 1) :
    r.chars = padded (Decimal.integer r.values.sum) ++ [' ', '=', ' ', '('] ++
      (breakdown r.values ++ [')']) := by
  rw [← total_eq_sum]
  unfold chars
  split
  · simp_all
  · simp

theorem numbers_of_length_ne_one (h : r.values.length ≠ 1) :
    r.numbers = r.values.sum :: r.values := by
  rw [← total_eq_sum]
  unfold numbers
  split
  · simp_all
  · rfl

theorem equals_notMem_padded (n : Int) : '=' ∉ padded (Decimal.integer n) := by
  simp [padded, Decimal.notMem_integer]

theorem dropInfix?_chars (h : r.values.length ≠ 1) :
    r.chars.dropInfix? [' ', '=', ' ', '('] =
      some (padded (Decimal.integer r.values.sum), breakdown r.values ++ [')']) := by
  rw [chars_of_length_ne_one h]
  exact Text.dropInfix?_of_second_notMem (by decide) (equals_notMem_padded _) _

/-! ### Reading -/

theorem fits_sum (h : r.render = .ok text) : Decimal.fits r.values.sum = true := by
  refine (Decimal.render_eq_ok_iff.1 h).1 _ ?_
  rw [← total_eq_sum]
  unfold numbers
  split <;> simp

theorem fits_value (h : r.render = .ok text) (hv : v ∈ r.values) : Decimal.fits v = true := by
  obtain ⟨w, rfl⟩ | hone := r.eq_singleton_or_length_ne_one
  · obtain rfl := List.mem_singleton.1 hv
    simpa using fits_sum h
  · refine (Decimal.render_eq_ok_iff.1 h).1 v ?_
    rw [numbers_of_length_ne_one hone]
    exact List.mem_cons_of_mem _ hv

/-- The text of a roll is read as the sum of its values and the values in
order. -/
theorem read?_chars (h : r.render = .ok text) : read? r.chars = some (r.values.sum, r.values) := by
  have htotal := readPadded?_padded (fits_sum h)
  obtain ⟨v, rfl⟩ | hone := r.eq_singleton_or_length_ne_one
  · rw [read?, chars_singleton, Text.dropInfix?_eq_none (equals_notMem_padded v)]
    simpa using htotal
  · have hvalues : Decimal.readIntegers? [' ', '+', ' '] (breakdown r.values) = some r.values :=
      Decimal.readIntegers?_intercalate (by decide) (by decide) (by decide) fun v => fits_value h
    rw [read?, dropInfix?_chars hone]
    simp [htotal, Text.dropSuffix?_append, hvalues]

theorem render_eq_error_iff :
    r.render = .error .tooLong ↔
      Decimal.maxDigits < Decimal.width r.values.sum ∨
        r.values.length ≠ 1 ∧ ∃ v ∈ r.values, Decimal.maxDigits < Decimal.width v := by
  rw [render, Decimal.render_eq_error_iff]
  obtain ⟨v, rfl⟩ | hone := r.eq_singleton_or_length_ne_one
  · simp [numbers, total_eq_sum]
  · simp [numbers_of_length_ne_one hone, hone]

/-- **Texts of rolls read back**: a roll has a text unless its total is too
long or, in a breakdown, one of its values is.

* A text without an equals sign in front of a bracket is that of one value,
  filled up to three characters with spaces.
* In any other text the sum of the values stands in front of that sign,
  filled up like this, and between it and the closing bracket at the end the
  values stand in order, with plus signs between them, or nothing if there
  are none.

Either way the text is read as the sum and the values, so rolls of the same
text have the same values. -/
theorem render_reads_back :
    (∀ r : Roll, r.render = .error .tooLong ↔
      Decimal.maxDigits < Decimal.width r.values.sum ∨
        r.values.length ≠ 1 ∧ ∃ v ∈ r.values, Decimal.maxDigits < Decimal.width v) ∧
    (∀ (r : Roll) (text : String), r.render = .ok text →
      (¬ [' ', '=', ' ', '('] <:+: text.toList →
        ∃ v, r.values = [v] ∧ text.toList = List.leftpad 3 ' ' (Decimal.integer v)) ∧
      ([' ', '=', ' ', '('] <:+: text.toList →
        ∃ between,
          text.toList.dropInfix? [' ', '=', ' ', '('] =
            some (List.leftpad 3 ' ' (Decimal.integer r.values.sum), between ++ [')']) ∧
          (between = [] → r.values = []) ∧
          (between ≠ [] →
            Text.splitAt [' ', '+', ' '] between = r.values.map Decimal.integer)) ∧
      read? text.toList = some (r.values.sum, r.values)) ∧
    ∀ (r r' : Roll) (text text' : String), r.render = .ok text → r'.render = .ok text' →
      (text = text' ↔ r.values = r'.values) := by
  have hread : ∀ {r : Roll} {text : String}, r.render = .ok text →
      text.toList = r.chars ∧ read? text.toList = some (r.values.sum, r.values) := by
    intro r text h
    obtain ⟨_, rfl⟩ := Decimal.render_eq_ok_iff.1 h
    rw [String.toList_ofList]
    exact ⟨rfl, read?_chars h⟩
  refine ⟨fun r => render_eq_error_iff, fun r text h => ?_, fun r r' text text' h h' => ?_⟩
  · obtain ⟨htext, hvalues⟩ := hread h
    refine ⟨?_, ?_, hvalues⟩
    · intro hplain
      obtain ⟨v, rfl⟩ | hone := r.eq_singleton_or_length_ne_one
      · exact ⟨v, rfl, htext.trans (chars_singleton v)⟩
      · rw [htext, chars_of_length_ne_one hone] at hplain
        exact absurd ⟨_, _, rfl⟩ hplain
    · intro hbroken
      obtain ⟨v, rfl⟩ | hone := r.eq_singleton_or_length_ne_one
      · rw [htext, chars_singleton] at hbroken
        exact absurd hbroken (Text.not_isInfix_of_second_notMem (equals_notMem_padded v))
      · refine ⟨breakdown r.values, htext ▸ dropInfix?_chars hone, ?_, ?_⟩
        · intro hnil
          by_contra hne
          exact Decimal.intercalate_integers_ne_nil _ hne hnil
        · intro hne
          refine Decimal.splitAt_intercalate_integers (by decide) (by decide) (by decide) ?_
          rintro hnil
          exact hne (by rw [hnil]; rfl)
  · constructor
    · rintro rfl
      have hsame := (hread h).2.symm.trans (hread h').2
      exact (Prod.mk.inj (Option.some.inj hsame)).2
    · intro hvalues
      obtain rfl : r = r' := congrArg Roll.mk hvalues
      exact Except.ok.inj (h.symm.trans h')

/-- Values of both signs, and two values of which only the sum is too
long. -/
theorem render_reads_back_instances :
    (⟨[-3, 12, 0]⟩ : Roll).render = .ok "  9 = (-3 + 12 + 0)" ∧
      read? "  9 = (-3 + 12 + 0)".toList = some (9, [-3, 12, 0]) ∧
      Text.splitAt [' ', '+', ' '] "-3 + 12 + 0".toList = [-3, 12, 0].map Decimal.integer ∧
      (⟨[Nat.pow 10 Decimal.maxDigits - 1, 1]⟩ : Roll).render = .error .tooLong := by
  obtain ⟨herror, hforms, _⟩ := render_reads_back
  have hrender : (⟨[-3, 12, 0]⟩ : Roll).render = .ok "  9 = (-3 + 12 + 0)" := by decide +kernel
  obtain ⟨_, hbroken, hread⟩ := hforms _ _ hrender
  obtain ⟨between, hcut, _, hsplit⟩ := hbroken (by decide +kernel)
  have hbetween : between = "-3 + 12 + 0".toList := by
    have hfound : "  9 = (-3 + 12 + 0)".toList.dropInfix? [' ', '=', ' ', '('] =
        some ("  9".toList, "-3 + 12 + 0".toList ++ [')']) := by decide +kernel
    rw [hfound] at hcut
    exact List.append_cancel_right (Prod.mk.inj (Option.some.inj hcut)).2.symm
  subst hbetween
  refine ⟨hrender, hread, hsplit (by decide), (herror _).2 (.inl ?_)⟩
  rw [← Nat.not_le, ← Decimal.fits_iff_width_le]
  decide +kernel

end Roll

end Dicebag
