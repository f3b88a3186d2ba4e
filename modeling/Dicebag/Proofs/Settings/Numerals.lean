import Dicebag.Proofs.Decimal
import Dicebag.Proofs.Text.Stripping
import Dicebag.Settings.Numeral

/-!
# Dicebag.Proofs.Settings.Numerals

Which texts say which whole number.  The reader tries a text as it is, and
once more when it is tidied; `Numeral.Spells` says in one piece what it
accepts: white space around a sign, zeros as padding, digits in groups, and a
fraction of zeros.

* `readPlain_eq_ok_iff` — plain numerals are the texts of numbers, and `-0`;
* `reduce_eq_some_natural_iff`, `reduce_eq_some_minus_iff` — padding and groups;
* `tidied_iff_spells` — what tidying makes a plain numeral of;
* `read_eq_ok_iff_spells` — what is read.
-/

namespace Dicebag.Numeral

open Decimal (natural fits)

/-! ## Plain numerals -/

theorem takeWhile_natural (n : Nat) : (natural n).takeWhile Char.isDigit = natural n :=
  List.takeWhile_eq_self_iff.2 fun _ => Decimal.isDigit_of_mem_natural

theorem readUnsigned_natural {n : Nat} (h : fits n = true) : readUnsigned (natural n) = .ok n := by
  by_cases hzero : n = 0
  · subst hzero
    rfl
  · have hnumeral := Decimal.isNumeral_natural hzero
    have hne : natural n ≠ ['0'] := fun heq => hnumeral.head_ne_zero (by rw [heq]; rfl)
    have hlength := (Decimal.fits_natCast_iff n).1 h
    have hshort : ¬ Decimal.maxDigits < (natural n).length := Nat.not_lt.2 hlength
    simp [readUnsigned, takeWhile_natural, hne, hnumeral.ne_nil, hnumeral.head_ne_zero, hshort,
      Decimal.ofDigitChars_natural]

theorem readUnsigned_eq_ok_iff {text : List Char} {n : Nat} :
    readUnsigned text = .ok n ↔ text = natural n ∧ fits n = true := by
  constructor
  · intro h
    simp only [readUnsigned] at h
    split at h
    · next hzero =>
      obtain rfl := Except.ok.inj h
      exact ⟨hzero, Decimal.fits_zero⟩
    · split at h
      · contradiction
      · next hhead =>
        split at h
        · contradiction
        · next hshort =>
          split at h
          · next hall =>
            rw [hall] at h hhead hshort
            obtain rfl := Except.ok.inj h
            rw [not_or] at hhead
            have hnumeral : Decimal.IsNumeral text :=
              ⟨hhead.1, fun c hc => List.mem_takeWhile_imp (hall.symm ▸ hc), hhead.2⟩
            have htext := hnumeral.natural_value
            rw [Decimal.ofDigitChars_eq_value]
            refine ⟨htext.symm, (Decimal.fits_natCast_iff _).2 ?_⟩
            rw [htext]
            exact Nat.not_lt.1 hshort
          · contradiction
  · rintro ⟨rfl, hfits⟩
    exact readUnsigned_natural hfits

theorem natural_ne_minus_cons {n : Nat} {rest : List Char} : natural n ≠ '-' :: rest := by
  intro h
  exact Decimal.head?_natural_ne_minus n (by rw [h]; rfl)

theorem map_readUnsigned_eq_ok_iff {text : List Char} {f : Nat → Int} {m : Int} :
    (readUnsigned text).map f = .ok m ↔ ∃ n : Nat, fits n = true ∧ text = natural n ∧ m = f n := by
  cases hread : readUnsigned text with
  | error fault =>
    refine ⟨nofun, fun ⟨n, hfits, htext, _⟩ => ?_⟩
    rw [htext, readUnsigned_natural hfits] at hread
    contradiction
  | ok n =>
    obtain ⟨htext, hfits⟩ := readUnsigned_eq_ok_iff.1 hread
    constructor
    · intro h
      exact ⟨n, hfits, htext, (Except.ok.inj h).symm⟩
    · rintro ⟨n', hfits', htext', rfl⟩
      rw [htext', readUnsigned_natural hfits'] at hread
      rw [Except.ok.inj hread]
      rfl

/-- A plain numeral is the text of a natural number, with or without a minus
sign in front. -/
theorem readPlain_eq_ok_iff {text : List Char} {m : Int} :
    readPlain text = .ok m ↔
      ∃ n : Nat, fits n = true ∧ (text = natural n ∧ m = n ∨ text = '-' :: natural n ∧ m = -n) := by
  unfold readPlain
  split
  · next digits =>
    simp [map_readUnsigned_eq_ok_iff, natural_ne_minus_cons.symm]
  · next hminus =>
    have hne : ∀ n, text ≠ '-' :: natural n := fun n => hminus (natural n)
    simp [map_readUnsigned_eq_ok_iff, hne]

/-! ## Groups -/

/-- A text with single underscores inside, and what it is without them. -/
structure IsGrouping (plain text : List Char) : Prop where
  head_ne : text.head? ≠ some '_'
  last_ne : text.getLast? ≠ some '_'
  apart : ¬ ['_', '_'] <:+: text
  filter_eq : text.filter (· != '_') = plain

theorem isGrouped_iff (text : List Char) :
    isGrouped text = true ↔ text.getLast? ≠ some '_' ∧ ¬ ['_', '_'] <:+: text := by
  fun_induction isGrouped text with
  | case1 => simp
  | case2 => simp
  | case3 rest =>
    have hpair : ['_', '_'] <:+: '_' :: '_' :: rest := (List.prefix_append _ rest).isInfix
    simp [hpair]
  | case4 c rest hlone hpair ih =>
    have hprefix : ¬ ['_', '_'] <+: c :: rest := by
      rintro ⟨others, heq⟩
      cases heq
      exact hpair others rfl rfl
    have hlast : (c :: rest).getLast? ≠ some '_' ↔ rest.getLast? ≠ some '_' := by
      cases rest with
      | nil => simpa using fun hc : c = '_' => hlone hc rfl
      | cons d rest => rw [List.getLast?_cons_cons]
    rw [ih, hlast, List.infix_cons_iff, not_or]
    exact ⟨fun h => ⟨h.1, hprefix, h.2⟩, fun h => ⟨h.1, h.2.2⟩⟩

theorem ungroup?_eq_some_iff {text plain : List Char} :
    ungroup? text = some plain ↔ IsGrouping plain text := by
  unfold ungroup?
  split
  · next h =>
    obtain ⟨hlast, hapart⟩ := (isGrouped_iff text).1 h.2
    rw [Option.some.injEq]
    exact ⟨fun heq => ⟨h.1, hlast, hapart, heq⟩, fun hgrouping => hgrouping.filter_eq⟩
  · next h =>
    refine ⟨nofun, fun hgrouping => absurd ⟨hgrouping.head_ne, ?_⟩ h⟩
    exact (isGrouped_iff text).2 ⟨hgrouping.last_ne, hgrouping.apart⟩

theorem IsGrouping.exists_cons {c : Char} {plain core : List Char}
    (h : IsGrouping (c :: plain) core) :
    ∃ rest, core = c :: rest ∧ rest.filter (· != '_') = plain := by
  cases core with
  | nil => exact absurd h.filter_eq.symm (List.cons_ne_nil _ _)
  | cons d rest =>
    have hd : d ≠ '_' := fun hd => h.head_ne (congrArg some hd)
    have hfilter : d :: rest.filter (· != '_') = c :: plain := by simpa [hd] using h.filter_eq
    obtain ⟨rfl, hrest⟩ := List.cons.inj hfilter
    exact ⟨rest, rfl, hrest⟩

/-- A group of digits starts with one that is not zero, or is a zero. -/
theorem IsGrouping.head_natural {n : Nat} {core : List Char} (h : IsGrouping (natural n) core) :
    core = ['0'] ∨ ∃ d rest, core = d :: rest ∧ d.isDigit = true ∧ d ≠ '0' := by
  obtain ⟨c, plain, hnatural⟩ := List.exists_cons_of_ne_nil (Decimal.natural_ne_nil n)
  obtain ⟨rest, rfl, hrest⟩ := IsGrouping.exists_cons (hnatural ▸ h)
  have hdigit : c.isDigit = true :=
    Decimal.isDigit_of_mem_natural (hnatural ▸ List.mem_cons_self)
  by_cases hzero : c = '0'
  · left
    subst hzero
    cases plain with
    | nil =>
      have hall : ∀ d ∈ rest, d = '_' := by simpa using hrest
      cases hend : rest.getLast? with
      | none => simp [List.getLast?_eq_none_iff.1 hend]
      | some d =>
        obtain rfl := hall d (List.mem_of_mem_getLast? hend)
        exact absurd (by rw [List.getLast?_cons, hend]; rfl) h.last_ne
    | cons d more => exact absurd hnatural Decimal.natural_ne_zero_cons
  · exact .inr ⟨c, rest, rfl, hdigit, hzero⟩

theorem isGrouping_natural (n : Nat) : IsGrouping (natural n) (natural n) := by
  have hne : ∀ c ∈ natural n, c ≠ '_' := by
    rintro c hc rfl
    exact absurd (Decimal.isDigit_of_mem_natural hc) (by decide)
  refine ⟨fun h => hne _ (List.mem_of_mem_head? h) rfl,
    fun h => hne _ (List.mem_of_mem_getLast? h) rfl,
    fun h => hne '_' (h.subset List.mem_cons_self) rfl, ?_⟩
  exact List.filter_eq_self.2 fun c hc => bne_iff_ne.2 (hne c hc)

/-! ## Padding -/

/-- Zeros, with underscores behind the first of them. -/
def IsPadding (zeros : List Char) : Prop :=
  zeros = [] ∨ ∃ more, zeros = '0' :: more ∧ ∀ c ∈ more, c = '0' ∨ c = '_'

theorem exists_padding_of_dropZeros? {text core : List Char} (h : dropZeros? text = some core) :
    ∃ zeros, IsPadding zeros ∧ text = zeros ++ core ∧ (core.head? = some '-' → zeros ≠ []) := by
  unfold dropZeros? at h
  split at h
  · contradiction
  · next c rest =>
    split at h
    · next hzero =>
      subst hzero
      have hpad : ∀ d ∈ rest.takeWhile (fun d => d == '0' || d == '_'), d = '0' ∨ d = '_' := by
        intro d hd
        simpa using List.mem_takeWhile_imp hd
      have hrest := List.takeWhile_append_dropWhile (p := fun d => d == '0' || d == '_') (l := rest)
      split at h
      · next hnone =>
        rw [hnone, List.append_nil] at hrest
        rw [hrest] at hpad
        obtain rfl | ⟨front, last, rfl⟩ := List.eq_nil_or_concat rest
        · obtain rfl := Option.some.inj h
          exact ⟨[], .inl rfl, rfl, by simp⟩
        · refine ⟨'0' :: front, .inr ⟨front, rfl, fun d hd => hpad d (by simp [hd])⟩, ?_, by simp⟩
          simpa using h
      · next d more hsome =>
        split at h
        · obtain rfl := Option.some.inj h
          refine ⟨_, .inr ⟨_, rfl, hpad⟩, ?_, by simp⟩
          rw [List.cons_append, ← hsome, hrest]
        · contradiction
    · split at h
      · next hdigit =>
        obtain rfl := Option.some.inj h
        refine ⟨[], .inl rfl, rfl, fun hminus => ?_⟩
        obtain rfl : c = '-' := by simpa using hminus
        contradiction
      · contradiction

/-- What starts with a digit other than zero, and a zero that is all there is,
remains behind padding. -/
theorem dropZeros?_append_digits {zeros core : List Char} (hzeros : IsPadding zeros)
    (hcore : core = ['0'] ∨ ∃ d rest, core = d :: rest ∧ d.isDigit = true ∧ d ≠ '0') :
    dropZeros? (zeros ++ core) = some core := by
  obtain rfl | ⟨more, rfl, hmore⟩ := hzeros
  · obtain rfl | ⟨d, rest, rfl, hdigit, hne⟩ := hcore
    · rfl
    · simp [dropZeros?, hdigit, hne]
  · have hpad : ∀ c ∈ more, (c == '0' || c == '_') = true := by simpa using hmore
    obtain rfl | ⟨d, rest, rfl, hdigit, hne⟩ := hcore
    · simp [dropZeros?, List.dropWhile_append_of_pos hpad]
    · have hline : d ≠ '_' := by
        rintro rfl
        contradiction
      simp [dropZeros?, List.dropWhile_append_of_pos hpad, hdigit, hne, hline]

/-- A minus sign remains behind padding, if there is any. -/
theorem dropZeros?_append_minus {zeros rest : List Char} (hzeros : IsPadding zeros)
    (hne : zeros ≠ []) : dropZeros? (zeros ++ '-' :: rest) = some ('-' :: rest) := by
  obtain rfl | ⟨more, rfl, hmore⟩ := hzeros
  · contradiction
  · have hpad : ∀ c ∈ more, (c == '0' || c == '_') = true := by simpa using hmore
    simp [dropZeros?, List.dropWhile_append_of_pos hpad]

/-- A text without its padding, and then without its underscores. -/
def reduce? (text : List Char) : Option (List Char) := (dropZeros? text).bind ungroup?

theorem exists_of_reduce? {text plain : List Char} (h : reduce? text = some plain) :
    ∃ zeros core, IsPadding zeros ∧ IsGrouping plain core ∧ text = zeros ++ core ∧
      (core.head? = some '-' → zeros ≠ []) := by
  obtain ⟨core, hdrop, hungroup⟩ := Option.bind_eq_some_iff.1 h
  obtain ⟨zeros, hzeros, htext, hminus⟩ := exists_padding_of_dropZeros? hdrop
  exact ⟨zeros, core, hzeros, ungroup?_eq_some_iff.1 hungroup, htext, hminus⟩

theorem reduce?_eq_some_natural_iff {text : List Char} {n : Nat} :
    reduce? text = some (natural n) ↔
      ∃ zeros core, IsPadding zeros ∧ IsGrouping (natural n) core ∧ text = zeros ++ core := by
  constructor
  · intro h
    obtain ⟨zeros, core, hzeros, hcore, htext, _⟩ := exists_of_reduce? h
    exact ⟨zeros, core, hzeros, hcore, htext⟩
  · rintro ⟨zeros, core, hzeros, hcore, rfl⟩
    rw [reduce?, dropZeros?_append_digits hzeros hcore.head_natural]
    exact ungroup?_eq_some_iff.2 hcore

theorem reduce?_eq_some_minus_iff {text : List Char} {n : Nat} :
    reduce? text = some ('-' :: natural n) ↔
      ∃ zeros core, IsPadding zeros ∧ zeros ≠ [] ∧ IsGrouping ('-' :: natural n) core ∧
        text = zeros ++ core := by
  constructor
  · intro h
    obtain ⟨zeros, core, hzeros, hcore, htext, hminus⟩ := exists_of_reduce? h
    obtain ⟨rest, rfl, _⟩ := hcore.exists_cons
    exact ⟨zeros, _, hzeros, hminus rfl, hcore, htext⟩
  · rintro ⟨zeros, core, hzeros, hne, hcore, rfl⟩
    obtain ⟨rest, rfl, _⟩ := hcore.exists_cons
    rw [reduce?, dropZeros?_append_minus hzeros hne]
    exact ungroup?_eq_some_iff.2 hcore

/-! ## Fractions -/

/-- Nothing, or a point and zeros behind it. -/
def IsFraction (fraction : List Char) : Prop :=
  fraction = [] ∨ ∃ zeros, fraction = '.' :: zeros ∧ zeros ≠ [] ∧ ∀ c ∈ zeros, c = '0'

theorem cutFraction?_eq_some_iff {text whole : List Char} :
    cutFraction? text = some whole ↔
      '.' ∉ whole ∧ ∃ fraction, IsFraction fraction ∧ text = whole ++ fraction := by
  constructor
  · intro h
    unfold cutFraction? at h
    split at h
    · next hnone =>
      obtain rfl := Option.some.inj h
      have hpoint : '.' ∉ text := fun hmem => by
        simpa using Text.cutFirst?_eq_none_iff.1 hnone '.' hmem
      exact ⟨hpoint, [], .inl rfl, (List.append_nil text).symm⟩
    · next before mark zeros hcut =>
      obtain ⟨htext, hmark, hbefore⟩ := Text.cutFirst?_eq_some hcut
      split at h
      · next hzeros =>
        obtain rfl := Option.some.inj h
        obtain rfl := beq_iff_eq.1 hmark
        have hpoint : '.' ∉ before := fun hmem => by simpa using hbefore '.' hmem
        have hall : ∀ c ∈ zeros, c = '0' := by simpa using hzeros.2
        exact ⟨hpoint, _, .inr ⟨zeros, rfl, hzeros.1, hall⟩, htext⟩
      · contradiction
  · rintro ⟨hpoint, fraction, rfl | ⟨zeros, rfl, hne, hall⟩, rfl⟩
    · have hnone : Text.cutFirst? (· == '.') (whole ++ []) = none := by
        rw [List.append_nil, Text.cutFirst?_eq_none_iff]
        exact fun c hc => beq_eq_false_iff_ne.2 fun heq => hpoint (heq ▸ hc)
      rw [cutFraction?, hnone, List.append_nil]
    · have hzeros : zeros.all (· == '0') = true := by simpa using hall
      rw [cutFraction?, Text.cutFirst?_of_notMem hpoint]
      simp [hne, hzeros]

/-! ## Signs -/

/-- What a text without white space around it and without a fraction is tidied
to. -/
def tidyWhole? : List Char → Option (List Char)
  | '-' :: digits => (reduce? digits).map ('-' :: ·)
  | '+' :: digits => reduce? digits
  | digits => reduce? digits

theorem tidy?_eq (text : List Char) :
    tidy? text = (cutFraction? (Text.trim Text.isSpace text)).bind tidyWhole? := by
  unfold tidy?
  cases cutFraction? (Text.trim Text.isSpace text) with
  | none => rfl
  | some whole =>
    rw [Option.bind_some]
    unfold tidyWhole?
    split <;> simp_all [reduce?]

/-- No sign, or one that changes nothing. -/
def IsPlus (sign : List Char) : Prop := sign = [] ∨ sign = ['+']

theorem reduce?_of_sign {c : Char} (h : c = '-' ∨ c = '+') (rest : List Char) :
    reduce? (c :: rest) = none := by
  obtain rfl | rfl := h <;> rfl

theorem tidyWhole?_eq_some_iff {whole plain : List Char} :
    tidyWhole? whole = some plain ↔
      (∃ sign digits, IsPlus sign ∧ whole = sign ++ digits ∧ reduce? digits = some plain) ∨
        ∃ digits rest, whole = '-' :: digits ∧ reduce? digits = some rest ∧
          plain = '-' :: rest := by
  constructor
  · intro h
    unfold tidyWhole? at h
    split at h
    · next digits =>
      obtain ⟨rest, hrest, rfl⟩ := Option.map_eq_some_iff.1 h
      exact .inr ⟨digits, rest, rfl, hrest, rfl⟩
    · next digits => exact .inl ⟨['+'], digits, .inr rfl, rfl, h⟩
    · exact .inl ⟨[], whole, .inl rfl, rfl, h⟩
  · rintro (⟨sign, digits, rfl | rfl, rfl, h⟩ | ⟨digits, rest, rfl, h, rfl⟩)
    · unfold tidyWhole?
      split
      · simp [reduce?_of_sign (.inl rfl)] at h
      · simp [reduce?_of_sign (.inr rfl)] at h
      · exact h
    · exact h
    · simp [tidyWhole?, h]

/-! ## Spelled numbers -/

/-- What a sign, padding and digits behind it say.  Behind padding a minus sign
counts, too, if there was none before. -/
inductive Says (sign zeros core : List Char) : Int → Prop where
  | plus {n : Nat} (hfits : fits n = true) (hsign : IsPlus sign)
      (hcore : IsGrouping (natural n) core) : Says sign zeros core n
  | minus {n : Nat} (hfits : fits n = true) (hsign : sign = ['-'])
      (hcore : IsGrouping (natural n) core) : Says sign zeros core (-n)
  | lateMinus {n : Nat} (hfits : fits n = true) (hsign : IsPlus sign) (hzeros : zeros ≠ [])
      (hcore : IsGrouping ('-' :: natural n) core) : Says sign zeros core (-n)

/-- A text says a number: with white space around it, it is a sign, padding,
digits in groups, and a fraction of zeros. -/
def Spells (text : List Char) (m : Int) : Prop :=
  ∃ sign zeros core fraction,
    Text.trim Text.isSpace text = sign ++ zeros ++ core ++ fraction ∧
      IsPadding zeros ∧ IsFraction fraction ∧ Says sign zeros core m

theorem IsGrouping.mem {plain core : List Char} {c : Char} (h : IsGrouping plain core)
    (hc : c ∈ core) : c = '_' ∨ c ∈ plain := by
  by_cases hline : c = '_'
  · exact .inl hline
  · exact .inr (h.filter_eq ▸ List.mem_filter.2 ⟨hc, bne_iff_ne.2 hline⟩)

theorem point_notMem_natural (n : Nat) : '.' ∉ natural n := fun h =>
  absurd (Decimal.isDigit_of_mem_natural h) (by decide)

theorem IsGrouping.point_notMem {plain core : List Char} (h : IsGrouping plain core)
    (hplain : '.' ∉ plain) : '.' ∉ core := fun hmem =>
  (h.mem hmem).elim (by decide) hplain

theorem IsPadding.point_notMem {zeros : List Char} (h : IsPadding zeros) : '.' ∉ zeros := by
  obtain rfl | ⟨more, rfl, hmore⟩ := h
  · exact List.not_mem_nil
  · have hrest : '.' ∉ more := fun hmem => by simpa using hmore '.' hmem
    simpa using hrest

theorem IsPlus.point_notMem {sign : List Char} (h : IsPlus sign) : '.' ∉ sign := by
  obtain rfl | rfl := h <;> decide

/-- The point of a fraction is the first there is. -/
theorem Says.point_notMem {sign zeros core : List Char} {m : Int}
    (h : Says sign zeros core m) (hzeros : IsPadding zeros) : '.' ∉ sign ++ zeros ++ core := by
  have hparts : '.' ∉ sign ∧ '.' ∉ core := by
    cases h with
    | plus _ hsign hcore =>
      exact ⟨hsign.point_notMem, hcore.point_notMem (point_notMem_natural _)⟩
    | minus _ hsign hcore =>
      exact ⟨by simp [hsign], hcore.point_notMem (point_notMem_natural _)⟩
    | lateMinus _ hsign _ hcore =>
      exact ⟨hsign.point_notMem, hcore.point_notMem (by simp [point_notMem_natural])⟩
  simp [hparts, hzeros.point_notMem]

/-- Tidying makes a plain numeral of what says a number, and of nothing
else. -/
theorem tidied_iff_spells {text : List Char} {m : Int} :
    (∃ plain, tidy? text = some plain ∧ readPlain plain = .ok m) ↔ Spells text m := by
  constructor
  · rintro ⟨plain, htidy, hplain⟩
    rw [tidy?_eq] at htidy
    obtain ⟨whole, hcut, hwhole⟩ := Option.bind_eq_some_iff.1 htidy
    obtain ⟨_, fraction, hfraction, htext⟩ := cutFraction?_eq_some_iff.1 hcut
    obtain ⟨n, hfits, ⟨rfl, rfl⟩ | ⟨rfl, rfl⟩⟩ := readPlain_eq_ok_iff.1 hplain
    · obtain ⟨sign, digits, hsign, rfl, hreduce⟩ | ⟨_, _, _, _, hminus⟩ :=
        tidyWhole?_eq_some_iff.1 hwhole
      · obtain ⟨zeros, core, hzeros, hcore, rfl⟩ := reduce?_eq_some_natural_iff.1 hreduce
        exact ⟨sign, zeros, core, fraction, by simp [htext], hzeros, hfraction,
          .plus hfits hsign hcore⟩
      · exact absurd hminus natural_ne_minus_cons
    · obtain ⟨sign, digits, hsign, rfl, hreduce⟩ | ⟨digits, rest, rfl, hreduce, hminus⟩ :=
        tidyWhole?_eq_some_iff.1 hwhole
      · obtain ⟨zeros, core, hzeros, hne, hcore, rfl⟩ := reduce?_eq_some_minus_iff.1 hreduce
        exact ⟨sign, zeros, core, fraction, by simp [htext], hzeros, hfraction,
          .lateMinus hfits hsign hne hcore⟩
      · obtain rfl := (List.cons.inj hminus).2
        obtain ⟨zeros, core, hzeros, hcore, rfl⟩ := reduce?_eq_some_natural_iff.1 hreduce
        exact ⟨['-'], zeros, core, fraction, by simp [htext], hzeros, hfraction,
          .minus hfits rfl hcore⟩
  · rintro ⟨sign, zeros, core, fraction, htext, hzeros, hfraction, hsaid⟩
    have hcut : cutFraction? (Text.trim Text.isSpace text) = some (sign ++ zeros ++ core) :=
      cutFraction?_eq_some_iff.2 ⟨hsaid.point_notMem hzeros, fraction, hfraction, htext⟩
    have htidy : ∀ plain, tidyWhole? (sign ++ zeros ++ core) = some plain →
        tidy? text = some plain := by
      intro plain hwhole
      rw [tidy?_eq, hcut]
      exact hwhole
    cases hsaid with
    | @plus n hfits hsign hcore =>
      refine ⟨natural n, htidy _ (tidyWhole?_eq_some_iff.2 (.inl ⟨sign, zeros ++ core, hsign,
        List.append_assoc _ _ _, ?_⟩)), readPlain_eq_ok_iff.2 ⟨n, hfits, .inl ⟨rfl, rfl⟩⟩⟩
      exact reduce?_eq_some_natural_iff.2 ⟨zeros, core, hzeros, hcore, rfl⟩
    | @minus n hfits hsign hcore =>
      refine ⟨'-' :: natural n, htidy _ (tidyWhole?_eq_some_iff.2 (.inr ⟨zeros ++ core, natural n,
        by simp [hsign], ?_, rfl⟩)), readPlain_eq_ok_iff.2 ⟨n, hfits, .inr ⟨rfl, rfl⟩⟩⟩
      exact reduce?_eq_some_natural_iff.2 ⟨zeros, core, hzeros, hcore, rfl⟩
    | @lateMinus n hfits hsign hne hcore =>
      refine ⟨'-' :: natural n, htidy _ (tidyWhole?_eq_some_iff.2 (.inl ⟨sign, zeros ++ core,
        hsign, List.append_assoc _ _ _, ?_⟩)), readPlain_eq_ok_iff.2 ⟨n, hfits, .inr ⟨rfl, rfl⟩⟩⟩
      exact reduce?_eq_some_minus_iff.2 ⟨zeros, core, hzeros, hne, hcore, rfl⟩

/-! ## The reader -/

theorem isSpace_eq_false_of_isDigit {c : Char} (h : c.isDigit = true) : Text.isSpace c = false :=
  (Bool.or_eq_false_iff.1 (Text.isBlank_eq_false_of_isDigit h)).1

theorem spells_of_readPlain {text : List Char} {m : Int} (h : readPlain text = .ok m) :
    Spells text m := by
  obtain ⟨n, hfits, htext⟩ := readPlain_eq_ok_iff.1 h
  have hspace : ∀ c ∈ text, Text.isSpace c = false := by
    intro c hc
    have hdigit : c.isDigit = true ∨ c = '-' := by
      obtain ⟨rfl, _⟩ | ⟨rfl, _⟩ := htext
      · exact .inl (Decimal.isDigit_of_mem_natural hc)
      · exact (List.mem_cons.1 hc).symm.imp_left Decimal.isDigit_of_mem_natural
    obtain hdigit | rfl := hdigit
    · exact isSpace_eq_false_of_isDigit hdigit
    · rfl
  have htrim := Text.trim_eq_self_of_forall hspace
  obtain ⟨rfl, rfl⟩ | ⟨rfl, rfl⟩ := htext
  · exact ⟨[], [], natural n, [], by simpa using htrim, .inl rfl, .inl rfl,
      .plus hfits (.inl rfl) (isGrouping_natural n)⟩
  · exact ⟨['-'], [], natural n, [], by simpa using htrim, .inl rfl, .inl rfl,
      .minus hfits rfl (isGrouping_natural n)⟩

/-- What is too long starts with too many digits, the first of them not
zero. -/
theorem exists_of_readUnsigned_tooLong {text : List Char}
    (h : readUnsigned text = .error .tooLong) :
    ∃ digits rest, text = digits ++ rest ∧ (∀ c ∈ digits, c.isDigit = true) ∧
      digits.head? ≠ some '0' ∧ Decimal.maxDigits < digits.length := by
  simp only [readUnsigned] at h
  split at h
  · contradiction
  · split at h
    · contradiction
    · next hhead =>
      split at h
      · next hlong =>
        exact ⟨_, _, (List.takeWhile_append_dropWhile (p := Char.isDigit) (l := text)).symm,
          fun c hc => List.mem_takeWhile_imp hc, fun hzero => hhead (.inr hzero), hlong⟩
      · split at h <;> contradiction

theorem map_readUnsigned_tooLong {text : List Char} {f : Nat → Int}
    (h : (readUnsigned text).map f = .error .tooLong) : readUnsigned text = .error .tooLong := by
  cases hread : readUnsigned text with
  | error fault =>
    rw [hread] at h
    exact congrArg Except.error (Except.error.inj h)
  | ok n => simp [hread, Except.map] at h

/-- More digits than are read, from the first of the digits that count, are in
no numeral. -/
theorem length_le_of_isGrouping {n : Nat} {digits core fraction rest : List Char}
    (hfits : fits n = true) (hcore : IsGrouping (natural n) core) (hfraction : IsFraction fraction)
    (hdigits : ∀ c ∈ digits, c.isDigit = true) (h : digits ++ rest = core ++ fraction) :
    digits.length ≤ Decimal.maxDigits := by
  have hprefix : ∃ more, core = digits ++ more := by
    obtain ⟨more, hmore, _⟩ | ⟨more, hmore, hends⟩ := List.append_eq_append_iff.1 h
    · exact ⟨more, hmore⟩
    · obtain rfl | ⟨zeros, rfl, _⟩ := hfraction
      · obtain ⟨rfl, _⟩ := List.append_eq_nil_iff.1 hends.symm
        exact ⟨[], by simpa using hmore.symm⟩
      · cases more with
        | nil => exact ⟨[], by simpa using hmore.symm⟩
        | cons c more =>
          obtain rfl := (List.cons.inj hends).1
          exact absurd (hdigits '.' (by simp [hmore])) (by decide)
  obtain ⟨more, rfl⟩ := hprefix
  have hkept : digits.filter (· != '_') = digits := by
    refine List.filter_eq_self.2 fun c hc => bne_iff_ne.2 ?_
    rintro rfl
    exact absurd (hdigits '_' hc) (by decide)
  have hfilter := hcore.filter_eq
  rw [List.filter_append, hkept] at hfilter
  have hlength := (Decimal.fits_natCast_iff n).1 hfits
  rw [← hfilter, List.length_append] at hlength
  omega

theorem IsPadding.eq_nil {zeros rest others : List Char} {c : Char} (h : IsPadding zeros)
    (hc : c ≠ '0') (htext : c :: others = zeros ++ rest) : zeros = [] := by
  obtain rfl | ⟨more, rfl, _⟩ := h
  · rfl
  · exact absurd (List.cons.inj htext).1 hc

theorem IsPlus.eq_nil {sign rest others : List Char} {c : Char} (h : IsPlus sign)
    (hc : c ≠ '+') (htext : c :: others = sign ++ rest) : sign = [] := by
  obtain rfl | rfl := h
  · rfl
  · exact absurd (List.cons.inj htext).1 hc

/-- A number that starts with a digit other than zero has no padding. -/
theorem Says.exists_core_of_digit {sign zeros core tail others : List Char} {m : Int} {d : Char}
    (h : Says sign zeros core m) (hzeros : IsPadding zeros) (hdigit : d.isDigit = true)
    (hd : d ≠ '0') (htext : d :: others = sign ++ (zeros ++ (core ++ tail))) :
    ∃ n : Nat, fits n = true ∧ IsGrouping (natural n) core ∧ d :: others = core ++ tail := by
  have hplus : d ≠ '+' := by
    rintro rfl
    exact absurd hdigit (by decide)
  cases h with
  | @plus n hfits hsign hcore =>
    obtain rfl := hsign.eq_nil hplus htext
    obtain rfl := hzeros.eq_nil hd htext
    exact ⟨n, hfits, hcore, htext⟩
  | minus _ hsign _ =>
    subst hsign
    obtain rfl := (List.cons.inj htext).1
    exact absurd hdigit (by decide)
  | lateMinus _ hsign hne _ =>
    obtain rfl := hsign.eq_nil hplus htext
    exact absurd (hzeros.eq_nil hd htext) hne

/-- So has one that starts with a minus sign and such a digit. -/
theorem Says.exists_core_of_minus {sign zeros core tail others : List Char} {m : Int} {d : Char}
    (h : Says sign zeros core m) (hzeros : IsPadding zeros) (hd : d ≠ '0')
    (htext : '-' :: d :: others = sign ++ (zeros ++ (core ++ tail))) :
    ∃ n : Nat, fits n = true ∧ IsGrouping (natural n) core ∧ d :: others = core ++ tail := by
  cases h with
  | plus _ hsign hcore =>
    obtain rfl := hsign.eq_nil (by decide) htext
    obtain rfl := hzeros.eq_nil (by decide) htext
    obtain rfl | ⟨c, more, rfl, hdigit, _⟩ := hcore.head_natural
    · exact absurd (List.cons.inj htext).1 (by decide)
    · obtain rfl := (List.cons.inj htext).1
      exact absurd hdigit (by decide)
  | @minus n hfits hsign hcore =>
    subst hsign
    have hrest := (List.cons.inj htext).2
    obtain rfl := hzeros.eq_nil hd hrest
    exact ⟨n, hfits, hcore, hrest⟩
  | lateMinus _ hsign hne _ =>
    obtain rfl := hsign.eq_nil (by decide) htext
    exact absurd (hzeros.eq_nil (by decide) htext) hne

/-- What is too long as it stands is no number when it is tidied, either. -/
theorem not_spells_of_tooLong {text : List Char} {m : Int}
    (h : readPlain text = .error .tooLong) : ¬ Spells text m := by
  rintro ⟨sign, zeros, core, fraction, htrim, hzeros, hfraction, hsaid⟩
  obtain ⟨front, body, rfl, hfront, hbody⟩ : ∃ front body, text = front ++ body ∧
      (front = [] ∨ front = ['-']) ∧ readUnsigned body = .error .tooLong := by
    unfold readPlain at h
    split at h
    · next digits => exact ⟨['-'], digits, rfl, .inr rfl, map_readUnsigned_tooLong h⟩
    · exact ⟨[], text, rfl, .inl rfl, map_readUnsigned_tooLong h⟩
  obtain ⟨digits, rest, rfl, hdigits, hhead, hlong⟩ := exists_of_readUnsigned_tooLong hbody
  obtain ⟨d, others, rfl⟩ : ∃ d others, digits = d :: others :=
    List.exists_cons_of_length_pos (Nat.zero_lt_of_lt hlong)
  have hspace : ∀ c ∈ front ++ d :: others, Text.isSpace c = false := by
    intro c hc
    obtain hc | hc := List.mem_append.1 hc
    · obtain rfl | rfl := hfront
      · exact absurd hc List.not_mem_nil
      · obtain rfl := List.mem_singleton.1 hc
        rfl
    · exact isSpace_eq_false_of_isDigit (hdigits c hc)
  rw [← List.append_assoc, Text.trim_append_of_keep hspace (by simp)] at htrim
  simp only [List.append_assoc, List.cons_append] at htrim
  have hd : d ≠ '0' := fun hzero => hhead (congrArg some hzero)
  have hcore : ∃ n : Nat, fits n = true ∧ IsGrouping (natural n) core ∧
      d :: (others ++ Text.trimEnd Text.isSpace rest) = core ++ fraction := by
    obtain rfl | rfl := hfront
    · exact hsaid.exists_core_of_digit hzeros (hdigits d List.mem_cons_self) hd htrim
    · exact hsaid.exists_core_of_minus hzeros hd htrim
  obtain ⟨n, hfits, hgrouping, hrest⟩ := hcore
  have hshort := length_le_of_isGrouping hfits hgrouping hfraction hdigits hrest
  omega

/-- No text says two numbers. -/
theorem Spells.unique {text : List Char} {m n : Int} (hm : Spells text m) (hn : Spells text n) :
    m = n := by
  obtain ⟨plain, htidy, hread⟩ := tidied_iff_spells.2 hm
  obtain ⟨plain', htidy', hread'⟩ := tidied_iff_spells.2 hn
  obtain rfl := Option.some.inj (htidy.symm.trans htidy')
  exact Except.ok.inj (hread.symm.trans hread')

/-- **Numerals**: a text is read as a whole number exactly if it says that
number. -/
theorem read_eq_ok_iff_spells {text : List Char} {m : Int} :
    read text = .ok m ↔ Spells text m := by
  unfold read
  cases hplain : readPlain text with
  | ok n =>
    have hspells := spells_of_readPlain hplain
    rw [Except.ok.injEq]
    constructor
    · rintro rfl
      exact hspells
    · intro hother
      exact hspells.unique hother
  | error fault =>
    cases fault with
    | tooLong => exact ⟨nofun, fun hspells => absurd hspells (not_spells_of_tooLong hplain)⟩
    | unclear =>
      rw [← tidied_iff_spells]
      cases tidy? text with
      | none => simp
      | some tidied =>
        cases hread : readPlain tidied with
        | error _ => simp [Except.mapError, hread]
        | ok n => simp [Except.mapError, hread]

end Dicebag.Numeral
