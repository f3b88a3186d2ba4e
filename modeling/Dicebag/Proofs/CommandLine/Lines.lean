import Dicebag.CommandLine.Output
import Dicebag.Proofs.Expression.Grammar

/-!
# Dicebag.Proofs.CommandLine.Lines

The printed lines, told apart again: there is one for each roll
(`Output.splitOn_lines`), since neither the text of a roll (`Roll.mem_chars`)
nor an expression that is accepted (`Expression.mem_of_parse`) has a line feed
among its characters.
-/

namespace Dicebag

/-! ## What texts are made of -/

/-- A roll is written with digits and these characters. -/
theorem Roll.mem_chars {r : Roll} {c : Char} (h : c ∈ r.chars) :
    c.isDigit ∨ c ∈ [' ', '-', '+', '=', '(', ')'] := by
  have hpadded : c ∈ padded (Decimal.integer r.total) → c.isDigit ∨ c = ' ' ∨ c = '-' := by
    intro hc
    obtain hc | hc := List.mem_append.1 hc
    · exact .inr (.inl (List.eq_of_mem_replicate hc))
    · exact (Decimal.isDigit_or_eq_minus_of_mem_integer hc).imp_right .inr
  have hbreakdown : c ∈ breakdown r.values → c.isDigit ∨ c = '-' ∨ c ∈ [' ', '+', ' '] :=
    Decimal.mem_intercalate_integers
  unfold chars at h
  split at h
  · have := hpadded h
    grind
  · simp only [List.mem_append] at h
    grind

theorem Spelling.mem {text : List Char} {count faces m : Int} {t : Option Int} {c : Char}
    (h : Spelling text count faces m t) (hc : c ∈ text) :
    c.isDigit ∨ c ∈ ['d', 'D', '+', '-', '!'] := by
  obtain ⟨hdice, hmodifier, hthreshold⟩ := h
  simp only [List.mem_append] at hc
  obtain (hc | hc) | hc := hc
  · have := hdice.isDigit_or_isDie c hc
    rw [Pieces.isDie_eq_true_iff] at this
    grind
  · have := hmodifier.isDigit_or_isSign c hc
    rw [Pieces.isSign_eq_true_iff] at this
    grind
  · have := hthreshold.isDigit_or_eq_bang c hc
    grind

/-- An expression that is accepted is written with digits and these
characters. -/
theorem Expression.mem_of_parse {text : String} {e : Expression} {c : Char}
    (h : parse text = .ok e) (hc : c ∈ text.toList) :
    c.isDigit ∨ c ∈ [' ', 'd', 'D', '+', '-', '!'] := by
  by_cases hspace : c = ' '
  · simp [hspace]
  · have hkept : c ∈ Pieces.withoutSpaces text.toList := List.mem_filter.2 ⟨hc, by simpa⟩
    exact ((spelling_of_ofChars h).mem hkept).imp_right (List.mem_cons_of_mem _)

/-! ## The lines of rolls -/

namespace Output

/-- The line of a roll without its end. -/
def lineBody (labelled : Bool) (r : Rolled) : List Char :=
  (if labelled then r.written.toList ++ [':', ' '] else []) ++ r.roll.chars

theorem newLine_notMem_lineBody {r : Rolled} (h : '\n' ∉ r.written.toList) (labelled : Bool) :
    '\n' ∉ lineBody labelled r := by
  intro hmem
  obtain hmem | hmem := List.mem_append.1 hmem
  · cases labelled with
    | false => exact List.not_mem_nil hmem
    | true =>
      obtain hmem | hmem := List.mem_append.1 hmem
      · exact h hmem
      · exact absurd hmem (by decide)
  · exact absurd (Roll.mem_chars hmem) (by decide)

theorem newLine_notMem_written {rolled : List Rolled}
    (hread : ∀ r ∈ rolled, ∃ e, Expression.parse r.written = .ok e) :
    ∀ r ∈ rolled, '\n' ∉ r.written.toList := by
  intro r hr hc
  obtain ⟨e, he⟩ := hread r hr
  exact absurd (Expression.mem_of_parse he hc) (by decide)

theorem splitOn_flatMap {α : Type} {body : α → List Char} {items : List α}
    (h : ∀ a ∈ items, '\n' ∉ body a) :
    (items.flatMap fun a => body a ++ ['\n']).splitOn '\n' = items.map body ++ [[]] := by
  induction items with
  | nil => exact List.splitOn_nil _
  | cons a items ih =>
    obtain ⟨ha, hitems⟩ := List.forall_mem_cons.1 h
    rw [List.flatMap_cons, List.append_assoc, List.singleton_append,
      List.splitOn_append_cons_self_of_not_mem ha, ih hitems, List.map_cons, List.cons_append]

/-- There is one line for each roll. -/
theorem splitOn_lines {rolled : List Rolled} (h : ∀ r ∈ rolled, '\n' ∉ r.written.toList) :
    (lines rolled).splitOn '\n' = rolled.map (lineBody (decide (1 < rolled.length))) ++ [[]] :=
  splitOn_flatMap fun r hr => newLine_notMem_lineBody (h r hr) _

end Output

end Dicebag
