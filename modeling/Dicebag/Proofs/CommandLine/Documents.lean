import Dicebag.CommandLine.Output
import Dicebag.Json
import Dicebag.Proofs.Expression.RoundTrip
import Dicebag.Proofs.Roll.Accounting

/-!
# Dicebag.Proofs.CommandLine.Documents

The printed document read back: it is an array of a record for each roll,
in order (`Output.read?_document`).

`Json.Reads` says of a text that it is read as a value wherever a value may
stand; what follows must not go on with a digit, or a number would not end
there.  There is one lemma for each kind of value that is printed, from
numbers and texts to records.  Arrays and objects share one induction over
what is separated by commas in them (`Json.State.feed_intercalate`).
-/

namespace Dicebag

open Pieces

theorem Output.array_of_ne_nil {items : List (List Char)} (h : items ≠ []) (spaces : Nat) :
    Output.array spaces items =
      ['['] ++ [','].intercalate (items.map (Output.newLine (spaces + 2) ++ ·))
        ++ Output.newLine spaces ++ [']'] := by
  cases items with
  | nil => exact absurd rfl h
  | cons item items => rfl

namespace Json

variable {c : Char} {s text rest : List Char}

/-- The text does not go on with a digit. -/
def SetsOff (rest : List Char) : Prop := ∀ c ∈ rest.head?, c.isDigit = false

theorem setsOff_cons (hc : c.isDigit = false) : SetsOff (c :: rest) := by
  rintro _ ⟨⟩
  exact hc

theorem setsOff_newLine (spaces : Nat) : SetsOff (Output.newLine spaces ++ rest) :=
  setsOff_cons rfl

theorem isBlank_of_isDigit (hc : c.isDigit = true) : isBlank c = false := by
  rw [← Bool.not_eq_true]
  intro h
  simp only [isBlank, Bool.or_eq_true, beq_iff_eq] at h
  obtain ((rfl | rfl) | rfl) | rfl := h <;> exact absurd hc (by decide)

theorem isPlain_of_isDigit (hc : c.isDigit = true) : isPlain c = true := by
  have hle : 0x20 ≤ c.toNat := by
    simp only [Char.isDigit, Bool.and_eq_true, decide_eq_true_eq, UInt32.le_iff_toNat_le] at hc
    exact Nat.le_trans (by decide) hc.1
  have hquote : c ≠ '"' := fun h => absurd (h ▸ hc) (by decide)
  have hbackslash : c ≠ '\\' := fun h => absurd (h ▸ hc) (by decide)
  simp only [isPlain, bne_iff_ne, Bool.and_eq_true, decide_eq_true_eq]
  exact ⟨⟨hquote, hbackslash⟩, hle⟩

/-! ## Tokens -/

namespace Token

theorem takeWhile_append {p : Char → Bool} (hs : ∀ c ∈ s, p c = true)
    (hrest : ∀ c ∈ rest.head?, p c = false) : (s ++ rest).takeWhile p = s := by
  rw [List.takeWhile_append_of_pos hs]
  cases rest with
  | nil => exact List.append_nil s
  | cons c rest => rw [List.takeWhile_cons_of_neg (by simp [hrest c rfl]), List.append_nil]

theorem dropWhile_append {p : Char → Bool} (hs : ∀ c ∈ s, p c = true)
    (hrest : ∀ c ∈ rest.head?, p c = false) : (s ++ rest).dropWhile p = rest := by
  rw [List.dropWhile_append_of_pos hs]
  cases rest with
  | nil => rfl
  | cons c rest => exact List.dropWhile_cons_of_neg (by simp [hrest c rfl])

theorem read?_text (hs : ∀ c ∈ s, isPlain c = true) :
    read? ('"' :: (s ++ '"' :: rest)) = some (.scalar (.text (String.ofList s)), rest) := by
  have hquote : ∀ c ∈ ('"' :: rest).head?, isPlain c = false := by
    rintro _ ⟨⟩
    rfl
  rw [read?, readText?, dropWhile_append hs hquote, takeWhile_append hs hquote]
  rfl

theorem readDigits?_natural (n : Nat) (hrest : SetsOff rest) :
    readDigits? (Decimal.natural n ++ rest) = some (n, rest) := by
  have hdigit : ∀ c ∈ Decimal.natural n, c.isDigit = true := fun _ =>
    Decimal.isDigit_of_mem_natural
  rw [readDigits?, takeWhile_append hdigit hrest, dropWhile_append hdigit hrest]
  split
  · next hnil => exact absurd hnil (Decimal.natural_ne_nil n)
  · next hzero => exact absurd hzero Decimal.natural_ne_zero_cons
  · rw [Decimal.ofDigitChars_natural]

theorem readNumber?_of_ne_minus (hc : c ≠ '-') :
    readNumber? (c :: rest) =
      (readDigits? (c :: rest)).map fun (n, rest) => (.scalar (.number n), rest) := by
  unfold readNumber?
  split
  · next heq => exact absurd (List.cons.inj heq).1 hc
  · rfl

theorem readNumber?_integer (n : Int) (hrest : SetsOff rest) :
    readNumber? (Decimal.integer n ++ rest) = some (.scalar (.number n), rest) := by
  obtain hneg | hnonneg := Int.lt_or_le n 0
  · have hn : -(n.natAbs : Int) = n := by omega
    rw [Decimal.integer_of_neg hneg, List.cons_append, readNumber?, readDigits?_natural _ hrest]
    simp only [Option.map_some, hn]
  · have hn : (n.natAbs : Int) = n := by omega
    obtain ⟨d, digits, heq⟩ := List.exists_cons_of_ne_nil (Decimal.natural_ne_nil n.natAbs)
    have hd : d ≠ '-' := by
      rintro rfl
      exact absurd (Decimal.isDigit_of_mem_natural (heq ▸ List.mem_cons_self)) (by decide)
    have hread := readDigits?_natural n.natAbs hrest
    rw [heq, List.cons_append] at hread
    rw [Decimal.integer_of_nonneg hnonneg, heq, List.cons_append, readNumber?_of_ne_minus hd,
      hread]
    simp only [Option.map_some, hn]

/-- What starts like a number is read as one. -/
theorem read?_of_head (hc : c.isDigit = true ∨ c = '-') :
    read? (c :: rest) = readNumber? (c :: rest) := by
  unfold read?
  split
  case h_11 => rfl
  all_goals
    next heq =>
    obtain ⟨rfl, _⟩ := List.cons.inj heq
    exact absurd hc (by decide)

end Token

/-! ## States -/

namespace State

variable {state next : State} {stack : List Frame} {token : Token}

theorem step_scalar (v : Json) : step (.value stack) (.scalar v) = some (.behind v stack) := by
  unfold step
  split <;> simp_all [start]

theorem step_openArray : step (.value stack) .openArray = some (.value (.array [] :: stack)) := by
  unfold step
  split <;> simp_all [start]

theorem step_openObject : step (.value stack) .openObject = some (.name [] stack) := by
  unfold step
  split <;> simp_all [start]

theorem step_name {fields : List (String × Json)} {name : String} :
    step (.name fields stack) (.scalar (.text name)) = some (.colon fields name stack) := by
  unfold step
  split <;> simp_all

theorem feed_nil (state : State) : state.feed [] = some state := by
  rw [feed_eq]
  rfl

theorem feed_blanks (hs : ∀ c ∈ s, isBlank c = true) (state : State) :
    state.feed (s ++ rest) = state.feed rest := by
  rw [feed_eq, feed_eq state rest, List.dropWhile_append_of_pos hs]

theorem feed_token (hc : isBlank c = false) (hread : Token.read? (c :: text) = some (token, rest))
    (hstep : state.step token = some next) : state.feed (c :: text) = next.feed rest := by
  rw [feed_eq, List.dropWhile_cons_of_neg (by simp [hc])]
  simp only [hread, hstep, Option.bind_some]

theorem feed_newLine (state : State) (spaces : Nat) :
    state.feed (Output.newLine spaces ++ rest) = state.feed rest := by
  refine feed_blanks (fun c hc => ?_) state
  obtain rfl | hc := List.mem_cons.1 hc
  · rfl
  · rw [List.eq_of_mem_replicate hc]
    rfl

/-- Members between commas, one after the other.  From `expect before` each
of them leads to `behind member before`, where `before` are the members
already read, the newest first; `result` is where the rest leads to. -/
theorem feed_intercalate {α : Type} {written : α → List Char} {expect : List α → State}
    {behind : α → List α → State} {members : List α} (result : List α → Option State)
    (hmember : ∀ a ∈ members, ∀ before rest, SetsOff rest →
      (expect before).feed (written a ++ rest) = (behind a before).feed rest)
    (hcomma : ∀ a before, (behind a before).step .comma = some (expect (a :: before)))
    (hrest : SetsOff rest)
    (hresult : ∀ a before, (behind a before).feed rest = result (a :: before))
    (hne : members ≠ []) (before : List α) :
    (expect before).feed ([','].intercalate (members.map written) ++ rest) =
      result (members.reverse ++ before) := by
  induction members generalizing before with
  | nil => exact absurd rfl hne
  | cons a members ih =>
    obtain ⟨ha, hmembers⟩ := List.forall_mem_cons.1 hmember
    cases members with
    | nil =>
      rw [List.map_singleton, List.intercalate_singleton, ha before rest hrest]
      exact hresult a before
    | cons b members =>
      calc
        (expect before).feed ([','].intercalate ((a :: b :: members).map written) ++ rest)
          = (expect before).feed
              (written a ++ ',' :: ([','].intercalate ((b :: members).map written) ++ rest)) := by
            rw [List.map_cons, List.map_cons, List.intercalate_cons_cons, List.append_assoc,
              List.append_assoc]
            rfl
        _ = (behind a before).feed
              (',' :: ([','].intercalate ((b :: members).map written) ++ rest)) :=
            ha before _ (setsOff_cons rfl)
        _ = (expect (a :: before)).feed
              ([','].intercalate ((b :: members).map written) ++ rest) :=
            feed_token rfl rfl (hcomma a before)
        _ = result ((b :: members).reverse ++ a :: before) :=
            ih hmembers (List.cons_ne_nil _ _) (a :: before)
        _ = result ((a :: b :: members).reverse ++ before) := by
            conv => rhs; rw [List.reverse_cons, List.append_assoc, List.singleton_append]

end State

/-! ## Values -/

/-- The text is read as the value wherever a value has to follow. -/
def Reads (s : List Char) (v : Json) : Prop :=
  ∀ stack rest, SetsOff rest →
    State.feed (.value stack) (s ++ rest) = State.feed (.behind v stack) rest

theorem reads_number (n : Int) : Reads (Decimal.integer n) (.number n) := by
  intro stack rest hrest
  obtain ⟨c, digits, heq⟩ := List.exists_cons_of_ne_nil (Decimal.integer_ne_nil n)
  have hhead : c.isDigit = true ∨ c = '-' :=
    Decimal.isDigit_or_eq_minus_of_mem_integer (heq ▸ List.mem_cons_self)
  have hblank : isBlank c = false := by
    obtain hdigit | rfl := hhead
    · exact isBlank_of_isDigit hdigit
    · rfl
  have hread := Token.readNumber?_integer n hrest
  rw [heq, List.cons_append, ← Token.read?_of_head hhead] at hread
  rw [heq, List.cons_append]
  exact State.feed_token hblank hread (State.step_scalar _)

theorem reads_text (hs : ∀ c ∈ s, isPlain c = true) :
    Reads (['"'] ++ s ++ ['"']) (.text (String.ofList s)) := by
  intro stack rest _
  rw [List.append_assoc, List.append_assoc]
  exact State.feed_token rfl (Token.read?_text hs) (State.step_scalar _)

theorem reads_array {α : Type} {written : α → List Char} {value : α → Json} {items : List α}
    (hitems : ∀ a ∈ items, Reads (written a) (value a)) (spaces : Nat) :
    Reads (Output.array spaces (items.map written)) (.array (items.map value)) := by
  intro stack rest _
  by_cases hne : items = []
  · subst hne
    exact (State.feed_token rfl rfl State.step_openArray).trans (State.feed_token rfl rfl rfl)
  have hitem : ∀ a ∈ items, ∀ (before : List α) (rest : List Char), SetsOff rest →
      State.feed (.value (.array (before.map value) :: stack))
          (Output.newLine (spaces + 2) ++ written a ++ rest) =
        State.feed (.behind (value a) (.array (before.map value) :: stack)) rest := by
    intro a ha before rest hrest
    rw [List.append_assoc, State.feed_newLine]
    exact hitems a ha _ _ hrest
  have hclose : ∀ (a : α) (before : List α),
      State.feed (.behind (value a) (.array (before.map value) :: stack))
          (Output.newLine spaces ++ ']' :: rest) =
        State.feed (.behind (.array ((a :: before).map value).reverse) stack) rest := by
    intro a before
    exact (State.feed_newLine _ _).trans (State.feed_token rfl rfl rfl)
  calc
    State.feed (.value stack) (Output.array spaces (items.map written) ++ rest)
      = State.feed (.value stack) ('[' :: ([','].intercalate
          (items.map fun a => Output.newLine (spaces + 2) ++ written a) ++
            (Output.newLine spaces ++ ']' :: rest))) := by
        rw [Output.array_of_ne_nil (by simpa using hne), List.map_map]
        simp only [List.append_assoc]
        rfl
    _ = State.feed (.value (.array ([].map value) :: stack)) ([','].intercalate
          (items.map fun a => Output.newLine (spaces + 2) ++ written a) ++
            (Output.newLine spaces ++ ']' :: rest)) :=
        State.feed_token rfl rfl State.step_openArray
    _ = State.feed (.behind (.array ((items.reverse ++ []).map value).reverse) stack) rest :=
        State.feed_intercalate
          (fun items => State.feed (.behind (.array (items.map value).reverse) stack) rest)
          hitem (fun _ _ => rfl) (setsOff_newLine spaces) hclose hne []
    _ = State.feed (.behind (.array (items.map value)) stack) rest := by
        rw [List.append_nil, List.map_reverse, List.reverse_reverse]

/-- A field as it is written in a record: its name, and the text and the
value of what stands there. -/
structure Field where
  name : String
  written : List Char
  value : Json

/-- The name needs no escapes, and the text is read as the value. -/
structure Field.IsSound (f : Field) : Prop where
  name : ∀ c ∈ f.name.toList, isPlain c = true
  value : Reads f.written f.value

theorem Field.IsSound.feed {f : Field} (h : f.IsSound) (fields : List (String × Json))
    (stack : List Frame) (hrest : SetsOff rest) :
    State.feed (.name fields stack) (Output.field f.name f.written ++ rest) =
      State.feed (.behind f.value (.object fields f.name :: stack)) rest := by
  calc
    State.feed (.name fields stack) (Output.field f.name f.written ++ rest)
      = State.feed (.name fields stack) (Output.newLine 4 ++
          '"' :: (f.name.toList ++ '"' :: ':' :: ([' '] ++ (f.written ++ rest)))) := by
        simp only [Output.field, List.append_assoc]
        rfl
    _ = State.feed (.name fields stack)
          ('"' :: (f.name.toList ++ '"' :: ':' :: ([' '] ++ (f.written ++ rest)))) :=
        State.feed_newLine _ _
    _ = State.feed (.colon fields f.name stack) (':' :: ([' '] ++ (f.written ++ rest))) := by
        refine State.feed_token rfl (Token.read?_text h.name) ?_
        rw [String.ofList_toList]
        exact State.step_name
    _ = State.feed (.value (.object fields f.name :: stack)) ([' '] ++ (f.written ++ rest)) :=
        State.feed_token rfl rfl rfl
    _ = State.feed (.value (.object fields f.name :: stack)) (f.written ++ rest) :=
        State.feed_blanks (List.forall_mem_singleton.2 rfl) _
    _ = State.feed (.behind f.value (.object fields f.name :: stack)) rest :=
        h.value _ _ hrest

theorem reads_object {fields : List Field} (hfields : ∀ f ∈ fields, f.IsSound)
    (hne : fields ≠ []) (spaces : Nat) :
    Reads (['{'] ++ [','].intercalate (fields.map fun f => Output.field f.name f.written)
        ++ Output.newLine spaces ++ ['}'])
      (.object (fields.map fun f => (f.name, f.value))) := by
  intro stack rest _
  have hfield : ∀ f ∈ fields, ∀ (before : List Field) (rest : List Char), SetsOff rest →
      State.feed (.name (before.map fun f => (f.name, f.value)) stack)
          (Output.field f.name f.written ++ rest) =
        State.feed (.behind f.value
          (.object (before.map fun f => (f.name, f.value)) f.name :: stack)) rest :=
    fun f hf _ _ hrest => (hfields f hf).feed _ _ hrest
  have hclose : ∀ (f : Field) (before : List Field),
      State.feed (.behind f.value
            (.object (before.map fun f => (f.name, f.value)) f.name :: stack))
          (Output.newLine spaces ++ '}' :: rest) =
        State.feed (.behind (.object ((f :: before).map fun f => (f.name, f.value)).reverse) stack)
          rest := by
    intro f before
    exact (State.feed_newLine _ _).trans (State.feed_token rfl rfl rfl)
  calc
    State.feed (.value stack) (['{'] ++ [','].intercalate
          (fields.map fun f => Output.field f.name f.written)
        ++ Output.newLine spaces ++ ['}'] ++ rest)
      = State.feed (.value stack) ('{' :: ([','].intercalate
          (fields.map fun f => Output.field f.name f.written) ++
            (Output.newLine spaces ++ '}' :: rest))) := by
        simp only [List.append_assoc]
        rfl
    _ = State.feed (.name ([].map fun f : Field => (f.name, f.value)) stack) ([','].intercalate
          (fields.map fun f => Output.field f.name f.written) ++
            (Output.newLine spaces ++ '}' :: rest)) :=
        State.feed_token rfl rfl State.step_openObject
    _ = State.feed (.behind (.object
          ((fields.reverse ++ []).map fun f : Field => (f.name, f.value)).reverse) stack) rest :=
        State.feed_intercalate
          (fun fields => State.feed
            (.behind (.object (fields.map fun f => (f.name, f.value)).reverse) stack) rest)
          hfield (fun _ _ => rfl) (setsOff_newLine spaces) hclose hne []
    _ = State.feed (.behind (.object (fields.map fun f => (f.name, f.value))) stack) rest := by
        rw [List.append_nil, List.map_reverse, List.reverse_reverse]

/-! ## Records -/

theorem isPlain_of_mem_chars {e : Expression} (hc : c ∈ e.chars) : isPlain c = true := by
  obtain hdigit | hsign | hdie | rfl := Expression.mem_chars hc
  · exact isPlain_of_isDigit hdigit
  · obtain rfl | rfl := isSign_eq_true_iff.1 hsign <;> rfl
  · obtain rfl | rfl := isDie_eq_true_iff.1 hdie <;> rfl
  · rfl

/-- What is told of a roll: the text of the expression, the values and their
sum. -/
def ofRoll (expression : String) (r : Roll) : Json :=
  .object
    [("expression", .text expression), ("values", .array (r.values.map .number)),
      ("total", .number r.values.sum)]

theorem reads_record (r : Rolled) :
    Reads (Output.record r) (ofRoll (String.ofList r.expression.chars) r.roll) := by
  have hfields : ∀ f ∈ [⟨"expression", ['"'] ++ r.expression.chars ++ ['"'],
        .text (String.ofList r.expression.chars)⟩,
      ⟨"values", Output.array 4 (r.roll.values.map Decimal.integer),
        .array (r.roll.values.map .number)⟩,
      ⟨"total", Decimal.integer r.roll.total, .number r.roll.total⟩], Field.IsSound f := by
    have hexpression : ∀ c ∈ "expression".toList, isPlain c = true :=
      List.all_eq_true.1 (by decide)
    have hvalues : ∀ c ∈ "values".toList, isPlain c = true :=
      List.all_eq_true.1 (by decide)
    have htotal : ∀ c ∈ "total".toList, isPlain c = true :=
      List.all_eq_true.1 (by decide)
    rw [List.forall_mem_cons, List.forall_mem_cons, List.forall_mem_singleton]
    exact ⟨⟨hexpression, reads_text fun c hc => isPlain_of_mem_chars hc⟩,
      ⟨hvalues, reads_array (fun v _ => reads_number v) 4⟩, ⟨htotal, reads_number _⟩⟩
  rw [ofRoll, ← Roll.total_eq_sum]
  exact reads_object hfields (List.cons_ne_nil _ _) 2

end Json

/-- **Documents read back**: what is printed of rolls as a document is an
array of a record for each of them. -/
theorem Output.read?_document (rolled : List Rolled) :
    Json.read? (String.ofList (Output.document rolled)) = some (.array
      (rolled.map fun r => Json.ofRoll (String.ofList r.expression.chars) r.roll)) := by
  have hfeed : Json.State.feed (.value []) (Output.document rolled) =
      some (.behind (.array
        (rolled.map fun r => Json.ofRoll (String.ofList r.expression.chars) r.roll)) []) := by
    rw [Output.document, Json.reads_array (fun r _ => Json.reads_record r) 0 [] ['\n']
      (Json.setsOff_cons rfl)]
    exact (Json.State.feed_newLine _ 0).trans (Json.State.feed_nil _)
  rw [Json.read?, String.toList_ofList, hfeed]

end Dicebag
