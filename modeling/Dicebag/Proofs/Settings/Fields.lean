import Dicebag.Logging.Logger
import Dicebag.Proofs.Environment.Precedence
import Dicebag.Proofs.Settings.Numerals

/-!
# Dicebag.Proofs.Settings.Fields

Settings are read field by field.  `Field.Says` is what the text of a variable
says once the blanks around it are gone, `Gives` adds the default of a variable
that says nothing, and an environment gives settings exactly if it gives every
field of them.  Which texts say a truth value or a number is up to the library;
`Field.says_standard_iff` tells it of the one that runs are on.

* `readTrance_eq_ok_iff`, `readSeed_eq_ok_iff`, `readLevel_eq_ok_iff` — what is read
  from a text, for each field;
* `isRead_iff_gives` — one field;
* `ofEnvironment_eq_ok_iff`, `ofEnvironment_eq_error_iff` — all of them;
* `ofEnvironment_field_by_field` — what becomes of an environment.
-/

namespace Dicebag

/-! ## Texts -/

namespace Value

/-- The words for a truth value, in lower case. -/
def words (b : Bool) : List (List Char) := if b then trueWords else falseWords

theorem readTruthText_eq_ok_iff {text : List Char} {b : Bool} :
    readTruthText text = .ok b ↔ text.map Char.toLower ∈ words b := by
  have hdisjoint : ∀ word ∈ trueWords, word ∉ falseWords := by decide
  unfold readTruthText
  by_cases htrue : text.map Char.toLower ∈ trueWords
  · cases b <;> simp [words, htrue, hdisjoint _ htrue]
  · by_cases hfalse : text.map Char.toLower ∈ falseWords
    · cases b <;> simp [words, htrue, hfalse]
    · cases b <;> simp [words, htrue, hfalse]

theorem readNumberText_eq_ok_iff {text : List Char} {m : Int} :
    readNumberText text = .ok m ↔ Numeral.Spells text m := by
  rw [← Numeral.read_eq_ok_iff_spells, readNumberText]
  cases Numeral.read text <;> simp [Except.mapError]

end Value

/-- The canonical names are accepted where the level is set. -/
theorem Level.set_name (level : Level) : Logging.set (.name level.name) = .ok ⟨level.rank⟩ := by
  have hupper : Text.upper level.name.toList = level.name.toList := by cases level <;> decide
  simp only [Logging.set, hupper, rankOfName?_name]

namespace Settings

variable {env : Environment} {field : Field} {s t : Settings}

/-! ## Fields of an environment -/

/-- The fields, in their order. -/
def Field.all : List Field := [.trance, .seed, .level]

theorem Field.mem_all (field : Field) : field ∈ all := by cases field <;> decide

/-- The variable of a field is absent or blank. -/
def IsUnset (env : Environment) (field : Field) : Prop :=
  ∀ text, env.get? field.variable = some text → ∀ c ∈ text.toList, Text.isBlank c = true

theorem variableValue_eq_none_iff : variableValue env field = none ↔ IsUnset env field := by
  rw [variableValue_eq, Option.bind_eq_none_iff]
  refine forall₂_congr fun text _ => ?_
  rw [given?, Text.strip, ite_eq_left_iff]
  simp [Text.trim_eq_nil_iff]

theorem variableValue_of_not_isUnset {text : String} (h : ¬ IsUnset env field)
    (htext : env.get? field.variable = some text) :
    variableValue env field = some (.text (Text.strip text.toList)) := by
  have hgiven : variableValue env field = given? text := by rw [variableValue_eq, htext]; rfl
  rw [← variableValue_eq_none_iff, hgiven, given?, ite_eq_left_iff] at h
  rw [hgiven, given?, if_neg]
  simpa using h

theorem exists_text_of_not_isUnset (h : ¬ IsUnset env field) :
    ∃ text, env.get? field.variable = some text := by
  cases hget : env.get? field.variable with
  | none => exact absurd (by simp [IsUnset, hget]) h
  | some text => exact ⟨text, rfl⟩

/-- An environment without the variables of the other fields. -/
def onlyFor (env : Environment) (field : Field) : Environment :=
  (Field.all.filter (· ≠ field)).foldl (fun env other => env.unset other.variable) env

theorem get?_onlyFor (env : Environment) (field other : Field) :
    (onlyFor env field).get? other.variable =
      if other = field then env.get? other.variable else none := by
  cases field <;> cases other <;> simp [onlyFor, Field.all, Field.variable]

/-- An environment has the variables of another for the fields, with blanks
around their texts, and whatever else. -/
def Pads (other env : Environment) : Prop :=
  ∀ field : Field, ∃ before after, (∀ c ∈ before, Text.isBlank c = true) ∧
    (∀ c ∈ after, Text.isBlank c = true) ∧
      other.get? field.variable = (env.get? field.variable).map fun text =>
        String.ofList (before ++ text.toList ++ after)

/-! ## Issues -/

theorem complain_eq_ok_iff {α : Type} {value : Value} {result : Except Complaint α} {a : α} :
    complain field value result = .ok a ↔ result = .ok a := by
  cases result <;> simp [complain, Except.mapError]

theorem issuesOf_eq_nil_iff {α : Type} {result : Except Issue α} :
    issuesOf result = [] ↔ ∃ a, result = .ok a := by
  cases result <;> simp [issuesOf]

/-- A field has one issue at most, and that is an issue of this field. -/
theorem issuesOf_complain {α : Type} (default : α) (reader : Value → Except Issue α)
    (value : Option Value)
    (h : ∀ value issue, reader value = .error issue → issue.field = field) :
    issuesOf (readOr default reader value) = [] ∨
      ∃ issue, issue.field = field ∧ issuesOf (readOr default reader value) = [issue] := by
  cases value with
  | none => exact .inl rfl
  | some value =>
    cases hread : reader value with
    | ok a => exact .inl (by simp [readOr, hread, issuesOf])
    | error issue => exact .inr ⟨issue, h value issue hread, by simp [readOr, hread, issuesOf]⟩

theorem field_of_complain {α : Type} {value : Value} {result : Except Complaint α} {issue : Issue}
    (h : complain field value result = .error issue) : issue.field = field := by
  cases result with
  | ok a => cases h
  | error complaint =>
    cases h
    rfl

section

variable [Library]

/-! ## What fields say -/

/-- A text without blanks around it says the value that a field has.  What a truth
value and a number are said with is up to the library. -/
def Field.Says : Field → List Char → Settings → Prop
  | .trance, text, s => Library.truth text = .ok s.trance
  | .seed, text, s => ∃ n, Library.number text = .ok n ∧ s.seed = some n
  | .level, text, s => Text.upper text = s.level.name.toList

/-- The variable of a field says something that is a value for that field. -/
def IsValid (env : Environment) (field : Field) : Prop :=
  ∃ text s, env.get? field.variable = some text ∧ field.Says (Text.strip text.toList) s

/-- The value that settings have for a field is the one that an environment
gives: what the variable says, or the default. -/
def Gives (env : Environment) (field : Field) (s : Settings) : Prop :=
  IsUnset env field ∧ AgreesAt field s {} ∨
    ¬ IsUnset env field ∧
      ∃ text, env.get? field.variable = some text ∧ field.Says (Text.strip text.toList) s

theorem Field.Says.congr {text : List Char} (h : AgreesAt field s t) (hsaid : field.Says text s) :
    field.Says text t := by
  cases field with
  | trance =>
    have htrance : s.trance = t.trance := h
    simpa [Field.Says, htrance] using hsaid
  | seed =>
    have hseed : s.seed = t.seed := h
    simpa [Field.Says, hseed] using hsaid
  | level =>
    have hlevel : s.level = t.level := h
    simpa [Field.Says, hlevel] using hsaid

theorem Gives.congr (h : AgreesAt field s t) (hgives : Gives env field s) : Gives env field t := by
  obtain ⟨hunset, hdefault⟩ | ⟨hset, text, htext, hsaid⟩ := hgives
  · have hagrees : AgreesAt field t {} := by
      cases field <;> exact Eq.trans (Eq.symm h) hdefault
    exact .inl ⟨hunset, hagrees⟩
  · exact .inr ⟨hset, text, htext, hsaid.congr h⟩

/-! ## One field -/

/-- What is read for a field is the value that settings have for it. -/
def IsRead (env : Environment) : Field → Settings → Prop
  | .trance, s => readOr false readTrance (variableValue env .trance) = .ok s.trance
  | .seed, s => readOr none readSeed (variableValue env .seed) = .ok s.seed
  | .level, s => readOr .warning readLevel (variableValue env .level) = .ok s.level

theorem readTrance_eq_ok_iff {text : List Char} :
    readTrance (.text text) = .ok s.trance ↔ Field.trance.Says text s := by
  rw [readTrance, complain_eq_ok_iff]
  rfl

theorem readSeed_eq_ok_iff {text : List Char} :
    readSeed (.text text) = .ok s.seed ↔ Field.seed.Says text s := by
  rw [readSeed, complain_eq_ok_iff, Field.Says, Value.readNumber]
  cases Library.number text <;> simp [Except.map, eq_comm]

theorem readLevel_eq_ok_iff {text : List Char} :
    readLevel (.text (Text.strip text)) = .ok s.level ↔ Field.level.Says (Text.strip text) s := by
  rw [readLevel, complain_eq_ok_iff, normalLevel, levelOf, Text.strip_strip, Field.Says,
    ← Level.ofName?_eq_some_iff]
  cases Level.ofName? (Text.upper (Text.strip text)) <;> simp

theorem isRead_iff_gives : IsRead env field s ↔ Gives env field s := by
  by_cases hunset : IsUnset env field
  · have hvalue := variableValue_eq_none_iff.2 hunset
    have hgives : Gives env field s ↔ AgreesAt field s {} := by simp [Gives, hunset]
    rw [hgives]
    cases field <;> simp only [IsRead, hvalue, readOr, Except.ok.injEq] <;> exact eq_comm
  · obtain ⟨text, htext⟩ := exists_text_of_not_isUnset hunset
    have hvalue := variableValue_of_not_isUnset hunset htext
    cases field with
    | trance => simp [IsRead, Gives, hunset, hvalue, htext, readOr, readTrance_eq_ok_iff]
    | seed => simp [IsRead, Gives, hunset, hvalue, htext, readOr, readSeed_eq_ok_iff]
    | level => simp [IsRead, Gives, hunset, hvalue, htext, readOr, readLevel_eq_ok_iff]

theorem exists_gives_iff : (∃ s, Gives env field s) ↔ IsUnset env field ∨ IsValid env field := by
  constructor
  · rintro ⟨s, ⟨hunset, _⟩ | ⟨_, text, htext, hsaid⟩⟩
    · exact .inl hunset
    · exact .inr ⟨text, s, htext, hsaid⟩
  · intro h
    by_cases hunset : IsUnset env field
    · exact ⟨{}, .inl ⟨hunset, by cases field <;> rfl⟩⟩
    · obtain ⟨text, s, htext, hsaid⟩ := h.resolve_left hunset
      exact ⟨s, .inr ⟨hunset, text, htext, hsaid⟩⟩

/-- What is wrong with the variable of a field. -/
def issuesAt (env : Environment) : Field → List Issue
  | .trance => issuesOf (readOr false readTrance (variableValue env .trance))
  | .seed => issuesOf (readOr none readSeed (variableValue env .seed))
  | .level => issuesOf (readOr .warning readLevel (variableValue env .level))

theorem issuesAt_eq_nil_iff : issuesAt env field = [] ↔ ∃ s, Gives env field s := by
  simp only [← isRead_iff_gives]
  cases field with
  | trance =>
    rw [issuesAt, issuesOf_eq_nil_iff]
    exact ⟨fun ⟨trance, h⟩ => ⟨{ trance := trance }, h⟩, fun ⟨s, h⟩ => ⟨s.trance, h⟩⟩
  | seed =>
    rw [issuesAt, issuesOf_eq_nil_iff]
    exact ⟨fun ⟨seed, h⟩ => ⟨{ seed := seed }, h⟩, fun ⟨s, h⟩ => ⟨s.seed, h⟩⟩
  | level =>
    rw [issuesAt, issuesOf_eq_nil_iff]
    exact ⟨fun ⟨level, h⟩ => ⟨{ level := level }, h⟩, fun ⟨s, h⟩ => ⟨s.level, h⟩⟩

theorem issuesAt_eq_nil_or (env : Environment) (field : Field) :
    issuesAt env field = [] ∨ ∃ issue, issue.field = field ∧ issuesAt env field = [issue] := by
  cases field with
  | trance => exact issuesOf_complain _ _ _ fun _ _ h => field_of_complain h
  | seed => exact issuesOf_complain _ _ _ fun _ _ h => field_of_complain h
  | level => exact issuesOf_complain _ _ _ fun _ _ h => field_of_complain h

/-! ## All fields -/

theorem ofEnvironment_eq_ok_iff : ofEnvironment env = .ok s ↔ ∀ field, Gives env field s := by
  simp only [← isRead_iff_gives]
  constructor
  · intro h field
    unfold ofEnvironment ofValues at h
    split at h
    · next htrance hseed hlevel =>
      obtain rfl := Except.ok.inj h
      cases field with
      | trance => exact htrance
      | seed => exact hseed
      | level => exact hlevel
    · cases h
  · intro h
    have htrance := h .trance
    have hseed := h .seed
    have hlevel := h .level
    simp only [IsRead] at htrance hseed hlevel
    simp [ofEnvironment, ofValues, htrance, hseed, hlevel]

theorem ofEnvironment_eq_error_iff {issues : List Issue} :
    ofEnvironment env = .error issues ↔
      issues = Field.all.flatMap (issuesAt env) ∧ issues ≠ [] := by
  have hall : Field.all.flatMap (issuesAt env) =
      issuesOf (readOr false readTrance (variableValue env .trance)) ++
        issuesOf (readOr none readSeed (variableValue env .seed)) ++
          issuesOf (readOr .warning readLevel (variableValue env .level)) := by
    simp [Field.all, issuesAt]
  rw [hall]
  unfold ofEnvironment ofValues
  split
  · next htrance hseed hlevel => simp [htrance, hseed, hlevel, issuesOf]
  · next hsome =>
    constructor
    · intro h
      obtain rfl := Except.error.inj h
      refine ⟨rfl, fun hnil => ?_⟩
      rw [List.append_eq_nil_iff, List.append_eq_nil_iff, issuesOf_eq_nil_iff, issuesOf_eq_nil_iff,
        issuesOf_eq_nil_iff] at hnil
      obtain ⟨⟨⟨trance, htrance⟩, seed, hseed⟩, level, hlevel⟩ := hnil
      exact hsome trance seed level htrance hseed hlevel
    · rintro ⟨rfl, _⟩
      rfl

theorem map_field_issuesAt_sublist (env : Environment) (field : Field) :
    ((issuesAt env field).map Issue.field).Sublist [field] := by
  obtain hnone | ⟨issue, hfield, hissue⟩ := issuesAt_eq_nil_or env field
  · simp [hnone]
  · simp [hissue, hfield]

theorem map_field_flatMap_sublist (env : Environment) (fields : List Field) :
    ((fields.flatMap (issuesAt env)).map Issue.field).Sublist fields := by
  induction fields with
  | nil => exact List.Sublist.refl _
  | cons field fields ih =>
    rw [List.flatMap_cons, List.map_append]
    exact (map_field_issuesAt_sublist env field).append ih

theorem mem_map_field_iff :
    field ∈ (Field.all.flatMap (issuesAt env)).map Issue.field ↔ issuesAt env field ≠ [] := by
  constructor
  · intro h hnone
    obtain ⟨issue, hissue, rfl⟩ := List.mem_map.1 h
    obtain ⟨other, _, hother⟩ := List.mem_flatMap.1 hissue
    obtain hnil | ⟨only, hfield, honly⟩ := issuesAt_eq_nil_or env other
    · simp [hnil] at hother
    · obtain rfl : issue = only := by simpa [honly] using hother
      simp [hfield, honly] at hnone
  · intro h
    obtain ⟨issue, hfield, hissue⟩ := (issuesAt_eq_nil_or env field).resolve_left h
    have hmem : issue ∈ issuesAt env field := by simp [hissue]
    exact List.mem_map.2 ⟨issue, List.mem_flatMap.2 ⟨field, field.mem_all, hmem⟩, hfield⟩

/-! ## Other environments -/

theorem issuesAt_congr {other : Environment}
    (h : variableValue other field = variableValue env field) :
    issuesAt other field = issuesAt env field := by
  cases field <;> simp only [issuesAt, h]

/-- Without the variables of the other fields nothing else is wrong. -/
theorem issuesAt_onlyFor (env : Environment) (field other : Field) :
    issuesAt (onlyFor env field) other = if other = field then issuesAt env other else [] := by
  by_cases h : other = field
  · rw [if_pos h]
    exact issuesAt_congr (by rw [variableValue_eq, variableValue_eq, get?_onlyFor, if_pos h])
  · rw [if_neg h, issuesAt_eq_nil_iff, exists_gives_iff]
    exact .inl fun text htext => by simp [get?_onlyFor, h] at htext

theorem ofEnvironment_onlyFor {issue : Issue}
    (h : issue ∈ Field.all.flatMap (issuesAt env)) :
    ofEnvironment (onlyFor env issue.field) = .error [issue] := by
  obtain ⟨field, _, hissue⟩ := List.mem_flatMap.1 h
  obtain hnil | ⟨only, hfield, honly⟩ := issuesAt_eq_nil_or env field
  · simp [hnil] at hissue
  · obtain rfl : issue = only := by simpa [honly] using hissue
    rw [ofEnvironment_eq_error_iff, hfield]
    refine ⟨?_, List.cons_ne_nil _ _⟩
    cases field <;> simp [Field.all, issuesAt_onlyFor, honly]

theorem ofEnvironment_of_pads {other : Environment} (h : Pads other env) :
    ofEnvironment other = ofEnvironment env := by
  have hvalue : ∀ field, variableValue other field = variableValue env field := by
    intro field
    obtain ⟨before, after, hbefore, hafter, hget⟩ := h field
    rw [variableValue_eq, variableValue_eq, hget]
    cases env.get? field.variable with
    | none => rfl
    | some text =>
      have hstrip : Text.strip (String.ofList (before ++ text.toList ++ after)).toList =
          Text.strip text.toList := by
        rw [String.toList_ofList]
        exact Text.trim_append hbefore text.toList hafter
      rw [Option.map_some, Option.bind_some, Option.bind_some, given?, given?, hstrip]
  simp only [ofEnvironment, hvalue]

/-- **Validation**, field by field.  An environment gives settings exactly if
every field is unset or has a valid text, and then each field has its default
or the value that is said.  Otherwise the fields that are neither have one issue
each, in the order of the fields, and each of them is the only one if the other
fields are unset.  Other variables, and blanks around the texts, make no
difference. -/
theorem ofEnvironment_field_by_field (env : Environment) :
    ((∃ s, ofEnvironment env = .ok s) ↔ ∀ field, IsUnset env field ∨ IsValid env field) ∧
      (∀ s, ofEnvironment env = .ok s ↔ ∀ field, Gives env field s) ∧
      (∀ s, ofEnvironment env = .ok s →
        s.level.name ∈ ["DEBUG", "INFO", "WARNING", "ERROR", "CRITICAL"] ∧
          Logging.set (.name s.level.name) = .ok ⟨s.level.rank⟩) ∧
      (∀ issues, ofEnvironment env = .error issues →
        (issues.map Issue.field).Sublist [.trance, .seed, .level] ∧
          (∀ field, field ∈ issues.map Issue.field ↔
            ¬ (IsUnset env field ∨ IsValid env field)) ∧
          ∀ issue ∈ issues, ofEnvironment (onlyFor env issue.field) = .error [issue]) ∧
      ∀ other, Pads other env → ofEnvironment other = ofEnvironment env := by
  refine ⟨?_, fun s => ofEnvironment_eq_ok_iff, ?_, ?_, fun other => ofEnvironment_of_pads⟩
  · simp only [ofEnvironment_eq_ok_iff, ← exists_gives_iff]
    constructor
    · rintro ⟨s, h⟩ field
      exact ⟨s, h field⟩
    · intro h
      obtain ⟨st, htrance⟩ := h .trance
      obtain ⟨ss, hseed⟩ := h .seed
      obtain ⟨sl, hlevel⟩ := h .level
      refine ⟨⟨st.trance, ss.seed, sl.level⟩, fun field => ?_⟩
      cases field with
      | trance => exact htrance.congr rfl
      | seed => exact hseed.congr rfl
      | level => exact hlevel.congr rfl
  · intro s _
    have hname : s.level.name ∈ ["DEBUG", "INFO", "WARNING", "ERROR", "CRITICAL"] := by
      cases s.level <;> decide
    exact ⟨hname, s.level.set_name⟩
  · intro issues h
    obtain ⟨rfl, _⟩ := ofEnvironment_eq_error_iff.1 h
    refine ⟨map_field_flatMap_sublist env Field.all, fun field => ?_,
      fun issue => ofEnvironment_onlyFor⟩
    rw [mem_map_field_iff, ← exists_gives_iff, Ne, issuesAt_eq_nil_iff]

end

/-- What is said with words and numerals. -/
theorem Field.says_standard_iff {text : List Char} :
    (Field.trance.Says text s ↔ text.map Char.toLower ∈ Value.words s.trance) ∧
      (Field.seed.Says text s ↔ ∃ n, Numeral.Spells text n ∧ s.seed = some n) :=
  ⟨Value.readTruthText_eq_ok_iff, exists_congr fun _ =>
    and_congr_left fun _ => Value.readNumberText_eq_ok_iff⟩

example :
    ofEnvironment ⟨[("LEGEND_SEED", " 0x1 "), ("LEGEND_TRANCE", "on"), ("LEGEND_LOG_LEVEL", "ß")]⟩ =
      .error [⟨.seed, .numberUnclear, some "0x1"⟩, ⟨.level, .noLevel, some "SS"⟩] := by decide

end Settings

end Dicebag
