import Dicebag.Library
import Dicebag.Text.Cut

/-!
# Dicebag.CommandLine.Arguments

The arguments of a run: expressions, and between, before or after them
the options

```
--trance --no-trance --seed N --seed=N --json --verbose -v
```

A lone `--` ends the options.  Where an option is repeated the last
counts, and what number its text says is up to the library.  Anything else
that starts with a minus sign and is longer than that is refused, as is a
run without expressions.
-/

namespace Dicebag

/-- What the arguments ask for. -/
structure Arguments where
  /-- The expressions, as they were written. -/
  expressions : List String
  /-- Trance, if it is switched on or off. -/
  trance : Option Bool
  /-- The seed, if one is given. -/
  seed : Option Int
  json : Bool
  verbose : Bool
  deriving DecidableEq

namespace Arguments

/-! ## Single arguments -/

/-- What an argument looks like. -/
inductive Shape where
  | expression
  /-- The end of the options. -/
  | terminator
  /-- An option by its name, with the value behind its equals sign. -/
  | named (name : List Char) (value : Option (List Char))
  /-- Options of one letter each. -/
  | letters (letters : List Char)

/-- The shape of an argument. -/
def Shape.ofChars : List Char → Shape
  | ['-', '-'] => .terminator
  | '-' :: '-' :: option =>
    match Text.cutFirst? (· == '=') option with
    | some (name, _, value) => .named name (some value)
    | none => .named option none
  | '-' :: c :: rest => .letters (c :: rest)
  | _ => .expression

/-! ## All arguments -/

/-- What has been read of the arguments; expressions stand with the
newest first, and the seed is not yet a number. -/
structure Draft where
  expressions : List String := []
  trance : Option Bool := none
  seed : Option (List Char) := none
  json : Bool := false
  verbose : Bool := false

/-- A draft with an option that takes no value, if there is such an
option. -/
def Draft.switch? (draft : Draft) (name : List Char) : Option Draft :=
  if name = "trance".toList then some { draft with trance := some true }
  else if name = "no-trance".toList then some { draft with trance := some false }
  else if name = "json".toList then some { draft with json := true }
  else if name = "verbose".toList then some { draft with verbose := true }
  else none

/-- Reads the arguments from the front. -/
def readFrom (draft : Draft) : List String → Option Draft
  | [] => some draft
  | argument :: rest =>
    match Shape.ofChars argument.toList with
    | .expression => readFrom { draft with expressions := argument :: draft.expressions } rest
    | .terminator => some { draft with expressions := rest.reverse ++ draft.expressions }
    | .letters letters =>
      if letters.all (· == 'v') then readFrom { draft with verbose := true } rest else none
    | .named name (some value) =>
      if name = "seed".toList then readFrom { draft with seed := some value } rest else none
    | .named name none =>
      if name = "seed".toList then
        match rest with
        | [] => none
        | value :: rest => readFrom { draft with seed := some value.toList } rest
      else
        match draft.switch? name with
        | some draft => readFrom draft rest
        | none => none

/-- The arguments that a draft amounts to, if its seed is a number and
there is an expression. -/
def ofDraft [Library] (draft : Draft) : Option Arguments :=
  if draft.expressions = [] then none
  else
    match draft.seed with
    | none => some ⟨draft.expressions.reverse, draft.trance, none, draft.json, draft.verbose⟩
    | some text =>
      match Library.option? text with
      | none => none
      | some seed =>
        some ⟨draft.expressions.reverse, draft.trance, some seed, draft.json, draft.verbose⟩

/-- What arguments ask for; nothing if they are refused. -/
def parse? [Library] (arguments : List String) : Option Arguments :=
  (readFrom {} arguments).bind ofDraft

theorem expressions_ne_nil_of_parse? [Library] {arguments : List String} {a : Arguments}
    (h : parse? arguments = some a) : a.expressions ≠ [] := by
  obtain ⟨draft, _, hdraft⟩ := Option.bind_eq_some_iff.1 h
  unfold ofDraft at hdraft
  split at hdraft
  · cases hdraft
  · split at hdraft
    · cases hdraft; simpa
    · split at hdraft
      · cases hdraft
      · cases hdraft; simpa

end Arguments

end Dicebag
