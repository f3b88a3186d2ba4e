import Dicebag.Decimal

/-!
# Dicebag.Json

Documents in JSON and how they are read, as far as their numbers are whole
and their texts hold no escapes; other documents are refused.

A text is taken apart into tokens, and each of them leads from one state of
the reading to the next.  A state holds the arrays and objects that are
still open, the innermost first, and says what has to follow: a value, the
name of a field, the colon behind it, or what goes on or closes behind a
value.  A text is a document if its last token leaves a value and nothing
open.
-/

namespace Dicebag

/-- A document, or a part of one. -/
inductive Json where
  | null
  | bool (b : Bool)
  | number (n : Int)
  | text (s : String)
  | array (items : List Json)
  /-- Fields and their values, in order. -/
  | object (fields : List (String × Json))

namespace Json

/-! ## Tokens -/

/-- What a document is written with. -/
inductive Token where
  | openArray
  | closeArray
  | openObject
  | closeObject
  | comma
  | colon
  /-- A value without parts. -/
  | scalar (v : Json)

/-- White space between tokens. -/
def isBlank (c : Char) : Bool := c == ' ' || c == '\t' || c == '\n' || c == '\r'

/-- The characters that stand for themselves in a text. -/
def isPlain (c : Char) : Bool := c != '"' && c != '\\' && 0x20 ≤ c.toNat

namespace Token

/-- The text in front of a quote, and what stands behind the quote. -/
def readText? (text : List Char) : Option (Token × List Char) :=
  match text.dropWhile isPlain with
  | '"' :: rest => some (.scalar (.text (String.ofList (text.takeWhile isPlain))), rest)
  | _ => none

/-- The run of digits that a text starts with.  There are no zeros in front
of other digits. -/
def readDigits? (text : List Char) : Option (Nat × List Char) :=
  match text.takeWhile Char.isDigit with
  | [] => none
  | '0' :: _ :: _ => none
  | digits => some (Nat.ofDigitChars 10 digits 0, text.dropWhile Char.isDigit)

/-- The whole number that a text starts with. -/
def readNumber? (text : List Char) : Option (Token × List Char) :=
  match text with
  | '-' :: digits => (readDigits? digits).map fun (n, rest) => (.scalar (.number (-n)), rest)
  | _ => (readDigits? text).map fun (n, rest) => (.scalar (.number n), rest)

/-- The token that a text starts with, no white space before it, and the
text behind it. -/
def read? (text : List Char) : Option (Token × List Char) :=
  match text with
  | '[' :: rest => some (.openArray, rest)
  | ']' :: rest => some (.closeArray, rest)
  | '{' :: rest => some (.openObject, rest)
  | '}' :: rest => some (.closeObject, rest)
  | ',' :: rest => some (.comma, rest)
  | ':' :: rest => some (.colon, rest)
  | '"' :: rest => readText? rest
  | 'n' :: 'u' :: 'l' :: 'l' :: rest => some (.scalar .null, rest)
  | 't' :: 'r' :: 'u' :: 'e' :: rest => some (.scalar (.bool true), rest)
  | 'f' :: 'a' :: 'l' :: 's' :: 'e' :: rest => some (.scalar (.bool false), rest)
  | _ => readNumber? text

theorem length_le_of_readText? {text rest : List Char} {token : Token}
    (h : readText? text = some (token, rest)) : rest.length ≤ text.length := by
  have hle := (List.dropWhile_suffix isPlain (l := text)).length_le
  unfold readText? at h
  split at h
  · next heq =>
    cases h
    rw [heq, List.length_cons] at hle
    omega
  · cases h

theorem length_lt_of_readDigits? {text rest : List Char} {n : Nat}
    (h : readDigits? text = some (n, rest)) : rest.length < text.length := by
  have hsplit := congrArg List.length
    (List.takeWhile_append_dropWhile (p := Char.isDigit) (l := text))
  rw [List.length_append] at hsplit
  unfold readDigits? at h
  split at h
  · cases h
  · cases h
  · next hne _ =>
    have hpos := List.length_pos_iff.2 hne
    cases h
    omega

theorem length_lt_of_readNumber? {text rest : List Char} {token : Token}
    (h : readNumber? text = some (token, rest)) : rest.length < text.length := by
  unfold readNumber? at h
  split at h
  · obtain ⟨⟨n, _⟩, hdigits, heq⟩ := Option.map_eq_some_iff.1 h
    cases heq
    exact Nat.lt_succ_of_lt (length_lt_of_readDigits? hdigits)
  · obtain ⟨⟨n, _⟩, hdigits, heq⟩ := Option.map_eq_some_iff.1 h
    cases heq
    exact length_lt_of_readDigits? hdigits

theorem length_lt_of_read? {text rest : List Char} {token : Token}
    (h : read? text = some (token, rest)) : rest.length < text.length := by
  unfold read? at h
  split at h
  case h_7 => exact Nat.lt_succ_of_le (length_le_of_readText? h)
  case h_11 => exact length_lt_of_readNumber? h
  all_goals
    cases h
    simp only [List.length_cons]
    omega

end Token

/-! ## Reading -/

/-- An array or an object that is still open, with what has been read of it,
the newest first. -/
inductive Frame where
  | array (items : List Json)
  /-- The value of the field `name` is being read. -/
  | object (fields : List (String × Json)) (name : String)

/-- A state of the reading. -/
inductive State where
  /-- A value has to follow; if an array has just been opened, it can be
  closed too. -/
  | value (stack : List Frame)
  /-- The name of a field has to follow; if the object has just been opened,
  it can be closed too. -/
  | name (fields : List (String × Json)) (stack : List Frame)
  /-- The colon behind a name has to follow. -/
  | colon (fields : List (String × Json)) (name : String) (stack : List Frame)
  /-- A value has been read. -/
  | behind (v : Json) (stack : List Frame)

namespace State

/-- The state behind the first token of a value. -/
def start (stack : List Frame) : Token → Option State
  | .scalar v => some (.behind v stack)
  | .openArray => some (.value (.array [] :: stack))
  | .openObject => some (.name [] stack)
  | _ => none

/-- The state behind a token, if the token can follow. -/
def step : State → Token → Option State
  | .value (.array [] :: stack), .closeArray => some (.behind (.array []) stack)
  | .value stack, token => start stack token
  | .name [] stack, .closeObject => some (.behind (.object []) stack)
  | .name fields stack, .scalar (.text s) => some (.colon fields s stack)
  | .colon fields field stack, .colon => some (.value (.object fields field :: stack))
  | .behind v (.array items :: stack), .comma => some (.value (.array (v :: items) :: stack))
  | .behind v (.array items :: stack), .closeArray =>
    some (.behind (.array (v :: items).reverse) stack)
  | .behind v (.object fields field :: stack), .comma =>
    some (.name ((field, v) :: fields) stack)
  | .behind v (.object fields field :: stack), .closeObject =>
    some (.behind (.object ((field, v) :: fields).reverse) stack)
  | _, _ => none

/-- The state behind a text, if each of its tokens can follow. -/
def feed (state : State) (text : List Char) : Option State :=
  match _hblank : text.dropWhile isBlank with
  | [] => some state
  | c :: body =>
    match _hread : Token.read? (c :: body) with
    | none => none
    | some (token, rest) =>
      match state.step token with
      | none => none
      | some next => next.feed rest
termination_by text.length
decreasing_by
  have hle := (List.dropWhile_suffix isBlank (l := text)).length_le
  rw [_hblank] at hle
  exact Nat.lt_of_lt_of_le (Token.length_lt_of_read? _hread) hle

theorem feed_eq (state : State) (text : List Char) :
    state.feed text =
      match text.dropWhile isBlank with
      | [] => some state
      | c :: body =>
        (Token.read? (c :: body)).bind fun (token, rest) =>
          (state.step token).bind fun next => next.feed rest := by
  rw [feed]
  split
  · next hblank => rw [hblank]
  · next hblank =>
    rw [hblank]
    split
    · next hread => simp only [hread, Option.bind_none]
    · next hread =>
      simp only [hread, Option.bind_some]
      split
      · next hstep => rw [hstep, Option.bind_none]
      · next hstep => rw [hstep, Option.bind_some]

end State

/-- The document that a text is. -/
def read? (text : String) : Option Json :=
  match State.feed (.value []) text.toList with
  | some (.behind v []) => some v
  | _ => none

end Json

end Dicebag
