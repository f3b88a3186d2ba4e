import Dicebag.Text.Blank

/-!
# Dicebag.Environment.Statement

The statements of an environment file.  A statement takes a line, or more
if it holds quoted text with line feeds in it:

```
NAME=value              # a comment
export NAME = value
'a name' = 'quoted, with \' and \\'
NAME = "quoted, with \n and other escapes"
NAME
```

The last of these has a name and no value.  A statement that does not
read is skipped up to the end of the line on which the reading broke off,
and its own line is reported.

Reading is done from the front of the remaining text, and each reader
gives what remains behind what it read.  A reader that breaks off gives
what remains at that place.
-/

namespace Dicebag

/-- What a statement of an environment file comes to. -/
inductive Statement where
  /-- The name is given a value, or is only mentioned. -/
  | binding (name : List Char) (value : Option (List Char))
  /-- A statement that starts on this line does not read. -/
  | malformed (line : Nat)
  deriving DecidableEq

namespace Statement

/-! ## White space, comments, ends of lines -/

/-- White space within a line. -/
def isInlineBlank (c : Char) : Bool := Text.isBlank c && c != '\n'

/-- The text behind its leading white space within the line. -/
def skipBlanks (text : List Char) : List Char := text.dropWhile isInlineBlank

/-- The rest of the line is skipped, its end included. -/
def skipLine (text : List Char) : List Char := (text.dropWhile (· != '\n')).drop 1

/-- A comment, with white space before it, is skipped up to the end of
the line. -/
def skipComment (text : List Char) : List Char :=
  match skipBlanks text with
  | '#' :: rest => rest.dropWhile (· != '\n')
  | _ => text

/-- The end of a line or of the text, with white space before it. -/
def readLineEnd (text : List Char) : Except (List Char) (List Char) :=
  match skipBlanks text with
  | [] => .ok []
  | '\n' :: rest => .ok rest
  | _ => .error text

/-- The word `export` is skipped if white space follows it. -/
def skipExport (text : List Char) : List Char :=
  match text with
  | 'e' :: 'x' :: 'p' :: 'o' :: 'r' :: 't' :: c :: rest =>
    if isInlineBlank c then skipBlanks rest else text
  | _ => text

/-! ## Names -/

/-- The characters of a name without quotes. -/
def isNameChar (c : Char) : Bool := c != '=' && c != '#' && !Text.isBlank c

/-- A name: the text between two apostrophes, or a run of characters. -/
def readName (text : List Char) : Except (List Char) (List Char × List Char) :=
  match text with
  | '\'' :: quoted =>
    match quoted.takeWhile (· != '\''), quoted.dropWhile (· != '\'') with
    | c :: name, _ :: rest => .ok (c :: name, rest)
    | _, _ => .error text
  | _ =>
    match text.takeWhile isNameChar with
    | [] => .error text
    | name => .ok (name, text.dropWhile isNameChar)

/-! ## Values -/

/-- The text up to a closing quote, behind which it goes on.  A backslash
protects the character after it, whichever that is, so a quote behind two
of them closes the text; what protects and what is protected stay. -/
def readQuoted? (mark : Char) : List Char → Option (List Char × List Char)
  | [] => none
  | ['\\'] => none
  | '\\' :: c :: rest =>
    (readQuoted? mark rest).map fun (quoted, rest) => ('\\' :: c :: quoted, rest)
  | c :: rest =>
    if c = mark then some ([], rest)
    else (readQuoted? mark rest).map fun (quoted, rest) => (c :: quoted, rest)

/-- What a backslash and a character stand for in quotes of either
kind. -/
def escaped? (mark c : Char) : Option Char :=
  if c = '\\' then some '\\'
  else if c = '\'' then some '\''
  else if mark = '\'' then none
  else if c = '"' then some '"'
  else if c = 'a' then some '\x07'
  else if c = 'b' then some '\x08'
  else if c = 'f' then some '\x0c'
  else if c = 'n' then some '\n'
  else if c = 'r' then some '\r'
  else if c = 't' then some '\t'
  else if c = 'v' then some '\x0b'
  else none

/-- Quoted text with its escapes replaced by what they stand for; other
backslashes stay. -/
def unescape (mark : Char) : List Char → List Char
  | [] => []
  | '\\' :: c :: rest =>
    match escaped? mark c with
    | some d => d :: unescape mark rest
    | none => '\\' :: unescape mark (c :: rest)
  | c :: rest => c :: unescape mark rest

/-- A value without quotes, up to a comment that white space sets off. -/
def cutComment (line : List Char) : List Char :=
  match line with
  | [] => []
  | c :: rest =>
    if Text.isBlank c && (line.dropWhile Text.isBlank).head? == some '#' then []
    else c :: cutComment rest

/-- A value: quoted text, nothing at the end of the line, or else the
rest of the line without comment and white space at its end. -/
def readValue (text : List Char) : Except (List Char) (List Char × List Char) :=
  match text with
  | [] => .ok ([], text)
  | c :: rest =>
    if c = '\n' then .ok ([], text)
    else if c = '\'' ∨ c = '"' then
      match readQuoted? c rest with
      | some (quoted, rest) => .ok (unescape c quoted, rest)
      | none => .error text
    else
      .ok (Text.stripEnd (cutComment (text.takeWhile (· != '\n'))),
        text.dropWhile (· != '\n'))

/-- What stands behind a name: an equals sign and a value, or nothing.
Behind white space a number sign starts a comment, not a value. -/
def readAssigned (text : List Char) : Except (List Char) (Option (List Char) × List Char) :=
  match text with
  | '=' :: behind =>
    let rest := skipBlanks behind
    if behind.head?.any isInlineBlank && rest.head? == some '#' then .ok (some [], rest)
    else (readValue rest).map fun (value, rest) => (some value, rest)
  | _ => .ok (none, text)

/-! ## Statements -/

/-- A name and what stands behind it, up to the end of the line. -/
def readBinding (text : List Char) : Except (List Char) (Statement × List Char) := do
  let (name, rest) ← readName text
  let (value, rest) ← readAssigned (skipBlanks rest)
  let rest ← readLineEnd (skipComment rest)
  pure (.binding name value, rest)

/-- The statement that a text starts with, no white space before it: its
end, and what it comes to unless it is a comment. -/
def read (text : List Char) : Except (List Char) (Option Statement × List Char) :=
  match skipExport text with
  | '#' :: rest => .ok (none, skipLine rest)
  | body => (readBinding body).map fun (statement, rest) => (some statement, rest)

end Statement

end Dicebag
