import Dicebag.Environment.Progress

/-!
# Dicebag.Environment.Statements

The statements of a whole environment file.  Line ends of all kinds count
as line feeds, and a byte order mark at the start is no part of the text.
White space between statements is skipped; where one does not read, the
next starts behind the line on which the reading broke off.
-/

namespace Dicebag.EnvironmentFile

/-- Every line feed, carriage return, or pair of the two as one line
feed. -/
def unifyLines : List Char → List Char
  | [] => []
  | '\r' :: '\n' :: rest => '\n' :: unifyLines rest
  | c :: rest => (if c = '\r' then '\n' else c) :: unifyLines rest

/-- A text without the byte order mark it may start with. -/
def dropMark : List Char → List Char
  | [] => []
  | c :: rest => if c = '\ufeff' then rest else c :: rest

/-- The line of `whole` on which the remainder `text` of it starts. -/
def lineOf (whole text : List Char) : Nat := 1 + (whole.count '\n' - text.count '\n')

/-- The statements of the remainder `text` of `whole`. -/
def statementsFrom (whole text : List Char) : List Statement :=
  match _hblank : text.dropWhile Text.isBlank with
  | [] => []
  | c :: body =>
    match _hread : Statement.read (c :: body) with
    | .ok (statement, rest) => statement.toList ++ statementsFrom whole rest
    | .error broken =>
      .malformed (lineOf whole text) :: statementsFrom whole (Statement.skipLine broken)
termination_by text.length
decreasing_by
  all_goals
    have hle := (List.dropWhile_suffix Text.isBlank (l := text)).length_le
    rw [_hblank] at hle
    refine Nat.lt_of_lt_of_le ?_ hle
  · exact Statement.length_lt_of_read _hread
  · exact Statement.length_skipLine_lt_of_read (List.cons_ne_nil c body) _hread

/-- The statements of a file. -/
def statements (content : String) : List Statement :=
  let text := unifyLines (dropMark content.toList)
  statementsFrom text text

end Dicebag.EnvironmentFile
