import Dicebag.Environment.File
import Dicebag.Text.Cut
import Dicebag.Text.Upper

/-!
# Dicebag.Environment.Load

Where the environment comes from.  Up to three files add to the process
environment: the nearest `.env` at or above the working directory, then
`.env.local` in the working directory, then `.env.test` there if a test
is running.  What is set already stays, so the process comes first and
the files in this order after it.  A file that holds what cannot be a
variable stops the loading there.
-/

namespace Dicebag

/-! ## Files -/

/-- A path from the root, by its parts. -/
abbrev Path := List String

namespace Path

/-- The path one part further: `..` goes back up, and at the root it
stays there; an empty part and `.` stay where they are. -/
def follow (path : Path) (part : List Char) : Path :=
  if part = [] ∨ part = ['.'] then path
  else if part = ['.', '.'] then path.dropLast
  else path ++ [String.ofList part]

/-- Follows the parts of a text, which slashes separate. -/
def followAll (path : Path) (text : List Char) : Path :=
  match _h : Text.cutFirst? (· == '/') text with
  | none => path.follow text
  | some (part, _, rest) => (path.follow part).followAll rest
termination_by text.length
decreasing_by
  have := (Text.cutFirst?_eq_some (by assumption)).1
  subst this
  simp only [List.length_append, List.length_cons]
  omega

/-- The path that a text means in a directory.  One that starts with a
slash starts from the root. -/
def resolve (directory : Path) (text : List Char) : Path :=
  if text.head? = some '/' then followAll [] text else directory.followAll text

end Path

/-- Files by their paths; of several contents of one path the first
counts. -/
structure Files where
  entries : List (Path × String) := []

namespace Files

/-- The content of a file. -/
def get? (files : Files) (path : Path) : Option String := files.entries.lookup path

/-- Writes a file. -/
def write (files : Files) (path : Path) (content : String) : Files :=
  ⟨(path, content) :: files.entries.filter fun entry => entry.1 != path⟩

/-- Removes a file. -/
def remove (files : Files) (path : Path) : Files :=
  ⟨files.entries.filter fun entry => entry.1 != path⟩

/-- The content of the nearest file of a name, in the directory `path` or
above it.  The parts of the path are given from its end. -/
def nearestFrom? (files : Files) (name : String) : Path → Option String
  | [] => files.get? [name]
  | part :: above =>
    match files.get? (above.reverse ++ [part, name]) with
    | some content => some content
    | none => nearestFrom? files name above

/-- The content of the nearest file of a name, in a directory or above
it. -/
def nearest? (files : Files) (name : String) (directory : Path) : Option String :=
  files.nearestFrom? name directory.reverse

end Files

/-! ## Loading -/

/-- What surrounds a run of the program. -/
structure Workspace where
  files : Files := {}
  directory : Path := []
  environment : Environment := {}

namespace Workspace

/-- The variable that switches the loading of files off. -/
def switch : String := "PYTHON_DOTENV_DISABLED"

/-- The variable that is set while a test is running. -/
def testVariable : String := "PYTEST_CURRENT_TEST"

/-- The words that switch the loading of files off, in upper case. -/
def switchWords : List (List Char) := ["1", "TRUE", "T", "YES", "Y"].map String.toList

/-- Whether the loading of files is switched off, in whatever case the
word for that is. -/
def isSwitchedOff (env : Environment) : Bool :=
  match env.get? switch with
  | none => false
  | some value => switchWords.contains (Text.upper value.toList)

/-- Whether a test is running. -/
def isTesting (env : Environment) : Bool := (env.get? testVariable).getD "" != ""

/-- Loads a file, if there is one, on top of what has been loaded.
Nothing more is loaded once a loading has stopped. -/
def loadFile [Library] (content : Option String) (loaded : Loading) : Loading :=
  match content, loaded.refusal with
  | some content, none =>
    if isSwitchedOff loaded.environment then loaded
    else
      let more := EnvironmentFile.load loaded.environment content
      { more with warnings := loaded.warnings ++ more.warnings }
  | _, _ => loaded

/-- What loading the files comes to. -/
def load [Library] (w : Workspace) : Loading :=
  let loaded := loadFile (w.files.nearest? ".env" w.directory) { environment := w.environment }
  let loaded := loadFile (w.files.get? (w.directory ++ [".env.local"])) loaded
  if isTesting loaded.environment then
    loadFile (w.files.get? (w.directory ++ [".env.test"])) loaded
  else loaded

end Workspace

end Dicebag
