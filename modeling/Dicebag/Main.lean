import Dicebag.CommandLine.Run

/-!
# Dicebag.Main

The command line program: collects what surrounds the run, and prints
what the run comes to.
-/

namespace Dicebag

/-- The environment of the process, a list of `name=value` with a null
character behind each. -/
def readEnvironment : IO Environment := do
  let bytes ← try IO.FS.readBinFile "/proc/self/environ" catch _ => pure ByteArray.empty
  let text := (String.fromUTF8? bytes).getD ""
  let entries := (text.splitOn "\x00").filterMap fun entry =>
    (Text.cutFirst? (· == '=') entry.toList).map fun (name, _, value) =>
      (String.ofList name, String.ofList value)
  pure ⟨entries⟩

/-- The content of a file, if it can be read. -/
def readFile? (path : Path) : IO (Option String) := do
  try
    pure (some (← IO.FS.readFile ("/" ++ "/".intercalate path)))
  catch _ => pure none

/-- The files in a directory and above it that a run may load. -/
def readFiles (directory : Path) : IO Files := do
  let mut files : Files := {}
  for depth in List.range (directory.length + 1) do
    for name in [".env", ".env.local", ".env.test"] do
      let path := directory.take depth ++ [name]
      if let some content ← readFile? path then
        files := files.write path content
  pure files

/-- A seed that nobody chose. -/
def readEntropy : IO Int := do
  let bytes ← IO.getRandomBytes 16
  pure (bytes.foldl (fun n byte => 256 * n + byte.toNat) 0 : Nat)

/-- What is complained about arguments or settings. -/
def complaint : Outcome → String
  | .usageError => "usage: dicebag [OPTIONS] EXPRESSION...\n"
  | .badSettings issues _ =>
    issues.foldl (fun text issue =>
        text ++ issue.field.variable ++ ": " ++ issue.complaint.message ++ "\n")
      "ERR: bad LEGEND_* setting\n"
  | outcome => outcome.stderr

end Dicebag

open Dicebag in
/-- Runs the program. -/
def main (arguments : List String) : IO UInt32 := do
  let directory := Path.resolve [] (← IO.currentDir).toString.toList
  let environment ← readEnvironment
  let files ← readFiles directory
  let entropy ← readEntropy
  let outcome := Invocation.run ⟨arguments, ⟨files, directory, environment⟩, entropy⟩
  for r in outcome.log do
    IO.eprintln r.line
  IO.eprint (complaint outcome)
  IO.print outcome.stdout
  pure (UInt32.ofNat outcome.exitCode)
