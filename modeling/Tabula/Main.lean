import Tabula.CommandLine

/-! The program: reads the files, runs the command line, and prints. -/

namespace Tabula.CommandLine

/-- The bytes of a file, if it can be read. -/
def readFile? (path : String) : IO (Option ByteArray) := do
  try
    return some (← IO.FS.readBinFile path)
  catch _ =>
    return none

/-- The files that the arguments name, each with its bytes if it can be read. -/
def readFiles (a : Arguments) : IO (List (String × Option ByteArray)) :=
  (a.settings.toList ++ a.table.toList).mapM fun path => do
    return (path, ← readFile? path)

end Tabula.CommandLine

open Tabula.CommandLine in
/-- Runs the command line. -/
def main (args : List String) : IO UInt32 := do
  let files ←
    match Arguments.parse args with
    | .ok a => readFiles a
    | .error _ => pure []
  let report := run (fun path => (files.lookup path).join) args
  for document in report.printed do
    IO.println document.pretty
  match report.fault with
  | none => return 0
  | some fault =>
    IO.eprintln ("Error: " ++ fault.message)
    return 1
