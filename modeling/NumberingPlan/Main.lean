import NumberingPlan.Outcome
import NumberingPlan.Standard

/-! The program: reads the files that a command names, runs it, and prints what it comes to. -/

namespace NumberingPlan

open scoped Standard

/-- What the system says when it does not give a file. -/
def systemFault : IO.Error → ReadFault
  | .noFileOrDirectory .. => .missing
  | .inappropriateType _ code _ => if code.toNat = 20 then .notDirectory else .isDirectory
  | .permissionDenied .. => ⟨13, "Permission denied"⟩
  | .otherError code details => ⟨code.toNat, details⟩
  | _ => ⟨5, "Input/output error"⟩

def readPath (path : Path) : IO (Path × Except ReadFault (List UInt8)) := do
  try
    let bytes ← IO.FS.readBinFile path.text
    return (path, .ok bytes.toList)
  catch fault => return (path, .error (systemFault fault))

/-- Reads the files of a command and runs it on what they hold. -/
def runInSystem (words : List String) : IO Outcome := do
  let working := Path.ofText (← IO.currentDir).toString
  let command := CommandReader.read words
  let paths := match command with
    | .ok command => command.paths working
    | .error _ => []
  let found ← paths.mapM readPath
  let read : FileReader := fun path => (found.lookup path).getD (.error .missing)
  return Command.runRead { working, read } command

end NumberingPlan

def main (words : List String) : IO UInt32 := do
  let outcome ← NumberingPlan.runInSystem words
  IO.print outcome.output
  for note in outcome.notes do
    IO.eprintln note
  return UInt32.ofNat outcome.exitCode
