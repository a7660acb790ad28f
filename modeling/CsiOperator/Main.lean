import CsiOperator.Program

/-! The command line of the operator. -/

open CsiOperator

/-- Why the system could not read a file. -/
def fileFault : IO.Error → File.Fault
  -- The two kinds of wrong places are told apart by their numbers.
  | .noFileOrDirectory _ _ _ => .missing
  | .inappropriateType _ 21 _ => .folder
  | .inappropriateType _ 20 _ => .notFolder
  | .noSuchThing _ _ _ => .missing
  | e => .other (toString e)

/-- Reads a file. -/
def readFile (path : String) : IO (Except File.Fault (List UInt8)) := do
  -- Whatever goes wrong while reading is an outcome, and does not end the program.
  try
    return .ok (← IO.FS.readBinFile path).toList
  catch e => return .error (fileFault e)

/-- The variables of the environment that give settings. -/
def readEnvironment : IO (String → Option String) := do
  -- Every variable is read before anything is parsed.
  let values ← CommandLine.Setting.all.mapM fun s => do
    return (s.variableName, ← IO.getEnv s.variableName)
  return fun name => (values.lookup name).join

/-- Runs the program. -/
def main (arguments : List String) : IO UInt32 := do
  -- Where a document has a fault, the kind of the fault is all that is told.
  let _ : Decode.Wording := .brief
  let outcome ← Program.run readFile (← readEnvironment) arguments
  (← IO.getStdout).putStr outcome.output
  (← IO.getStderr).putStr outcome.complaint
  return UInt32.ofNat outcome.exitCode
