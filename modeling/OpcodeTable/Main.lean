import OpcodeTable.Run

/-!
# Main — the program

Files are read beforehand, one outcome follows from them, and its output, log and file are then
written.
-/

open OpcodeTable

/-- The reason an input or output error gives. -/
def fileErrorOf (error : IO.Error) : FileError :=
  match error with
  | .noFileOrDirectory .. => .missing
  | .inappropriateType .. => .directory
  | _ => .other (toString error)

/-- What the file at a path holds. -/
def readPath (path : String) : IO (String × Except FileError ByteArray) := do
  try
    return (path, .ok (← IO.FS.readBinFile path))
  catch error =>
    return (path, .error (fileErrorOf error))

/-- The paths that a command line reads. -/
def pathsRead : Invocation → List String
  | .run options => [options.official, options.unofficial] ++ options.templates.toList
  | _ => []

/-- What the files answer that have been read, where no file is refused but for the given reason. -/
def diskOf (files : List (String × Except FileError ByteArray)) (refusal : Option FileError) :
    Disk where
  read path := ((files.find? (·.1 == path)).map (·.2)).getD (.error .missing)
  refusal _ := refusal

/-- Create a file; the reason is given where that fails. -/
def create (creation : Creation) : IO (Option FileError) := do
  try
    IO.FS.writeFile creation.path creation.text
    return none
  catch error =>
    return some (fileErrorOf error)

/-- Run the program. -/
def main (arguments : List String) : IO UInt32 := do
  let invocation := CommandLine.read arguments
  let files ← (pathsRead invocation).mapM readPath
  let planned := invocation.outcome (diskOf files none)
  let refusal ← match planned.creation with
    | some creation => create creation
    | none => pure none
  let outcome := if refusal.isSome then invocation.outcome (diskOf files refusal) else planned
  IO.print outcome.stdout
  IO.eprint outcome.stderr
  return outcome.exitCode.toUInt32
