import OpcodeTable.Build
import OpcodeTable.CommandLine
import OpcodeTable.FileStore
import OpcodeTable.Template

/-!
# Run — one run of the program

A run reads the references, prints what it is asked for and at the very end creates at most one
file.
-/

namespace OpcodeTable

namespace Options

/-- The path of a reference. -/
def path (options : Options) : Source → String
  | .official => options.official
  | .unofficial => options.unofficial

/-- The text of a reference. -/
def fetch (options : Options) (disk : Disk) (source : Source) : Traced String := do
  let path := options.path source
  Traced.notify (.reading source path)
  match disk.readText path with
  | .ok text => return text
  | .error error => Traced.fail (.unreadable path error) (source.name ++ " reference")

/-- The templates of the file that is asked for, or the defaults. -/
def loadTemplates (options : Options) (disk : Disk) : Traced Templates :=
  match options.templates with
  | none => return .default
  | some path =>
    match disk.readText path with
    | .error error => Traced.fail (.file error)
    | .ok text => do
      Traced.notify (.templates path)
      Traced.ofExcept none (Templates.ofText text)

/-- Print the records that are asked for. -/
def inspect (options : Options) (set : InstructionSet) : Traced Unit := do
  if options.list then
    Traced.print set.listing
  match options.opcode with
  | none => return ()
  | some opcode =>
    match set.byOpcode opcode with
    | some record => Traced.print (record.line ++ "\n")
    | none => Traced.fail (.absentOpcode opcode)

/-- Whether the generated table itself is printed: no file and no record is asked for. -/
def printsTable (options : Options) : Bool :=
  options.out.isNone && !options.list && options.opcode.isNone

end Options

/-- **A file to be created**, with its text. -/
structure Creation where
  path : String
  text : String
  deriving DecidableEq, Repr

/-- **All a run does** short of creating its file: the file comes last and is the result. -/
def Options.scrape (options : Options) (disk : Disk) : Traced (Option Creation) := do
  let set ← InstructionSet.build (options.fetch disk)
  options.inspect set
  let templates ← options.loadTemplates disk
  match options.out with
  | some path =>
    match disk.refusal path with
    | some error => Traced.fail (.file error)
    | none =>
      Traced.notify (.written path)
      return some ⟨path, templates.render set⟩
  | none =>
    if options.printsTable then
      Traced.print (templates.render set)
    return none

/-! ## What a run leaves behind -/

/-- **The outcome of a run**: exit code, output and log, and the file it creates. -/
structure Outcome where
  exitCode : UInt8
  stdout : String := ""
  stderr : String := ""
  creation : Option Creation := none
  deriving DecidableEq, Repr

/-- The log of notices; details are left out unless asked for. -/
def logOf (verbose : Bool) (notices : List Notice) : String :=
  String.join ((notices.filter fun notice => verbose || notice.level != .detail).map
    fun notice => notice.line ++ "\n")

/-- What the log says about a fault, in full and then on one line. -/
def Fault.log (fault : Fault) : String :=
  fault.report.display ++ "\nError: " ++ fault.report.summary ++ "\n"

/-- **The outcome of a run** with the given options. -/
def Options.outcome (options : Options) (disk : Disk) : Outcome :=
  let traced := options.scrape disk
  let log := logOf options.verbose traced.notices
  match traced.outcome with
  | .ok creation => ⟨0, traced.printed, log, creation⟩
  | .error fault => ⟨1, traced.printed, log ++ fault.log, none⟩

/-- **The outcome of a command line.** -/
def Invocation.outcome (invocation : Invocation) (disk : Disk) : Outcome :=
  match invocation with
  | .run options => options.outcome disk
  | .help => { exitCode := 0, stdout := CommandLine.usage }
  | .version => { exitCode := 0, stdout := CommandLine.versionLine }
  | .misuse => { exitCode := 2, stderr := CommandLine.usage }

/-- The files once the file of a run is created, if there is one. -/
def FileSystem.created (system : FileSystem) : Option Creation → FileSystem
  | some creation => system.write creation.path creation.text
  | none => system

/-- **The files after a run** in a directory of their own. -/
def Outcome.filesAfter (outcome : Outcome) (store : FileStore) : FileStore :=
  (store.mounted.created outcome.creation).below

end OpcodeTable
