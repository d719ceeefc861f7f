import OpcodeTable.Run

/-!
# Session — a run as it happens

`Options.scrape` takes the answers of the files as given and leaves its own file for the end.  Here
the same run goes on among its files: each file is read when its turn comes, a notice is logged as
soon as it is given, and the output file is empty from its creation on and grows line by line.
-/

namespace OpcodeTable

/-- **What a run works on**: the files, and what stands on the output and in the log so far. -/
structure World where
  files : FileSystem
  stdout : String := ""
  stderr : String := ""

/-- **What the operating system refuses** for reasons of its own, whatever files there are: to read
from a path, or to create or replace a file there. -/
structure Refusals where
  toRead : String → Option FileError := fun _ => none
  toCreate : String → Option FileError := fun _ => none

namespace Refusals

/-- The content of the file a path leads to, unless it is refused. -/
def read (refusals : Refusals) (files : FileSystem) (path : String) : Except FileError ByteArray :=
  match refusals.toRead path with
  | some error => .error error
  | none => files.read path

/-- The names of the file that a path creates or replaces, unless it is refused. -/
def target (refusals : Refusals) (files : FileSystem) (path : String) :
    Except FileError (List String) :=
  match refusals.toCreate path with
  | some error => .error error
  | none => files.target path

/-- What is answered about the files. -/
def disk (refusals : Refusals) (files : FileSystem) : Disk where
  read := refusals.read files
  refusal path :=
    match refusals.target files path with
    | .ok _ => none
    | .error error => some error

end Refusals

/-- **A part of a run**: it changes the world, and ends with a value or a fault. -/
abbrev Session := ExceptT Fault (StateM World)

namespace Session

variable {α : Type}

/-- **What a part of a run leads to** from a world. -/
def exec (session : Session α) (world : World) : Except Fault α × World := session.run.run world

/-- Say something in the log; a detail only on request. -/
def say (verbose : Bool) (notice : Notice) : Session Unit :=
  if verbose || notice.level != .detail then
    modify fun world => { world with stderr := world.stderr ++ (notice.line ++ "\n") }
  else pure ()

/-- Print a text. -/
def print (text : String) : Session Unit :=
  modify fun world => { world with stdout := world.stdout ++ text }

/-- A computation that leaves the files alone: it speaks, prints, and has its outcome. -/
def replay (verbose : Bool) (traced : Traced α) : Session α := do
  traced.notices.forM (say verbose)
  print traced.printed
  match traced.outcome with
  | .ok value => return value
  | .error fault => throw fault

/-- A computation on what is answered about the files at this point. -/
def consult (refusals : Refusals) (verbose : Bool) (query : Disk → Traced α) : Session α := do
  replay verbose (query (refusals.disk (← get).files))

/-- **A file is created**, and emptied if there is one: from here on it is known by its names. -/
def create (refusals : Refusals) (path : String) : Session (List String) := do
  match refusals.target (← get).files path with
  | .error error => throw ⟨.file error, none⟩
  | .ok names =>
    modify fun world => { world with files := world.files.insert names .empty }
    return names

/-- A text is written behind what a file holds. -/
def append (names : List String) (text : String) : Session Unit :=
  modify fun world =>
    let content := (world.files.find? names).getD .empty
    { world with files := world.files.insert names (content ++ text.toUTF8) }

/-- The generated table goes out line by line. -/
def emit (write : String → Session Unit) (templates : Templates) (set : InstructionSet) :
    Session Unit :=
  (templates.parts set).forM fun part => write (part ++ "\n")

end Session

namespace Options

open Session

/-- **A run** with the given options, step by step. -/
def perform (options : Options) (refusals : Refusals) : Session Unit := do
  let verbose := options.verbose
  let official ← consult refusals verbose fun disk => Source.official.load (options.fetch disk)
  let unofficial ← consult refusals verbose fun disk => Source.unofficial.load (options.fetch disk)
  let set ← replay verbose (InstructionSet.ofRows (official ++ unofficial))
  say verbose (.totals set.records.length set.dispatch.length)
  replay verbose (options.inspect set)
  let templates ← consult refusals verbose options.loadTemplates
  match options.out with
  | some path =>
    let names ← create refusals path
    emit (append names) templates set
    say verbose (.written path)
  | none =>
    if options.printsTable then
      emit print templates set

/-- **What a run leaves behind**: its exit code, and the world with the report of a fault. -/
def live (options : Options) (refusals : Refusals) (files : FileSystem) : UInt8 × World :=
  match (options.perform refusals).exec { files } with
  | (.ok (), world) => (0, world)
  | (.error fault, world) => (1, { world with stderr := world.stderr ++ fault.log })

end Options

end OpcodeTable
