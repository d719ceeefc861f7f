import OpcodeTable.Fault

/-!
# FileStore — files by path

A run sees the files through a `Disk`, which answers what a path holds and whether a file can be
created there.  The answers follow from a `FileSystem`: all files by their names from the root, and
the directory a run works in.  A `FileStore` alone is what a run has in a directory of its own.
-/

namespace OpcodeTable

/-- **What the file system answers.** -/
structure Disk where
  /-- the content of the file at a path -/
  read : String → Except FileError ByteArray
  /-- why no file can be created or replaced at a path, if so -/
  refusal : String → Option FileError

/-- The content of a file that is text. -/
def Disk.readText (disk : Disk) (path : String) : Except FileError String :=
  match disk.read path with
  | .error error => .error error
  | .ok bytes =>
    match String.fromUTF8? bytes with
    | some text => .ok text
    | none => .error .notText

/-! ## Files by their names -/

/-- **Files by the names on the way to them**, each once. -/
structure FileStore where
  files : List (List String × ByteArray)

namespace FileStore

/-- The content of a file. -/
def find? (store : FileStore) (names : List String) : Option ByteArray :=
  (store.files.find? (·.1 == names)).map (·.2)

/-- The store with a file added or replaced. -/
def insert (store : FileStore) (names : List String) (content : ByteArray) : FileStore :=
  if store.files.any (·.1 == names) then
    ⟨store.files.map fun file => if file.1 == names then (names, content) else file⟩
  else ⟨store.files ++ [(names, content)]⟩

end FileStore

/-- **A file system**: the files by their names from the root, and the directory a run works in.  A
directory exists where a file is below it, and on the way to the working directory. -/
structure FileSystem extends FileStore where
  workingDirectory : List String

namespace FileSystem

/-- Whether the names are on the way to the working directory, or some file is below them. -/
def isDirectory (system : FileSystem) (names : List String) : Bool :=
  names.isPrefixOf system.workingDirectory || system.files.any fun file =>
    names.isPrefixOf file.1 && names.length != file.1.length

/-- The file system with a file added or replaced. -/
def insert (system : FileSystem) (names : List String) (content : ByteArray) : FileSystem :=
  { system with toFileStore := system.toFileStore.insert names content }

/-! ## Paths -/

/-- **Where a path leads.** -/
inductive Spot where
  | directory (names : List String)
  | file (names : List String) (content : ByteArray)
  /-- nothing yet, in a directory that exists -/
  | vacant (names : List String)

/-- The longest name a file may have, in bytes. -/
def longestName : Nat := 255

/-- The longest path the operating system takes, in bytes. -/
def longestPath : Nat := 4095

/-- What stands at the names. -/
def spotAt (system : FileSystem) (names : List String) : Spot :=
  match system.find? names with
  | some content => .file names content
  | none => if system.isDirectory names then .directory names else .vacant names

/-- One step of a path: an empty name and a dot stay, two dots go up unless they are at the root, and
any other name goes down from a directory only. -/
def step (system : FileSystem) (spot : Spot) (name : String) : Except FileError Spot :=
  match spot with
  | .file _ _ => .error .notDirectory
  | .vacant _ => .error .missing
  | .directory names =>
    if name = "" ∨ name = "." then .ok spot
    else if name = ".." then .ok (.directory names.dropLast)
    else if longestName < name.utf8ByteSize then .error .nameTooLong
    else .ok (system.spotAt (names ++ [name]))

/-- The names a path is made of; where a slash has no name before or after it, an empty one. -/
def namesOf (path : String) : Except FileError (List String) :=
  if path.isEmpty then .error .missing
  else if longestPath < path.utf8ByteSize then .error .nameTooLong
  else .ok ((path.toList.splitOn '/').map String.ofList)

/-- **Where names lead**, from the working directory or, if the first is empty, from the root. -/
def follow (system : FileSystem) (names : List String) : Except FileError Spot :=
  let start := if names.head? = some "" then [] else system.workingDirectory
  names.foldlM system.step (.directory start)

/-- The content of the file a path leads to. -/
def read (system : FileSystem) (path : String) : Except FileError ByteArray :=
  match namesOf path with
  | .error error => .error error
  | .ok names =>
    match system.follow names with
    | .error error => .error error
    | .ok (.file _ content) => .ok content
    | .ok (.directory _) => .error .directory
    | .ok (.vacant _) => .error .missing

/-- The names on the way to the last one that is not empty. -/
def holder (names : List String) : List String :=
  ((names.reverse.dropWhile (· == "")).drop 1).reverse

/-- **The names of the file that a path creates or replaces.**  A slash at the end asks for a
directory, which no file can be: its name is not even looked at, only the way to it. -/
def target (system : FileSystem) (path : String) : Except FileError (List String) :=
  match namesOf path with
  | .error error => .error error
  | .ok names =>
    let asksDirectory := names.getLast? = some ""
    match system.follow (if asksDirectory then holder names ++ ["."] else names) with
    | .error error => .error error
    | .ok (.directory _) => .error .directory
    | .ok (.file names _) | .ok (.vacant names) => .ok names

/-- What the file system answers about its files. -/
def disk (system : FileSystem) : Disk where
  read := system.read
  refusal path :=
    match system.target path with
    | .ok _ => none
    | .error error => some error

/-- The file system after a file has been created or replaced; a path that is refused changes
nothing. -/
def write (system : FileSystem) (path text : String) : FileSystem :=
  match system.target path with
  | .ok names => system.insert names text.toUTF8
  | .error _ => system

/-- The files below the working directory, by their names from there. -/
def below (system : FileSystem) : FileStore where
  files := system.files.filterMap fun (names, content) =>
    if system.workingDirectory.isPrefixOf names then
      some (names.drop system.workingDirectory.length, content)
    else none

end FileSystem

/-! ## A directory of its own -/

namespace FileStore

/-- **The files in a directory of their own**, in which a run works and beside which there is
nothing. -/
def mounted (store : FileStore) : FileSystem where
  files := store.files.map fun (names, content) => ("work" :: names, content)
  workingDirectory := ["work"]

/-- What a run in this directory is answered. -/
def disk (store : FileStore) : Disk := store.mounted.disk

@[simp] theorem below_mounted (store : FileStore) : store.mounted.below = store := by
  rw [FileSystem.below, mounted, List.filterMap_map, Function.comp_def]
  simp

end FileStore

end OpcodeTable
