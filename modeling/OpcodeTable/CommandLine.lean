import OpcodeTable.Text.Digit

/-!
# CommandLine — what the arguments ask for

Arguments are read from left to right, and the first that cannot stand, or that asks for help,
decides.
-/

namespace OpcodeTable

/-- **What a run is asked to do.** -/
structure Options where
  /-- the path of the official reference -/
  official : String
  /-- the path of the unofficial reference -/
  unofficial : String
  /-- where the generated table goes, if not to the output -/
  out : Option String := none
  /-- the path of a template file -/
  templates : Option String := none
  /-- the opcode whose record is asked for -/
  opcode : Option UInt8 := none
  /-- whether all records are asked for -/
  list : Bool := false
  /-- whether the log tells details -/
  verbose : Bool := false
  deriving DecidableEq, Repr

/-- **What the arguments ask for.** -/
inductive Invocation where
  | run (options : Options)
  | help
  | version
  /-- the arguments cannot be understood -/
  | misuse
  deriving DecidableEq, Repr

namespace CommandLine

/-! ## Options -/

/-- An option that takes a value. -/
inductive Setting where
  | out
  | templates
  | opcode
  deriving DecidableEq, Repr

/-- An option that takes none. -/
inductive Switch where
  | list
  | verbose
  | help
  | version
  deriving DecidableEq, Repr

/-- An option of either sort. -/
abbrev Choice := Setting ⊕ Switch

/-- The option of a long name. -/
def ofName? : String → Option Choice
  | "out" => some (.inl .out)
  | "templates" => some (.inl .templates)
  | "show" => some (.inl .opcode)
  | "list" => some (.inr .list)
  | "verbose" => some (.inr .verbose)
  | "help" => some (.inr .help)
  | "version" => some (.inr .version)
  | _ => none

/-- The option of a letter. -/
def ofLetter? : Char → Option Choice
  | 'o' => some (.inl .out)
  | 't' => some (.inl .templates)
  | 'l' => some (.inr .list)
  | 'v' => some (.inr .verbose)
  | 'h' => some (.inr .help)
  | 'V' => some (.inr .version)
  | _ => none

/-- **An opcode on the command line**: hexadecimal after a mark, else decimal. -/
def opcode? (text : String) : Option UInt8 :=
  match text.toList with
  | '0' :: 'x' :: digits => Text.byte? 16 digits
  | '0' :: 'X' :: digits => Text.byte? 16 digits
  | digits => Text.byte? 10 digits

/-! ## The arguments read so far -/

/-- **A command line being read.** -/
structure Draft where
  paths : List String := []
  out : Option String := none
  templates : Option String := none
  opcode : Option UInt8 := none
  list : Bool := false
  verbose : Bool := false
  deriving DecidableEq, Repr

/-- What an argument leads to: the next one, which may have to be the value of an option, or the end
of reading. -/
inductive Reaction where
  | next (draft : Draft) (awaiting : Option Setting)
  | stop (invocation : Invocation)
  deriving DecidableEq, Repr

namespace Draft

/-- A value for an option that has none yet. -/
def set (draft : Draft) (setting : Setting) (value : String) : Reaction :=
  match setting with
  | .out => if draft.out.isSome then .stop .misuse else .next { draft with out := some value } none
  | .templates =>
    if draft.templates.isSome then .stop .misuse
    else .next { draft with templates := some value } none
  | .opcode =>
    match draft.opcode, opcode? value with
    | none, some opcode => .next { draft with opcode := some opcode } none
    | _, _ => .stop .misuse

/-- An option without a value; none is given twice. -/
def turn (draft : Draft) (switch : Switch) : Reaction :=
  match switch with
  | .help => .stop .help
  | .version => .stop .version
  | .list => if draft.list then .stop .misuse else .next { draft with list := true } none
  | .verbose => if draft.verbose then .stop .misuse else .next { draft with verbose := true } none

/-- One path more; there are two. -/
def addPath (draft : Draft) (path : String) : Reaction :=
  if draft.paths.length < 2 then .next { draft with paths := draft.paths ++ [path] } none
  else .stop .misuse

/-- **An option by its long name**, with the value attached to it if there is one. -/
def long (draft : Draft) (name : String) (value : Option String) : Reaction :=
  match ofName? name, value with
  | some (.inl setting), some value => draft.set setting value
  | some (.inl setting), none => .next draft (some setting)
  | some (.inr switch), none => draft.turn switch
  | some (.inr _), some _ | none, _ => .stop .misuse

/-- **Options by their letters**: what follows the letter of an option with a value is that value,
after an equals sign or at once. -/
def letters (draft : Draft) : List Char → Reaction
  | [] => .next draft none
  | letter :: rest =>
    match ofLetter? letter with
    | some (.inl setting) =>
      match rest with
      | [] => .next draft (some setting)
      | '=' :: value => draft.set setting (String.ofList value)
      | value => draft.set setting (String.ofList value)
    | some (.inr switch) =>
      match draft.turn switch with
      | .next draft _ => draft.letters rest
      | stop => stop
    | none => .stop .misuse

/-- **One argument** before any double dash that stands alone. -/
def argument (draft : Draft) (text : String) : Reaction :=
  match text.toList with
  | '-' :: '-' :: option =>
    let name := option.takeWhile (· != '=')
    let value := (option.dropWhile (· != '=')).tail?
    draft.long (String.ofList name) (value.map String.ofList)
  | '-' :: letter :: letters => draft.letters (letter :: letters)
  | _ => draft.addPath text

/-- What a command line without further arguments asks for. -/
def finish (draft : Draft) : Invocation :=
  match draft.paths with
  | [official, unofficial] => .run {
      official, unofficial
      out := draft.out
      templates := draft.templates
      opcode := draft.opcode
      list := draft.list
      verbose := draft.verbose }
  | _ => .misuse

/-- The arguments after a double dash are paths, whatever they look like. -/
def pathsOnly (draft : Draft) : List String → Invocation
  | [] => draft.finish
  | path :: rest =>
    match draft.addPath path with
    | .next draft _ => draft.pathsOnly rest
    | .stop invocation => invocation

end Draft

/-- Whether an argument looks like an option, and so cannot be the value of one. -/
def isOption (text : String) : Bool := text.toList.head? == some '-' && text != "-"

/-- What one argument leads to, as the value that is awaited or on its own. -/
def Draft.react (draft : Draft) (awaiting : Option Setting) (text : String) : Reaction :=
  match awaiting with
  | some setting => if isOption text then .stop .misuse else draft.set setting text
  | none => draft.argument text

/-- The rest of the arguments; `awaiting` is the option whose value comes next. -/
def readFrom (draft : Draft) (awaiting : Option Setting) : List String → Invocation
  | [] => if awaiting.isSome then .misuse else draft.finish
  | text :: rest =>
    if awaiting.isNone && text == "--" then draft.pathsOnly rest
    else
      match draft.react awaiting text with
      | .next draft awaiting => readFrom draft awaiting rest
      | .stop invocation => invocation

/-- **What the arguments ask for.** -/
def read (arguments : List String) : Invocation := readFrom {} none arguments

/-- The text that help shows. -/
def usage : String :=
  "Usage: opcodetable [OPTIONS] <OFFICIAL> <UNOFFICIAL>\n\n"
    ++ "  -o, --out <FILE>        write the generated table to this file\n"
    ++ "  -t, --templates <FILE>  take the templates from this file\n"
    ++ "  -l, --list              print all records\n"
    ++ "      --show <OPCODE>     print the record of one opcode\n"
    ++ "  -v, --verbose           log details\n"
    ++ "  -h, --help              print this help\n"
    ++ "  -V, --version           print the version\n"

/-- The text that names the version. -/
def versionLine : String := "opcodetable 0.1.0\n"

end CommandLine

end OpcodeTable
