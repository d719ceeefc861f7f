import OpcodeTable.InstructionSet
import OpcodeTable.Text.Line
import OpcodeTable.Text.Substitute

/-!
# Template — the text around a generated table

A generated table is a header, a line for each record, a middle part, an arm for each handler and a
footer.  A template file gives some of the five texts and leaves the rest at their defaults.
-/

namespace OpcodeTable

/-- **The templates** of a generated table. -/
structure Templates where
  header : String
  record : String
  middle : String
  dispatch : String
  footer : String
  deriving DecidableEq, Repr

namespace Templates

/-! ## The defaults -/

/-- Opens the list of opcodes. -/
def defaultHeader : String :=
  "use crate::cpu::AddressingMode;\n"
    ++ "use crate::cpu::OpCode;\n"
    ++ "use crate::cpu::CPU;\n"
    ++ "\n"
    ++ "lazy_static! \x7b\n"
    ++ "pub static ref CPU_OPS_CODES: Vec<OpCode> = vec!["

/-- One opcode of the list. -/
def defaultRecord : String :=
  "    OpCode::new(\x7bcode\x7d, \"\x7bname\x7d\", \x7bbytes\x7d, \x7bcycles\x7d, "
    ++ "AddressingMode::\x7bmode\x7d),"

/-- Closes the list and opens the choice of a handler. -/
def defaultMiddle : String :=
  "];\n"
    ++ "\x7d\n"
    ++ "\n"
    ++ "pub fn call(cpu: &mut CPU, op: &OpCode) \x7b\n"
    ++ "    match op.name.replace(\"*\", \"\").as_str() \x7b"

/-- One arm of the choice. -/
def defaultDispatch : String :=
  "        \"\x7bcanonical\x7d\" => \x7b\n"
    ++ "            cpu.\x7bhandler\x7d(&op.addressing_mode);\n"
    ++ "            cpu.program_counter += op.bytes - 1;\n"
    ++ "        \x7d"

/-- Closes the choice. -/
def defaultFooter : String :=
  "        _ => unimplemented!(\"\x7b\x7d\", op.name),\n"
    ++ "    \x7d\n"
    ++ "\x7d"

/-- **The default templates**. -/
def default : Templates :=
  ⟨defaultHeader, defaultRecord, defaultMiddle, defaultDispatch, defaultFooter⟩

instance : Inhabited Templates := ⟨default⟩

/-! ## Template files -/

/-- **A section** of a template file: its name as read, and the lines below it. -/
structure Section where
  name : String
  body : List (List Char)
  deriving DecidableEq, Repr

/-- The name on the line that starts a section, in lower case and without blanks around it. -/
def sectionName? : List Char → Option String
  | '%' :: '%' :: name => some (String.ofList (Text.trim name)).toLower
  | _ => none

/-- The sections of lines, and the lines above the first of them. -/
def split : List (List Char) → List (List Char) × List Section
  | [] => ([], [])
  | line :: rest =>
    let (above, sections) := split rest
    match sectionName? line with
    | some name => ([], ⟨name, above⟩ :: sections)
    | none => (line :: above, sections)

/-- The number, counted from one, of the first line that is not blank. -/
def firstText? : List (List Char) → Option Nat
  | [] => none
  | line :: rest => if Text.isAllBlank line then (firstText? rest).map (· + 1) else some 1

/-- The templates with one section put in place, if its name is known. -/
def set? (templates : Templates) (part : Section) : Option Templates :=
  let body := String.ofList (Text.joinLines part.body)
  if part.name = "header" then some { templates with header := body }
  else if part.name = "record" then some { templates with record := body }
  else if part.name = "middle" then some { templates with middle := body }
  else if part.name = "dispatch" then some { templates with dispatch := body }
  else if part.name = "footer" then some { templates with footer := body }
  else none

/-- The templates with all sections put in place in turn, so that of two with one name the later
counts. -/
def setAll (templates : Templates) : List Section → Except Cause Templates
  | [] => .ok templates
  | part :: rest =>
    match templates.set? part with
    | some changed => setAll changed rest
    | none => .error (.unknownSection part.name)

/-- **The templates of a template file**: text above the first section is a fault, else the first
section with an unknown name is, and a section the file leaves out keeps its default. -/
def ofText (text : String) : Except Cause Templates :=
  let (above, sections) := split (Text.lines text.toList)
  match firstText? above with
  | some line => .error (.strayText line)
  | none => setAll default sections

/-! ## Filling in -/

/-- A placeholder as templates write it. -/
def placeholder (key : String) : List Char := "\x7b".toList ++ key.toList ++ "\x7d".toList

/-- **The filled template**: the placeholders of one key after the other are replaced by its
value, and braces around anything else stay. -/
def fill (template : String) (values : List (String × String)) : String :=
  String.ofList <| values.foldl
    (fun text pair => Text.substitute (placeholder pair.1) pair.2.toList text) template.toList

/-- The values a record fills in. -/
def recordValues (record : Record) : List (String × String) :=
  [("code", "0x" ++ String.ofList (Text.hexByte record.opcode)),
   ("name", record.mnemonic),
   ("bytes", toString record.size),
   ("cycles", toString record.cycles.toNat),
   ("mode", record.mode.name),
   ("adjust", record.adjustment.name),
   ("official", if record.official then "true" else "false")]

/-- The values a dispatch entry fills in. -/
def entryValues (entry : DispatchEntry) : List (String × String) :=
  [("name", entry.mnemonic), ("canonical", entry.canonical), ("handler", entry.handler)]

/-- The parts of the generated table, each of which ends its line. -/
def parts (templates : Templates) (set : InstructionSet) : List String :=
  templates.header :: set.records.map (fun record => fill templates.record (recordValues record))
    ++ templates.middle :: set.dispatch.map (fun entry => fill templates.dispatch (entryValues entry))
    ++ [templates.footer]

/-- **The generated table** of an instruction set. -/
def render (templates : Templates) (set : InstructionSet) : String :=
  String.join ((templates.parts set).map (· ++ "\n"))

end Templates

end OpcodeTable
