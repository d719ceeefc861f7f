import OpcodeTable.Text.Digit
import OpcodeTable.Text.Style

/-!
# Fault — why a run fails, and what it then reports

A fault is a cause and, where one is known, the place in a reference that shows it.  The kind and
the wording of the message follow from the cause alone.
-/

namespace OpcodeTable

/-- The reference a row is taken from. -/
inductive Source where
  /-- the page of documented instructions -/
  | official
  /-- the listing of undocumented opcodes -/
  | unofficial
  deriving DecidableEq, Repr

/-- The name of the reference in messages and tables. -/
def Source.name : Source → String
  | .official => "official"
  | .unofficial => "unofficial"

/-! ## Files -/

/-- **Why a file was not read or created.** -/
inductive FileError where
  /-- nothing there, or no directory to hold it -/
  | missing
  /-- a directory stands there -/
  | directory
  /-- a file stands where the path needs a directory -/
  | notDirectory
  /-- a name longer than any file may have -/
  | nameTooLong
  /-- bytes that are no text -/
  | notText
  /-- another answer of the operating system, in its own words -/
  | other (text : String)
  deriving DecidableEq, Repr

/-- The operating system's wording, with its number where it has one. -/
def FileError.message : FileError → String
  | .missing => "No such file or directory (os error 2)"
  | .directory => "Is a directory (os error 21)"
  | .notDirectory => "Not a directory (os error 20)"
  | .nameTooLong => "File name too long (os error 36)"
  | .notText => "stream did not contain valid UTF-8"
  | .other text => text

/-! ## Kinds and causes -/

/-- **The kind of a fault**, as reports name it. -/
inductive FaultKind where
  | structureMismatch
  | malformedOpcode
  | underrun
  | unknownAddressingMode
  | invalidCycleCount
  | duplicateEncoding
  | io
  | general
  deriving DecidableEq, Repr

namespace FaultKind

/-- Every kind once. -/
def all : List FaultKind :=
  [structureMismatch, malformedOpcode, underrun, unknownAddressingMode, invalidCycleCount,
   duplicateEncoding, io, general]

/-- The kind's name in a report. -/
def name : FaultKind → String
  | structureMismatch => "StructureMismatch"
  | malformedOpcode => "MalformedOpcode"
  | underrun => "Underrun"
  | unknownAddressingMode => "UnknownAddressingMode"
  | invalidCycleCount => "InvalidCycleCount"
  | duplicateEncoding => "DuplicateEncoding"
  | io => "IO"
  | general => "General"

end FaultKind

/-- **The cause of a fault**, with what its message quotes. -/
inductive Cause where
  /-- the page has not one opcode table for each named heading -/
  | anchorsAndTables (anchors tables : Nat)
  /-- a row of an opcode table is too short -/
  | shortRow (cells : Nat)
  /-- a text is no opcode byte -/
  | malformedOpcode (text : String)
  /-- the listing's table with this number has no heading left to name it -/
  | headingsExhausted (table : Nat)
  /-- a label spells no addressing mode -/
  | unknownMode (label : String)
  /-- a cycle text does not start with a number -/
  | noCycleCount (text : String)
  /-- the number in a cycle text is no byte -/
  | cycleCountRange (digits text : String)
  /-- two rows encode the same opcode -/
  | duplicateOpcode (opcode : UInt8) (earlier later : String)
  /-- the file of a reference could not be read -/
  | unreadable (path : String) (error : FileError)
  /-- nobody supplied the reference -/
  | unavailable
  /-- another file could not be read or created -/
  | file (error : FileError)
  /-- text stands above the first section of a template file -/
  | strayText (line : Nat)
  /-- a template file has a section of this unknown name -/
  | unknownSection (name : String)
  /-- the opcode asked for is in neither reference -/
  | absentOpcode (opcode : UInt8)
  deriving DecidableEq, Repr

namespace Cause

/-- The kind of fault a cause makes. -/
def kind : Cause → FaultKind
  | anchorsAndTables .. | shortRow .. => .structureMismatch
  | malformedOpcode .. => .malformedOpcode
  | headingsExhausted .. => .underrun
  | unknownMode .. => .unknownAddressingMode
  | noCycleCount .. | cycleCountRange .. => .invalidCycleCount
  | duplicateOpcode .. => .duplicateEncoding
  | unreadable .. | unavailable | file .. => .io
  | strayText .. | unknownSection .. | absentOpcode .. => .general

/-- The opening of a message about the layout of a reference. -/
def banner : String := Text.Colour.red.paint "Scrape Error" ++ " "

/-- An opcode as messages and tables write it. -/
def dollarHex (opcode : UInt8) : String := "$" ++ String.ofList (Text.hexByte opcode)

/-- **The message** of a cause. -/
def message : Cause → String
  | anchorsAndTables anchors tables =>
    banner ++ s!"found {anchors} mnemonic anchors but {tables} opcode tables"
  | shortRow cells => banner ++ s!"expected 4 columns, found {cells}"
  | malformedOpcode text => s!"opcode \"{text}\" is not a byte"
  | headingsExhausted table =>
    banner ++ s!"table #{table} has no mnemonic heading left to claim it"
  | unknownMode label => s!"unknown addressing mode \"{label}\""
  | noCycleCount text => s!"no cycle count in \"{text}\""
  | cycleCountRange digits text => s!"cycle count {digits} in \"{text}\" is out of range"
  | duplicateOpcode opcode earlier later =>
    banner ++ s!"opcode {dollarHex opcode} claimed by both {earlier} and {later}"
  | unreadable path error => s!"failed to read {path}: {error.message}"
  | unavailable => "not available"
  | file error => error.message
  | strayText line => s!"template line {line}: text before the first '%% <section>' line"
  | unknownSection name => s!"unknown template section \"{name}\""
  | absentOpcode opcode => s!"opcode {dollarHex opcode} is not in either reference"

end Cause

/-! ## Faults and reports -/

/-- **A fault**: its cause, and the place in a reference where it shows. -/
structure Fault where
  cause : Cause
  place : Option String := none
  deriving DecidableEq, Repr

/-- **What the user is told** about a failed run. -/
structure Report where
  kind : FaultKind
  message : String
  context : Option String
  deriving DecidableEq, Repr

/-- The report of a fault. -/
def Fault.report (fault : Fault) : Report := ⟨fault.cause.kind, fault.cause.message, fault.place⟩

namespace Report

/-- The report in words: the message, and below it the context if there is one. -/
def display (report : Report) : String :=
  match report.context with
  | none => report.message
  | some context => report.message ++ "\nContext: " ++ context

/-- The report on one line, with its kind and without the context. -/
def summary (report : Report) : String :=
  Text.Colour.red.paint "opscrape::Error" ++ " " ++ report.kind.name ++ ": " ++ report.message

end Report

end OpcodeTable
