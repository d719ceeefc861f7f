import OpcodeTable.AddressingMode
import OpcodeTable.Row

/-!
# Notice — what a run says about its progress

Notices never carry results: they go to the log, and the quietest ones only when asked for.
-/

namespace OpcodeTable

/-- How loud a notice is. -/
inductive Level where
  /-- told only on request -/
  | detail
  | info
  | warning
  deriving DecidableEq, Repr

/-- **A notice**, with what its line quotes. -/
inductive Notice where
  /-- a reference is about to be read -/
  | reading (source : Source) (path : String)
  /-- the page has this many named headings -/
  | anchors (count : Nat)
  /-- the listing's table that starts on this line takes this name -/
  | tableNamed (line : Nat) (name : String)
  /-- names the listing's headings left over -/
  | spareHeadings (names : List String)
  /-- the listing has this many tables -/
  | tables (count : Nat)
  /-- a reference has this many rows -/
  | rows (source : Source) (count : Nat)
  /-- the size a row lists is not that of its addressing mode -/
  | sizeIgnored (row : Row) (opcode : UInt8) (mode : AddressingMode)
  /-- records were merged into an instruction set -/
  | merged (records groups entries : Nat)
  /-- the size of the finished set -/
  | totals (opcodes handlers : Nat)
  /-- a template file was read -/
  | templates (path : String)
  /-- the generated table was written -/
  | written (path : String)
  deriving DecidableEq, Repr

namespace Notice

/-- How loud each notice is. -/
def level : Notice → Level
  | reading .. | anchors .. | tableNamed .. | tables .. | merged .. | templates .. => .detail
  | rows .. | totals .. | written .. => .info
  | spareHeadings .. | sizeIgnored .. => .warning

/-- The trimmed size text of a row, as the notice about it quotes it. -/
def quotedSize (row : Row) : String := String.ofList (Text.trim row.size.toList)

/-- The wording of a notice. -/
def text : Notice → String
  | reading source path => s!"reading {source.name} reference from {path}"
  | anchors count => s!"official reference: {count} mnemonics"
  | tableNamed line name => s!"unofficial reference line {line}: table for {name}"
  | spareHeadings names =>
    s!"unofficial reference: {names.length} headings without a table: "
      ++ ", ".intercalate names
  | tables count => s!"unofficial reference: {count} tables"
  | rows source count => s!"{source.name} reference: {count} opcode rows"
  | sizeIgnored row opcode mode =>
    s!"{row.origin}: {row.mnemonic} {Cause.dollarHex opcode} lists size \"{quotedSize row}\""
      ++ s!", using {mode.size} for {mode.name}"
  | merged records groups entries =>
    s!"merged {records} records in {groups} groups into {entries} dispatch entries"
  | totals opcodes handlers => s!"{opcodes} opcodes, {handlers} handlers"
  | templates path => s!"loaded templates from {path}"
  | written path => s!"wrote opcode table: {path}"

/-- **The line of a notice** in the log: details stand alone, the others after their coloured
level. -/
def line (notice : Notice) : String :=
  match notice.level with
  | .detail => notice.text
  | .info => Text.Colour.blue.paint "INFO" ++ ": " ++ notice.text
  | .warning => Text.Colour.yellow.paint "WARNING" ++ ": " ++ notice.text

end Notice

end OpcodeTable
