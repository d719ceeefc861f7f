import OpcodeTable.AddressingMode
import OpcodeTable.Cycles
import OpcodeTable.Opcode
import OpcodeTable.Text.Column
import OpcodeTable.Traced

/-!
# Record — one opcode, read from a row
-/

namespace OpcodeTable

/-- **An opcode record**: what a row says, read. -/
structure Record where
  mnemonic : String
  official : Bool
  opcode : UInt8
  mode : AddressingMode
  size : Nat
  cycles : UInt8
  adjustment : Adjustment
  deriving DecidableEq, Repr

namespace Record

/-- The mnemonic of the record without its stars. -/
def canonical (record : Record) : String := OpcodeTable.canonical record.mnemonic

/-- Whether a size text agrees with a size in bytes: it may have a plus sign and leading zeros. -/
def listsSize (text : String) (size : Nat) : Bool :=
  (Text.byte? 10 (Text.trim text.toList)).map UInt8.toNat == some size

/-- **The record of a row**.  The opcode is read first, then the mode, then the cycles, and the
first of them that cannot be read is the fault of the row.  The size is that of the mode; a row
that lists another is remarked on and otherwise accepted. -/
def ofRow (row : Row) : Traced Record := do
  let opcode ← Traced.ofExcept row.origin (Opcode.read row.opcode)
  let mode ← Traced.ofExcept row.origin (AddressingMode.read row.label)
  let cycles ← Traced.ofExcept row.origin (Cycles.read row.cycles)
  unless listsSize row.size mode.size do
    Traced.notify (.sizeIgnored row opcode mode)
  return {
    mnemonic := row.mnemonic
    official := row.source == .official
    opcode, mode
    size := mode.size
    cycles := cycles.base
    adjustment := cycles.adjustment }

/-- The name of the reference a record comes from. -/
def sourceName (record : Record) : String :=
  if record.official then Source.official.name else Source.unofficial.name

/-- **The line of a record** in a printed table. -/
def line (record : Record) : String :=
  Cause.dollarHex record.opcode ++ "  "
    ++ String.ofList (Text.padRight 5 record.mnemonic.toList) ++ " "
    ++ String.ofList (Text.padRight 12 record.mode.name.toList) ++ " "
    ++ String.ofList (Text.padLeft 2 (toString record.size).toList) ++ " "
    ++ String.ofList (Text.padLeft 2 (toString record.cycles.toNat).toList) ++ " "
    ++ String.ofList (Text.padRight 12 record.adjustment.name.toList) ++ " "
    ++ record.sourceName

end Record

end OpcodeTable
