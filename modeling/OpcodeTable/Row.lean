import OpcodeTable.Fault

/-!
# Row — one line of an opcode table, as a reference prints it
-/

namespace OpcodeTable

/-- **A row**: the texts of one table line, still unread, and where they stand. -/
structure Row where
  source : Source
  mnemonic : String
  opcode : String
  label : String
  size : String
  cycles : String
  /-- where the row stands in its reference, in words -/
  origin : String
  deriving DecidableEq, Repr

/-- The star in front of the mnemonics of undocumented opcodes. -/
def star : Char := '*'

/-- **The canonical mnemonic**: the recorded one without the stars it starts with. -/
def canonical (mnemonic : String) : String :=
  String.ofList (mnemonic.toList.dropWhile (· == star))

end OpcodeTable
