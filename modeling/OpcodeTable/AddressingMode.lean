import OpcodeTable.Fault
import OpcodeTable.Text.Blank

/-!
# AddressingMode — how an instruction finds its operand

A reference spells a mode in its own way, with blanks wherever it likes; the mode fixes the size of
the encoded instruction.
-/

namespace OpcodeTable

/-- **An addressing mode** of the 6502. -/
inductive AddressingMode where
  | accumulator
  | absolute
  | absoluteX
  | absoluteY
  | zeroPage
  | zeroPageX
  | zeroPageY
  | immediate
  | relative
  | implied
  | indirect
  | indirectX
  | indirectY
  deriving DecidableEq, Repr

namespace AddressingMode

/-- Every mode once. -/
def all : List AddressingMode :=
  [accumulator, absolute, absoluteX, absoluteY, zeroPage, zeroPageX, zeroPageY, immediate, relative,
   implied, indirect, indirectX, indirectY]

/-- The name of the mode in generated tables. -/
def name : AddressingMode → String
  | accumulator => "Accumulator"
  | absolute => "Absolute"
  | absoluteX => "Absolute_X"
  | absoluteY => "Absolute_Y"
  | zeroPage => "ZeroPage"
  | zeroPageX => "ZeroPage_X"
  | zeroPageY => "ZeroPage_Y"
  | immediate => "Immediate"
  | relative => "Relative"
  | implied => "Implied"
  | indirect => "Indirect"
  | indirectX => "Indirect_X"
  | indirectY => "Indirect_Y"

/-- The spelling of the mode in the references, less its blanks. -/
def label : AddressingMode → String
  | accumulator => "Accumulator"
  | absolute => "Absolute"
  | absoluteX => "Absolute,X"
  | absoluteY => "Absolute,Y"
  | zeroPage => "ZeroPage"
  | zeroPageX => "ZeroPage,X"
  | zeroPageY => "ZeroPage,Y"
  | immediate => "Immediate"
  | relative => "Relative"
  | implied => "Implied"
  | indirect => "Indirect"
  | indirectX => "(Indirect,X)"
  | indirectY => "(Indirect),Y"

/-- **The size** in bytes of an instruction in this mode: the opcode and its operand. -/
def size : AddressingMode → Nat
  | accumulator | implied => 1
  | immediate | zeroPage | zeroPageX | zeroPageY | relative | indirectX | indirectY => 2
  | absolute | absoluteX | absoluteY | indirect => 3

/-- **The mode a label spells**: blanks are ignored wherever they stand, the case of letters is
not. -/
def ofLabel? (text : String) : Option AddressingMode :=
  all.find? fun mode => mode.label.toList == Text.squeeze text.toList

/-- The mode of a label, or the cause of failing that quotes it. -/
def read (text : String) : Except Cause AddressingMode :=
  match ofLabel? text with
  | some mode => .ok mode
  | none => .error (.unknownMode text)

theorem read_eq_ok {text : String} {mode : AddressingMode} :
    read text = .ok mode ↔ ofLabel? text = some mode := by
  rw [read]
  cases ofLabel? text <;> simp

theorem read_eq_error {text : String} {cause : Cause} :
    read text = .error cause ↔ ofLabel? text = none ∧ cause = .unknownMode text := by
  rw [read]
  cases ofLabel? text <;> simp [eq_comm]

theorem one_le_size (mode : AddressingMode) : 1 ≤ mode.size := by cases mode <;> decide

theorem size_le_three (mode : AddressingMode) : mode.size ≤ 3 := by cases mode <;> decide

end AddressingMode

end OpcodeTable
