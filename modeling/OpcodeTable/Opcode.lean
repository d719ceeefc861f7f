import OpcodeTable.Fault
import OpcodeTable.Text.Blank

/-!
# Opcode — the byte in an opcode cell
-/

namespace OpcodeTable.Opcode

/-- The text without the one mark, if any, that announces a hexadecimal number. -/
def withoutMark : List Char → List Char
  | '$' :: rest => rest
  | '0' :: 'x' :: rest => rest
  | '0' :: 'X' :: rest => rest
  | cs => cs

/-- **The byte an opcode text spells**: one or two hexadecimal digits, after at most one mark, with
blanks around the whole only. -/
def byte? (text : List Char) : Option UInt8 :=
  let digits := withoutMark (Text.trim text)
  if digits.length ≤ 2 then (Text.natural? 16 digits).map Nat.toUInt8 else none

/-- The byte of an opcode cell, or the fault of a cell that has none. -/
def read (text : String) : Except Cause UInt8 :=
  match byte? text.toList with
  | some opcode => .ok opcode
  | none => .error (.malformedOpcode text)

theorem read_eq_ok {text : String} {opcode : UInt8} :
    read text = .ok opcode ↔ byte? text.toList = some opcode := by
  rw [read]
  cases byte? text.toList <;> simp

theorem read_eq_error {text : String} {cause : Cause} :
    read text = .error cause ↔ byte? text.toList = none ∧ cause = .malformedOpcode text := by
  rw [read]
  cases byte? text.toList <;> simp [eq_comm]

end OpcodeTable.Opcode
