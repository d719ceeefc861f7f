import OpcodeTable.Proofs.Traced
import OpcodeTable.Record

/-!
# Proofs/Reading — what a row reads as

A row reads as a record exactly when its opcode, its label and its cycles can be read
(`reading_eq_ok`), and otherwise the first of them that cannot is its fault (`reading_eq_error`).
The record has the row's mnemonic and the size of its mode; the size text of the
row has no part in it.
-/

namespace OpcodeTable.Row

/-- **What a row reads as**, its notices aside. -/
def reading (row : Row) : Except Fault Record := (Record.ofRow row).outcome

/-- The row with another size text. -/
def withSize (text : String) (row : Row) : Row := { row with size := text }

/-- The remark on the size is a notice only: the outcome is that of the three cells read. -/
theorem reading_eq (row : Row) :
    row.reading = (do
      let opcode ← Traced.ofExcept row.origin (Opcode.read row.opcode)
      let mode ← Traced.ofExcept row.origin (AddressingMode.read row.label)
      let cycles ← Traced.ofExcept row.origin (Cycles.read row.cycles)
      return (⟨row.mnemonic, row.source == .official, opcode, mode, mode.size, cycles.base,
        cycles.adjustment⟩ : Record) : Traced Record).outcome := by
  refine Traced.outcome_bind_congr rfl fun opcode => ?_
  refine Traced.outcome_bind_congr rfl fun mode => ?_
  refine Traced.outcome_bind_congr rfl fun cycles => ?_
  by_cases hsize : Record.listsSize row.size mode.size = true
  · rw [if_pos hsize]
  · rw [if_neg hsize]; rfl

/-- **The record of a row**, cell by cell. -/
theorem reading_eq_ok {row : Row} {record : Record} :
    row.reading = .ok record ↔ ∃ opcode mode cycles,
      Opcode.read row.opcode = .ok opcode ∧ AddressingMode.read row.label = .ok mode ∧
      Cycles.read row.cycles = .ok cycles ∧
      ⟨row.mnemonic, row.source == .official, opcode, mode, mode.size, cycles.base,
        cycles.adjustment⟩ = record := by
  simp only [reading_eq, Traced.outcome_bind_eq_ok, Traced.outcome_ofExcept_eq_ok,
    Traced.outcome_pure, Except.ok.injEq, exists_and_left]

/-- **What keeps a row from being read**: its opcode, or else its label, or else its cycles. -/
inductive Unreadable (row : Row) : Cause → Prop
  | opcode (h : Opcode.byte? row.opcode.toList = none) :
      Unreadable row (.malformedOpcode row.opcode)
  | label {opcode : UInt8} (hopcode : Opcode.byte? row.opcode.toList = some opcode)
      (h : AddressingMode.ofLabel? row.label = none) : Unreadable row (.unknownMode row.label)
  | cycles {opcode : UInt8} {mode : AddressingMode} {cause : Cause}
      (hopcode : Opcode.byte? row.opcode.toList = some opcode)
      (hmode : AddressingMode.ofLabel? row.label = some mode)
      (h : Cycles.read row.cycles = .error cause) : Unreadable row cause

/-- **The fault of a row**, cell by cell: the first that cannot be read is reported at the row's
origin. -/
theorem reading_eq_error {row : Row} {fault : Fault} :
    row.reading = .error fault ↔ ∃ cause, row.Unreadable cause ∧ fault = ⟨cause, row.origin⟩ := by
  simp only [reading_eq, Traced.outcome_bind_eq_error, Traced.outcome_ofExcept_eq_error,
    Traced.outcome_ofExcept_eq_ok, Traced.outcome_pure, Opcode.read_eq_error, Opcode.read_eq_ok,
    AddressingMode.read_eq_error, AddressingMode.read_eq_ok]
  constructor
  · rintro (⟨_, ⟨h, rfl⟩, rfl⟩ | ⟨opcode, hopcode, ⟨_, ⟨h, rfl⟩, rfl⟩ |
      ⟨mode, hmode, ⟨cause, h, rfl⟩ | ⟨_, _, h⟩⟩⟩)
    · exact ⟨_, .opcode h, rfl⟩
    · exact ⟨_, .label hopcode h, rfl⟩
    · exact ⟨_, .cycles hopcode hmode h, rfl⟩
    · cases h
  · rintro ⟨cause, hcause, rfl⟩
    cases hcause with
    | opcode h => exact .inl ⟨_, ⟨h, rfl⟩, rfl⟩
    | label hopcode h => exact .inr ⟨_, hopcode, .inl ⟨_, ⟨h, rfl⟩, rfl⟩⟩
    | cycles hopcode hmode h => exact .inr ⟨_, hopcode, .inr ⟨_, hmode, .inl ⟨_, h, rfl⟩⟩⟩

theorem mnemonic_of_reading {row : Row} {record : Record} (h : row.reading = .ok record) :
    record.mnemonic = row.mnemonic := by
  obtain ⟨_, _, _, _, _, _, rfl⟩ := reading_eq_ok.1 h
  rfl

theorem official_of_reading {row : Row} {record : Record} (h : row.reading = .ok record) :
    record.official = (row.source == .official) := by
  obtain ⟨_, _, _, _, _, _, rfl⟩ := reading_eq_ok.1 h
  rfl

/-- **A record's size is that of its mode.** -/
theorem size_of_reading {row : Row} {record : Record} (h : row.reading = .ok record) :
    record.size = record.mode.size := by
  obtain ⟨_, _, _, _, _, _, rfl⟩ := reading_eq_ok.1 h
  rfl

/-- **The size text is not read**: a row reads the same whatever it says there. -/
theorem reading_withSize (text : String) (row : Row) :
    (row.withSize text).reading = row.reading :=
  (reading_eq (row.withSize text)).trans (reading_eq row).symm

end OpcodeTable.Row
