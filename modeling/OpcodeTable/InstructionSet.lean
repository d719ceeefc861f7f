import OpcodeTable.Dispatch

/-!
# InstructionSet — the rows of both references as one table

Every row becomes a record, no opcode may be encoded twice, and an index leads from each opcode to
its record.
-/

namespace OpcodeTable

/-! ## The index -/

/-- **An index by opcode**: for each of the 256 opcodes the position of its record, if it has
one. -/
structure Index where
  slots : Vector (Option Nat) 256

namespace Index

/-- The index without records. -/
def empty : Index := ⟨Vector.replicate 256 none⟩

/-- The position an index has for an opcode. -/
def position? (index : Index) (opcode : UInt8) : Option Nat :=
  index.slots.get ⟨opcode.toNat, opcode.toNat_lt⟩

/-- The index with a position put down for an opcode. -/
def insert (index : Index) (opcode : UInt8) (position : Nat) : Index :=
  ⟨index.slots.set opcode.toNat (some position) opcode.toNat_lt⟩

@[simp] theorem position?_empty (opcode : UInt8) : empty.position? opcode = none := by
  simp [position?, empty, Vector.get]

theorem position?_insert (index : Index) (opcode : UInt8) (position : Nat) (other : UInt8) :
    (index.insert opcode position).position? other
      = if opcode = other then some position else index.position? other := by
  refine (Vector.getElem_set opcode.toNat_lt other.toNat_lt).trans ?_
  simp only [UInt8.toNat_inj]
  rfl

end Index

/-! ## The table while it grows -/

/-- **A table under construction**: the groups so far, the number of their records, and for each
opcode the position its record has among all of them. -/
structure Draft where
  groups : List Group
  count : Nat
  index : Index

namespace Draft

/-- The table without rows. -/
def empty : Draft := ⟨[], 0, .empty⟩

/-- The records of the table, group by group. -/
def records (draft : Draft) : List Record := Group.flatten draft.groups

/-- The table with one more record, which the index finds under its opcode. -/
def push (draft : Draft) (record : Record) : Draft where
  groups := Group.push draft.groups record
  count := draft.count + 1
  index := draft.index.insert record.opcode draft.count

/-- The mnemonic of the record at a position. -/
def mnemonicAt (draft : Draft) (position : Nat) : String :=
  (draft.records[position]?.map (·.mnemonic)).getD "?"

/-- **One row more**: it is read, and its opcode must be new. -/
def add (draft : Draft) (row : Row) : Traced Draft := do
  let record ← Record.ofRow row
  match draft.index.position? record.opcode with
  | some position =>
    let earlier := draft.mnemonicAt position
    Traced.fail (.duplicateOpcode record.opcode earlier record.mnemonic) row.origin
  | none => return draft.push record

@[simp] theorem records_push (draft : Draft) (record : Record) :
    (draft.push record).records = draft.records ++ [record] := Group.flatten_push _ _

@[simp] theorem count_push (draft : Draft) (record : Record) :
    (draft.push record).count = draft.count + 1 := rfl

end Draft

/-! ## The finished table -/

/-- **An instruction set**: its records in order, the dispatch list, and the index by opcode. -/
structure InstructionSet where
  records : List Record
  dispatch : List DispatchEntry
  index : Index

namespace InstructionSet

/-- The set a finished table makes. -/
def ofDraft (draft : Draft) : InstructionSet :=
  ⟨draft.records, DispatchEntry.ofGroups draft.groups, draft.index⟩

/-- **The set of a list of rows**, or the fault of the first row that has one. -/
def ofRows (rows : List Row) : Traced InstructionSet := do
  let draft ← rows.foldlM Draft.add Draft.empty
  let set := ofDraft draft
  Traced.notify (.merged draft.count draft.groups.length set.dispatch.length)
  return set

/-- **The record of an opcode**, if the set has one. -/
def byOpcode (set : InstructionSet) (opcode : UInt8) : Option Record :=
  (set.index.position? opcode).bind (set.records[·]?)

/-- The heading above the printed table, in colour. -/
def heading : String :=
  Text.Colour.blue.paint "OP   NAME  MODE         SZ CY EXTRA        SOURCE"

/-- **The whole set in print**: its counts, the heading, and a line for each record. -/
def listing (set : InstructionSet) : String :=
  s!"{set.records.length} opcodes, {set.dispatch.length} handlers:\n" ++ heading ++ "\n"
    ++ String.join (set.records.map fun record => record.line ++ "\n")

end InstructionSet

end OpcodeTable
