import OpcodeTable.Record

/-!
# Dispatch — one handler for each instruction

Records of one instruction may stand in several places and in both references.  An emulator needs
one handler per canonical mnemonic, and the official reference is asked first.
-/

namespace OpcodeTable

/-! ## Groups -/

/-- **A group**: consecutive records of one mnemonic from one reference. -/
structure Group where
  mnemonic : String
  official : Bool
  records : List Record
  records_ne_nil : records ≠ []
  uniform : ∀ record ∈ records, record.mnemonic = mnemonic ∧ record.official = official
  deriving DecidableEq, Repr

namespace Group

/-- The group a record starts. -/
def start (record : Record) : Group where
  mnemonic := record.mnemonic
  official := record.official
  records := [record]
  records_ne_nil := List.cons_ne_nil record []
  uniform := by simp

/-- Whether a record carries a group on: it has the same mnemonic, from the same reference. -/
def IsContinuedBy (group : Group) (record : Record) : Prop :=
  record.mnemonic = group.mnemonic ∧ record.official = group.official

instance (group : Group) (record : Record) : Decidable (group.IsContinuedBy record) :=
  inferInstanceAs (Decidable (_ ∧ _))

/-- The group with one more record, which carries it on. -/
def extend (group : Group) (record : Record) (h : group.IsContinuedBy record) : Group where
  mnemonic := group.mnemonic
  official := group.official
  records := group.records ++ [record]
  records_ne_nil := by simp
  uniform other hother := by
    rcases List.mem_append.1 hother with hold | hnew
    · exact group.uniform other hold
    · obtain rfl := List.mem_singleton.1 hnew
      exact h

/-- **The groups with one more record** at the end: it carries on the last group or starts one. -/
def push (groups : List Group) (record : Record) : List Group :=
  match groups.getLast? with
  | some last =>
    if h : last.IsContinuedBy record then groups.dropLast ++ [last.extend record h]
    else groups ++ [start record]
  | none => [start record]

/-- The records of groups, in order. -/
def flatten (groups : List Group) : List Record := groups.flatMap (·.records)

@[simp] theorem flatten_nil : flatten [] = [] := rfl

@[simp] theorem flatten_cons (group : Group) (groups : List Group) :
    flatten (group :: groups) = group.records ++ flatten groups := rfl

@[simp] theorem flatten_append (groups later : List Group) :
    flatten (groups ++ later) = flatten groups ++ flatten later := List.flatMap_append

/-- **Grouping keeps the records and their order**: the new one comes last. -/
@[simp] theorem flatten_push (groups : List Group) (record : Record) :
    flatten (push groups record) = flatten groups ++ [record] := by
  rcases List.eq_nil_or_concat groups with rfl | ⟨before, last, rfl⟩
  · rfl
  · by_cases h : last.IsContinuedBy record <;> simp [push, h, extend, start]

end Group

/-! ## Entries -/

/-- **A dispatch entry**: the handler an emulator provides for one canonical mnemonic. -/
structure DispatchEntry where
  /-- the mnemonic as the group that introduced the entry has it -/
  mnemonic : String
  canonical : String
  /-- the canonical mnemonic in lower case -/
  handler : String
  official : Bool
  deriving DecidableEq, Repr

namespace DispatchEntry

/-- The entry a group introduces. -/
def ofGroup (group : Group) : DispatchEntry where
  mnemonic := group.mnemonic
  canonical := OpcodeTable.canonical group.mnemonic
  handler := (OpcodeTable.canonical group.mnemonic).toLower
  official := group.official

/-- The entries of groups, those left out whose canonical mnemonic is among `seen` or belongs to an
earlier group. -/
def firsts (seen : List String) : List Group → List DispatchEntry
  | [] => []
  | group :: groups =>
    let name := OpcodeTable.canonical group.mnemonic
    if name ∈ seen then firsts seen groups
    else ofGroup group :: firsts (name :: seen) groups

/-- **The dispatch list** of a table: the official groups are asked before all others, and the
first to bring a canonical mnemonic introduces its entry. -/
def ofGroups (groups : List Group) : List DispatchEntry :=
  firsts [] (groups.filter (·.official) ++ groups.filter (!·.official))

end DispatchEntry

end OpcodeTable
