import OpcodeTable.Proofs.Blank
import OpcodeTable.Proofs.Digit
import OpcodeTable.Proofs.Separator
import OpcodeTable.Record

/-!
# Proofs/RecordLine — what the printed line of a record tells

The fields of a line stand in columns that are as wide as they have to be, so no field has a fixed
place.  From the right end on they can still be told apart: each is a word behind a space or fills
its column exactly, and what is left in front is the mnemonic, whatever its characters.  Spaces at
the end of a short mnemonic are all that a line does not tell (`line_eq_iff`).
-/

namespace OpcodeTable

/-! ## Columns from the right -/

namespace Text

variable {width width' : Nat} {field field' front front' : List Char}

/-- **A word at the right of its column** is the last one, wherever the column starts. -/
theorem append_padLeft_inj (hfield : ' ' ∉ field) (hfield' : ' ' ∉ field')
    (h : front ++ ' ' :: padLeft width field = front' ++ ' ' :: padLeft width field') :
    front = front' ∧ field = field' := by
  have hspaces : ∀ {front field : List Char}, front ++ ' ' :: padLeft width field
      = (front ++ List.replicate (width - field.length) ' ') ++ ' ' :: field := by
    intro front field
    rw [padLeft, ← List.cons_append, ← List.replicate_succ, List.replicate_succ', List.append_assoc,
      List.append_assoc, List.singleton_append]
  rw [hspaces, hspaces] at h
  obtain ⟨hfront, rfl⟩ := append_cons_inj_last hfield hfield' h
  exact ⟨List.append_cancel_right hfront, rfl⟩

/-- **A field that fits its column** fills it exactly, so it is found by the width of the column. -/
theorem append_padRight_inj (hfield : field.length ≤ width) (hfield' : field'.length ≤ width)
    (h : front ++ ' ' :: padRight width field = front' ++ ' ' :: padRight width field') :
    front = front' ∧ padRight width field = padRight width field' := by
  have hlength : (' ' :: padRight width field).length = (' ' :: padRight width field').length := by
    rw [List.length_cons, List.length_cons, length_padRight, length_padRight,
      Nat.max_eq_left hfield, Nat.max_eq_left hfield']
  obtain ⟨hfront, hback⟩ := List.append_inj' h hlength
  exact ⟨hfront, (List.cons.inj hback).2⟩

/-- **A field at the left of its column** is what is left without the spaces behind it. -/
theorem trimEndWhile_padRight (h : field.getLast? ≠ some ' ') (width : Nat) :
    trimEndWhile (· == ' ') (padRight width field) = field := by
  have hspaces : ∀ c ∈ List.replicate (width - field.length) ' ', (c == ' ') = true :=
    fun c hc => beq_iff_eq.2 (List.eq_of_mem_replicate hc)
  rcases List.eq_nil_or_concat field with rfl | ⟨before, last, rfl⟩
  · rw [padRight, List.nil_append, trimEndWhile, List.reverse_replicate,
      List.dropWhile_eq_nil_iff.2 hspaces, List.reverse_nil]
  · rw [List.concat_eq_append] at h hspaces ⊢
    rw [List.getLast?_concat, ne_eq, Option.some.injEq] at h
    exact trimEndWhile_append hspaces ⟨last, List.getLast?_concat, beq_eq_false_iff_ne.2 h⟩

theorem padRight_inj (hfield : field.getLast? ≠ some ' ') (hfield' : field'.getLast? ≠ some ' ') :
    padRight width field = padRight width field' ↔ field = field' := by
  refine ⟨fun h => ?_, congrArg _⟩
  rw [← trimEndWhile_padRight hfield width, h, trimEndWhile_padRight hfield']

end Text

/-! ## The fields of a line -/

theorem AddressingMode.name_injective : Function.Injective AddressingMode.name := by
  have hfind : ∀ mode : AddressingMode, all.find? (·.name == mode.name) = some mode := by
    intro mode
    cases mode <;> decide
  intro mode mode' h
  rw [← Option.some_inj, ← hfind mode, h, hfind mode']

/-- The names of the modes fit their column and have no spaces at their ends. -/
theorem AddressingMode.name_fits (mode : AddressingMode) :
    mode.name.toList.length ≤ 12 ∧ mode.name.toList.getLast? ≠ some ' ' := by
  cases mode <;> decide

theorem Adjustment.name_injective : Function.Injective Adjustment.name := by
  intro adjustment adjustment'
  cases adjustment <;> cases adjustment' <;> decide

theorem Adjustment.name_fits (adjustment : Adjustment) :
    adjustment.name.toList.length ≤ 12 ∧ adjustment.name.toList.getLast? ≠ some ' ' := by
  cases adjustment <;> decide

namespace Record

variable {record record' : Record}

theorem space_notMem_sourceName (record : Record) : ' ' ∉ record.sourceName.toList := by
  rw [sourceName]
  split <;> decide

theorem official_eq_of_sourceName (h : record.sourceName = record'.sourceName) :
    record.official = record'.official := by
  rw [sourceName, sourceName] at h
  cases hofficial : record.official <;> cases hofficial' : record'.official
  all_goals simp [hofficial, hofficial', Source.name] at h ⊢

/-- **The columns of a line**, from left to right. -/
theorem toList_line (record : Record) : record.line.toList =
    '$' :: Text.hexByte record.opcode ++ [' ', ' '] ++ Text.padRight 5 record.mnemonic.toList
      ++ ' ' :: Text.padRight 12 record.mode.name.toList
      ++ ' ' :: Text.padLeft 2 (toString record.size).toList
      ++ ' ' :: Text.padLeft 2 (toString record.cycles.toNat).toList
      ++ ' ' :: Text.padRight 12 record.adjustment.name.toList
      ++ ' ' :: record.sourceName.toList := by
  have hdollar : "$".toList = ['$'] := by decide
  have hspace : " ".toList = [' '] := by decide
  have hspaces : "  ".toList = [' ', ' '] := by decide
  simp only [line, Cause.dollarHex, String.toList_append, String.toList_ofList, hdollar, hspace,
    hspaces, List.append_assoc, List.cons_append, List.nil_append]

/-- **What the line of a record tells**: everything but the spaces at the end of its mnemonic, which
could as well fill the column. -/
theorem line_eq_iff : record.line = record'.line ↔
    Text.padRight 5 record.mnemonic.toList = Text.padRight 5 record'.mnemonic.toList ∧
      { record with mnemonic := "" } = { record' with mnemonic := "" } := by
  rw [← String.toList_inj, toList_line, toList_line, Record.mk.injEq]
  constructor
  · intro h
    obtain ⟨h, hsource⟩ :=
      Text.append_cons_inj_last record.space_notMem_sourceName record'.space_notMem_sourceName h
    obtain ⟨h, hadjustment⟩ :=
      Text.append_padRight_inj record.adjustment.name_fits.1 record'.adjustment.name_fits.1 h
    obtain ⟨h, hcycles⟩ :=
      Text.append_padLeft_inj (Text.notMem_toString rfl _) (Text.notMem_toString rfl _) h
    obtain ⟨h, hsize⟩ :=
      Text.append_padLeft_inj (Text.notMem_toString rfl _) (Text.notMem_toString rfl _) h
    obtain ⟨h, hmode⟩ := Text.append_padRight_inj record.mode.name_fits.1 record'.mode.name_fits.1 h
    obtain ⟨hmark, hmnemonic⟩ := List.append_inj h (by simp [Text.hexByte])
    have hopcode := List.append_cancel_right (List.cons.inj hmark).2
    rw [Text.padRight_inj record.adjustment.name_fits.2 record'.adjustment.name_fits.2,
      String.toList_inj] at hadjustment
    rw [Text.padRight_inj record.mode.name_fits.2 record'.mode.name_fits.2, String.toList_inj]
      at hmode
    exact ⟨hmnemonic, rfl, official_eq_of_sourceName (String.toList_inj.1 hsource),
      Text.hexByte_injective hopcode, AddressingMode.name_injective hmode,
      Text.toString_injective (String.toList_inj.1 hsize),
      UInt8.toNat_inj.1 (Text.toString_injective (String.toList_inj.1 hcycles)),
      Adjustment.name_injective hadjustment⟩
  · rintro ⟨hmnemonic, -, hofficial, hopcode, hmode, hsize, hcycles, hadjustment⟩
    have hsource : record.sourceName = record'.sourceName := by
      rw [sourceName, hofficial, sourceName]
    rw [hmnemonic, hopcode, hmode, hsize, hcycles, hadjustment, hsource]

/-- **The line of a record loses nothing**: where mnemonics do not end in a space, two records have
one line only if they are the same in every field. -/
theorem line_inj (h : record.mnemonic.toList.getLast? ≠ some ' ')
    (h' : record'.mnemonic.toList.getLast? ≠ some ' ') :
    record.line = record'.line ↔ record = record' := by
  rw [line_eq_iff, Text.padRight_inj h h', String.toList_inj, Record.mk.injEq]
  obtain ⟨mnemonic, official, opcode, mode, size, cycles, adjustment⟩ := record
  obtain ⟨mnemonic', official', opcode', mode', size', cycles', adjustment'⟩ := record'
  rw [Record.mk.injEq, eq_self, true_and]

/-- Spaces at the end of a mnemonic are lost among those that fill its column. -/
example : Record.line ⟨"NOP", true, 0xEA, .implied, 1, 2, .none⟩
    = Record.line ⟨"NOP  ", true, 0xEA, .implied, 1, 2, .none⟩ := by decide +kernel

/-- A record whose mnemonic and count are wider than their columns. -/
def wideRecord : Record := ⟨"ISC  $FF  *", false, 0xE7, .zeroPage, 2, 105, .branchTaken⟩

/-- The same with the name of its mode in the mnemonic as well. -/
def widerRecord : Record := { wideRecord with mnemonic := "ISC  $FF  * ZeroPage" }

/-- Both mnemonics reach into the other columns, and yet the lines are told apart. -/
theorem line_wideRecord :
    wideRecord.mnemonic.toList.getLast? ≠ some ' ' ∧
      widerRecord.mnemonic.toList.getLast? ≠ some ' ' ∧ wideRecord.line ≠ widerRecord.line := by
  have hwide : wideRecord.mnemonic.toList.getLast? ≠ some ' ' := by decide
  have hwider : widerRecord.mnemonic.toList.getLast? ≠ some ' ' := by decide
  exact ⟨hwide, hwider, fun h => absurd ((line_inj hwide hwider).1 h) (by decide)⟩

end Record

end OpcodeTable
