import OpcodeTable.Proofs.InstructionSet

/-!
# Proofs/SizeRemark — which rows are remarked on

A row that lists another size than that of its mode is taken all the same, with a remark.  The
remark is made once the row is read and before its opcode is looked up: a row that cannot be read is
passed over, one whose opcode is taken is not (`remarks_ofRows`).
-/

namespace OpcodeTable

/-- **The warnings** among the notices of a computation. -/
def Traced.warnings {α : Type} (traced : Traced α) : List Notice :=
  traced.notices.filter (·.level == .warning)

/-! ## The remark on a row -/

/-- **A size text lists the size of a mode** if it is that number in decimal, blanks aside. -/
theorem Record.listsSize_eq_true {text : String} {mode : AddressingMode} :
    listsSize text mode.size = true ↔ Text.Decimal (Text.trim text.toList) mode.size := by
  have hsmall : mode.size < 256 := Nat.lt_of_le_of_lt mode.size_le_three (by decide)
  rw [listsSize, beq_iff_eq, Option.map_eq_some_iff]
  constructor
  · rintro ⟨byte, hbyte, hvalue⟩
    rw [← hvalue]
    exact Text.byte?_eq_some.1 hbyte
  · intro h
    have hvalue : (UInt8.ofNat mode.size).toNat = mode.size := UInt8.toNat_ofNat_of_lt' hsmall
    exact ⟨.ofNat mode.size, Text.byte?_eq_some.2 (by rwa [hvalue]), hvalue⟩

/-- A plus sign and leading zeros are no other size. -/
example : Record.listsSize " +002\t" AddressingMode.zeroPage.size = true := by decide

/-- **What a remark tells**: where the row stands, what it records, the size it lists, and the size
that is used. -/
theorem Notice.text_sizeIgnored (row : Row) (opcode : UInt8) (mode : AddressingMode) :
    ∃ high low : Fin 16, opcode.toNat = 16 * high + low ∧
      (Notice.sizeIgnored row opcode mode).text = row.origin ++ ": " ++ row.mnemonic ++ " $"
        ++ String.ofList [Text.upperHex high, Text.upperHex low] ++ " lists size \""
        ++ String.ofList (Text.trim row.size.toList) ++ "\", using " ++ toString mode.size
        ++ " for " ++ mode.name := by
  obtain ⟨high, low, hvalue, hdigits⟩ := Text.exists_hexByte_eq opcode
  refine ⟨high, low, hvalue, ?_⟩
  have htext : (Notice.sizeIgnored row opcode mode).text
      = s!"{row.origin}: {row.mnemonic} {Cause.dollarHex opcode} lists size \"{quotedSize row}\""
        ++ s!", using {mode.size} for {mode.name}" := rfl
  have hdollar : " $" = " " ++ "$" := by decide
  have hquote : "\", using " = "\"" ++ ", using " := by decide
  rw [htext, hdollar, hquote, Cause.dollarHex, hdigits]
  simp only [toString, quotedSize, String.append_assoc]

namespace Row

variable {row : Row} {notice : Notice}

/-- **The remark on a row**, if it is read and lists another size than that of its mode. -/
def sizeRemark? (row : Row) : Option Notice :=
  match row.reading with
  | .ok record =>
    if Record.listsSize row.size record.size then none
    else some (.sizeIgnored row record.opcode record.mode)
  | .error _ => none

theorem sizeRemark?_of_error {fault : Fault} (h : row.reading = .error fault) :
    row.sizeRemark? = none := by
  rw [sizeRemark?, h]

theorem sizeRemark?_eq_some : row.sizeRemark? = some notice ↔ ∃ record,
    row.reading = .ok record ∧ ¬ Text.Decimal (Text.trim row.size.toList) record.mode.size ∧
      notice = .sizeIgnored row record.opcode record.mode := by
  cases hreading : row.reading with
  | error fault => simp [sizeRemark?_of_error hreading]
  | ok record =>
    rw [sizeRemark?, hreading]
    simp only [size_of_reading hreading]
    by_cases hsize : Record.listsSize row.size record.mode.size = true
    · simp [hsize, Record.listsSize_eq_true.1 hsize]
    · have hother := hsize
      rw [Record.listsSize_eq_true] at hother
      simp [hsize, hother, eq_comm]

/-- **What reading a row says** is the remark on it. -/
theorem notices_ofRow (row : Row) : (Record.ofRow row).notices = row.sizeRemark?.toList := by
  rw [sizeRemark?, reading, Record.ofRow]
  -- a cell that cannot be read ends the reading before anything is said
  cases Opcode.read row.opcode with
  | error cause => rfl
  | ok opcode =>
    cases AddressingMode.read row.label with
    | error cause => rfl
    | ok mode =>
      cases Cycles.read row.cycles with
      | error cause => rfl
      | ok cycles =>
        simp only [Traced.ofExcept_ok, pure_bind]
        by_cases hsize : Record.listsSize row.size mode.size = true
        · simp [hsize]
        · simp [hsize, Traced.notify, Traced.map_ok]

/-- **One row more is remarked on alike**, whether its opcode is new or not. -/
theorem notices_add (draft : Draft) (row : Row) :
    (draft.add row).notices = row.sizeRemark?.toList := by
  rw [← notices_ofRow, Draft.add]
  cases hreading : (Record.ofRow row).outcome with
  | error fault => rw [Traced.bind_of_error hreading]
  | ok record =>
    rw [Traced.bind_of_ok hreading]
    cases draft.index.position? record.opcode with
    | none => exact List.append_nil _
    | some position => exact List.append_nil _

end Row

/-! ## The remarks on a table -/

namespace InstructionSet

variable {rows : List Row} {j : Nat} {row : Row} {fault : Fault}

/-- The remarks are all the warnings there are. -/
theorem filter_remarks (rows : List Row) :
    (rows.filterMap Row.sizeRemark?).filter (·.level == .warning)
      = rows.filterMap Row.sizeRemark? := by
  refine List.filter_eq_self.2 fun notice hnotice => ?_
  obtain ⟨row, -, hremark⟩ := List.mem_filterMap.1 hnotice
  obtain ⟨record, -, -, rfl⟩ := Row.sizeRemark?_eq_some.1 hremark
  rfl

/-- **Rows that make a set** are all remarked on, and then it is counted. -/
theorem notices_ofRows_of_ok {draft : Draft}
    (h : (rows.foldlM Draft.add .empty).outcome = .ok draft) :
    (ofRows rows).notices = rows.filterMap Row.sizeRemark?
      ++ [.merged draft.count draft.groups.length (ofDraft draft).dispatch.length] := by
  rw [ofRows, Traced.bind_of_ok h, Traced.notices_foldlM_of_ok Row.notices_add h,
    List.filterMap_eq_flatMap_toList]
  rfl

/-- **Rows that make no set** are remarked on up to the one that stops them. -/
theorem notices_ofRows_of_stopsAt (h : Traced.StopsAt Draft.add .empty rows j fault) :
    (ofRows rows).notices = (rows.take (j + 1)).filterMap Row.sizeRemark? := by
  rw [ofRows, Traced.bind_of_error h.outcome, h.notices Row.notices_add,
    List.filterMap_eq_flatMap_toList]

/-- The first faulty row is the last that is remarked on. -/
theorem remarks_of_firstFaulty (hfirst : FirstFaulty rows j) (hrow : rows[j]? = some row) :
    (ofRows rows).warnings
      = (rows.take j).filterMap Row.sizeRemark? ++ row.sizeRemark?.toList := by
  obtain ⟨fault, hstop⟩ := Draft.exists_stopsAt_of_firstFaulty hfirst
  rw [Traced.warnings, notices_ofRows_of_stopsAt hstop, filter_remarks, List.take_add_one, hrow,
    Option.toList_some, List.filterMap_append, List.filterMap_eq_flatMap_toList _ [row],
    List.flatMap_singleton]

/-- **The remarks on rows.**  Without a faulty row all rows are remarked on that list another size
than that of their mode.  Otherwise those in front of the first faulty row are, and that row itself
if it can be read; nothing is said on the rows behind it. -/
theorem remarks_ofRows (rows : List Row) :
    ((∀ j, ¬ Faulty rows j) → (ofRows rows).warnings = rows.filterMap Row.sizeRemark?) ∧
    (∀ j row, FirstFaulty rows j → rows[j]? = some row →
      (∀ fault, row.reading = .error fault →
        (ofRows rows).warnings = (rows.take j).filterMap Row.sizeRemark?) ∧
      (∀ record, row.reading = .ok record →
        (ofRows rows).warnings
          = (rows.take j).filterMap Row.sizeRemark? ++ row.sizeRemark?.toList)) ∧
    ∀ (row : Row) (notice : Notice), row.sizeRemark? = some notice ↔ ∃ record,
      row.reading = .ok record ∧ ¬ Text.Decimal (Text.trim row.size.toList) record.mode.size ∧
      notice = .sizeIgnored row record.opcode record.mode ∧
      ∃ high low : Fin 16, record.opcode.toNat = 16 * high + low ∧
        notice.text = row.origin ++ ": " ++ record.mnemonic ++ " $"
          ++ String.ofList [Text.upperHex high, Text.upperHex low] ++ " lists size \""
          ++ String.ofList (Text.trim row.size.toList) ++ "\", using "
          ++ toString record.mode.size ++ " for " ++ record.mode.name := by
  refine ⟨fun hgood => ?_, fun j row hfirst hrow => ?_, fun row notice => ?_⟩
  · obtain ⟨draft, hrun, -⟩ := Draft.exists_holds_of_not_faulty hgood
    have hcount : [Notice.merged draft.count draft.groups.length
        (ofDraft draft).dispatch.length].filter (·.level == .warning) = [] := rfl
    rw [Traced.warnings, notices_ofRows_of_ok hrun, List.filter_append, filter_remarks, hcount,
      List.append_nil]
  · have hremarks := remarks_of_firstFaulty hfirst hrow
    refine ⟨fun fault hfault => ?_, fun record _ => hremarks⟩
    rw [hremarks, Row.sizeRemark?_of_error hfault, Option.toList_none, List.append_nil]
  · rw [Row.sizeRemark?_eq_some]
    refine exists_congr fun record => and_congr_right fun hreading => and_congr_right fun _ => ?_
    refine (and_iff_left_of_imp ?_).symm
    rintro rfl
    rw [Row.mnemonic_of_reading hreading]
    exact Notice.text_sizeIgnored row record.opcode record.mode

end InstructionSet

end OpcodeTable
