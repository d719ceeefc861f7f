import Mathlib.Data.Fintype.Card
import OpcodeTable.Proofs.Digit
import OpcodeTable.Proofs.Draft

/-!
# Proofs/InstructionSet — which rows make a set, and how its index answers

Rows make an instruction set exactly when none of them is faulty, and then its records are what the
rows read as; otherwise the first faulty row is the fault of them all (`outcome_ofRows`).  The index
of a set is the inverse of its list of records (`lookup_ofRows`).
-/

namespace OpcodeTable.InstructionSet

open Traced (outcome_foldlM_take_succ)

variable {rows : List Row} {set : InstructionSet} {fault : Fault}

/-! ## A set is a finished draft -/

theorem outcome_ofRows_eq_ok :
    (ofRows rows).outcome = .ok set
      ↔ ∃ draft, (rows.foldlM Draft.add .empty).outcome = .ok draft ∧ ofDraft draft = set := by
  rw [ofRows, Traced.outcome_bind_eq_ok]
  exact exists_congr fun draft => and_congr_right fun _ => ⟨Except.ok.inj, congrArg Except.ok⟩

theorem outcome_ofRows_of_error (h : (rows.foldlM Draft.add .empty).outcome = .error fault) :
    (ofRows rows).outcome = .error fault := by
  rw [ofRows, Traced.bind_of_error h]

/-- **A set comes from a draft that holds its rows.** -/
theorem exists_holds_of_ofRows (h : (ofRows rows).outcome = .ok set) :
    ∃ draft : Draft, draft.Holds rows ∧ ofDraft draft = set := by
  obtain ⟨draft, hrun, hset⟩ := outcome_ofRows_eq_ok.1 h
  exact ⟨draft, Draft.holds_empty.foldlM hrun, hset⟩

/-- **Rows make a set** exactly if they read as records of distinct opcodes, and then these are the
records of the set. -/
theorem exists_ofRows_iff {records : List Record} :
    (∃ set, (ofRows rows).outcome = .ok set ∧ set.records = records)
      ↔ rows.map Row.reading = records.map .ok ∧ (records.map (·.opcode)).Nodup := by
  constructor
  · rintro ⟨set, hset, rfl⟩
    obtain ⟨draft, hholds, rfl⟩ := exists_holds_of_ofRows hset
    exact ⟨hholds.readings, hholds.nodup_opcodes⟩
  · rintro ⟨hreadings, hnodup⟩
    obtain ⟨draft, hrun, hholds⟩ :=
      Draft.exists_holds_of_not_faulty (not_faulty_of_readings hreadings hnodup)
    have hsame : draft.records.map Except.ok = records.map (Except.ok (ε := Fault)) :=
      hholds.readings.symm.trans hreadings
    exact ⟨ofDraft draft, outcome_ofRows_eq_ok.2 ⟨draft, hrun, rfl⟩,
      List.map_injective_iff.2 (fun _ _ => Except.ok.inj) hsame⟩

/-- Rows behind a fault change nothing. -/
theorem ofRows_append_of_error (h : (rows.foldlM Draft.add .empty).outcome = .error fault)
    (later : List Row) : ofRows (rows ++ later) = ofRows rows := by
  rw [ofRows, Traced.foldlM_append_of_error h, ← ofRows]

/-! ## The outcome -/

theorem outcome_ofRows_of_stopsAt {j : Nat} (h : Traced.StopsAt Draft.add .empty rows j fault) :
    (ofRows rows).outcome = .error fault :=
  outcome_ofRows_of_error h.outcome

/-- **The report on an opcode that two rows claim.** -/
theorem report_duplicateOpcode (opcode : UInt8) (earlier later origin : String) :
    ∃ high low : Fin 16, opcode.toNat = 16 * high + low ∧
      Fault.report ⟨.duplicateOpcode opcode earlier later, some origin⟩
        = ⟨.duplicateEncoding, Cause.banner ++ "opcode $"
            ++ String.ofList [Text.upperHex high, Text.upperHex low] ++ " claimed by both "
            ++ earlier ++ " and " ++ later, some origin⟩ := by
  obtain ⟨high, low, hvalue, hdigits⟩ := Text.exists_hexByte_eq opcode
  refine ⟨high, low, hvalue, ?_⟩
  have hmessage : (Cause.duplicateOpcode opcode earlier later).message
      = Cause.banner ++ ("opcode " ++ Cause.dollarHex opcode ++ " claimed by both " ++ earlier
        ++ " and " ++ later) := rfl
  have hopening : "opcode $" = "opcode " ++ "$" := by decide
  rw [Fault.report, hmessage, Cause.dollarHex, hdigits, hopening]
  simp only [Cause.kind, String.append_assoc]

/-- **The outcome of a list of rows.**  Without a faulty row there is a set, whose records are what
the rows read as.  Otherwise the first faulty row decides: it fails as it does on its own, or the
one earlier row with its opcode is named next to it.  Rows behind it change nothing at all. -/
theorem outcome_ofRows (rows : List Row) :
    ((∀ j, ¬ Faulty rows j) →
      ∃ set, (ofRows rows).outcome = .ok set ∧ rows.map Row.reading = set.records.map .ok) ∧
    ∀ j row, FirstFaulty rows j → rows[j]? = some row →
      (∀ fault, row.reading = .error fault → (ofRows rows).outcome = .error fault) ∧
      (∀ record, row.reading = .ok record →
        ∃ (i : Nat) (earlier : Row) (fault : Fault),
          i < j ∧ rows[i]? = some earlier ∧ earlier.SharesOpcode row ∧
          (∀ i' other, i' < j → rows[i']? = some other → other.SharesOpcode row → i' = i) ∧
          (ofRows rows).outcome = .error fault ∧
          ∃ high low : Fin 16, record.opcode.toNat = 16 * high + low ∧
            fault.report = ⟨.duplicateEncoding, Cause.banner ++ "opcode $"
              ++ String.ofList [Text.upperHex high, Text.upperHex low] ++ " claimed by both "
              ++ earlier.mnemonic ++ " and " ++ row.mnemonic, some row.origin⟩) ∧
      ∀ later, ofRows (rows.take (j + 1) ++ later) = ofRows rows := by
  refine ⟨fun hgood => ?_, fun j row hfirst hrow => ?_⟩
  · obtain ⟨draft, hrun, hholds⟩ := Draft.exists_holds_of_not_faulty hgood
    exact ⟨ofDraft draft, outcome_ofRows_eq_ok.2 ⟨draft, hrun, rfl⟩, hholds.readings⟩
  obtain ⟨draft, hbefore, hholds, hcases⟩ := Draft.exists_holds_of_firstFaulty hfirst hrow
  -- the row ends the run, whichever of its two faults it has
  have hstop : ∀ fault, (draft.add row).outcome = .error fault →
      (ofRows rows).outcome = .error fault ∧
        ∀ later, ofRows (rows.take (j + 1) ++ later) = ofRows rows := by
    intro fault hadd
    have hrun := outcome_foldlM_take_succ hrow hbefore hadd
    have hrows := ofRows_append_of_error hrun (rows.drop (j + 1))
    rw [List.take_append_drop] at hrows
    rw [hrows]
    exact ⟨outcome_ofRows_of_error hrun, ofRows_append_of_error hrun⟩
  rcases hcases with ⟨fault, hfault, hadd⟩ | ⟨record, i, earlier, hreading, hearlier, hshare, hadd⟩
  · refine ⟨fun other hother => ?_, fun record hrecord => ?_, (hstop fault hadd).2⟩
    · obtain rfl := Except.error.inj (hfault.symm.trans hother)
      exact (hstop _ hadd).1
    · rw [hfault] at hrecord
      cases hrecord
  · refine ⟨fun other hother => ?_, fun record' hrecord => ?_, (hstop _ hadd).2⟩
    · rw [hreading] at hother
      cases hother
    · obtain rfl := Except.ok.inj (hreading.symm.trans hrecord)
      have hi : i < j := by
        have hlt := (List.getElem?_eq_some_iff.1 hearlier).1
        rw [List.length_take] at hlt
        omega
      refine ⟨i, earlier, _, hi, (List.getElem?_take_of_lt hi).symm.trans hearlier, hshare,
        fun i' other hi' hother hshare' => ?_, (hstop _ hadd).1,
        report_duplicateOpcode record.opcode earlier.mnemonic row.mnemonic _⟩
      exact hholds.eq_of_sharesOpcode ((List.getElem?_take_of_lt hi').trans hother) hearlier
        hshare' hshare

/-! ## The index -/

/-- **Looking up an opcode** finds the one record that has it. -/
theorem byOpcode_eq_some {draft : Draft} (h : draft.Holds rows) {opcode : UInt8} {record : Record} :
    (ofDraft draft).byOpcode opcode = some record
      ↔ record ∈ draft.records ∧ record.opcode = opcode := by
  rw [byOpcode, Option.bind_eq_some_iff]
  constructor
  · rintro ⟨position, hposition, hrecord⟩
    obtain ⟨other, hother, hopcode⟩ := (h.position?_eq_some opcode position).1 hposition
    obtain rfl := Option.some.inj (hother.symm.trans hrecord)
    exact ⟨List.mem_of_getElem? hrecord, hopcode⟩
  · rintro ⟨hrecord, hopcode⟩
    obtain ⟨position, hposition⟩ := List.mem_iff_getElem?.1 hrecord
    exact ⟨position, (h.position?_eq_some opcode position).2 ⟨record, hposition, hopcode⟩,
      hposition⟩

theorem byOpcode_of_ofRows (h : (ofRows rows).outcome = .ok set) {opcode : UInt8}
    {record : Record} :
    set.byOpcode opcode = some record ↔ record ∈ set.records ∧ record.opcode = opcode := by
  obtain ⟨draft, hholds, rfl⟩ := exists_holds_of_ofRows h
  exact byOpcode_eq_some hholds

/-- There are 256 opcodes, and a draft has each of them once. -/
theorem length_le_of_holds {draft : Draft} (h : draft.Holds rows) : rows.length ≤ 256 := by
  have hinjective : Function.Injective UInt8.toFin := fun _ _ => UInt8.toFin_inj.1
  have hcard := (h.nodup_opcodes.map hinjective).length_le_card
  rwa [List.length_map, List.length_map, h.length_eq, Fintype.card_fin] at hcard

/-- The size texts of the rows play no part in the outcome. -/
theorem outcome_ofRows_withSize (text : String) (rows : List Row) :
    (ofRows (rows.map (Row.withSize text))).outcome = (ofRows rows).outcome := by
  have hadd : ∀ (draft : Draft) (row : Row),
      (draft.add (row.withSize text)).outcome = (draft.add row).outcome := fun draft row =>
    Traced.outcome_bind_congr (Row.reading_withSize text row) fun record => rfl
  rw [ofRows, List.foldlM_map]
  exact Traced.outcome_bind_congr (Traced.outcome_foldlM_congr hadd rows Draft.empty) fun _ => rfl

/-- **The index is the inverse of the list of records.**  An opcode leads to the record that has it
and to none if no record does; no position points outside the records; no opcode occurs twice, so
more than 256 rows are never a set.  A record's size is that of its mode, and the size texts of the
rows have no influence. -/
theorem lookup_ofRows (rows : List Row) :
    (∀ set, (ofRows rows).outcome = .ok set →
      (∀ opcode record, set.byOpcode opcode = some record
        ↔ record ∈ set.records ∧ record.opcode = opcode) ∧
      (∀ opcode, set.byOpcode opcode = none ↔ ∀ record ∈ set.records, record.opcode ≠ opcode) ∧
      (∀ opcode position, set.index.position? opcode = some position →
        position < set.records.length) ∧
      (set.records.map (·.opcode)).Nodup ∧ set.records.length = rows.length ∧ rows.length ≤ 256 ∧
      ∀ record ∈ set.records,
        record.size = record.mode.size ∧ 1 ≤ record.size ∧ record.size ≤ 3) ∧
    (256 < rows.length → ∃ fault, (ofRows rows).outcome = .error fault) ∧
    ∀ rows', rows'.map (Row.withSize "") = rows.map (Row.withSize "") →
      (ofRows rows').outcome = (ofRows rows).outcome := by
  refine ⟨fun set hset => ?_, fun hmany => ?_, fun rows' hsizes => ?_⟩
  · obtain ⟨draft, hholds, rfl⟩ := exists_holds_of_ofRows hset
    refine ⟨fun _ _ => byOpcode_eq_some hholds, fun opcode => ?_,
      fun opcode position hposition => ?_, hholds.nodup_opcodes, hholds.length_eq,
      length_le_of_holds hholds, fun record hrecord => ?_⟩
    · simp only [Option.eq_none_iff_forall_ne_some, ne_eq, byOpcode_eq_some hholds, not_and]
      rfl
    · obtain ⟨record, hrecord, -⟩ := (hholds.position?_eq_some opcode position).1 hposition
      exact (List.getElem?_eq_some_iff.1 hrecord).1
    · obtain ⟨row, -, hreading⟩ := hholds.exists_reading hrecord
      have hsize := Row.size_of_reading hreading
      rw [hsize]
      exact ⟨rfl, record.mode.one_le_size, record.mode.size_le_three⟩
  · cases hrun : (ofRows rows).outcome with
    | error fault => exact ⟨fault, rfl⟩
    | ok set =>
      obtain ⟨draft, hholds, -⟩ := exists_holds_of_ofRows hrun
      exact absurd (length_le_of_holds hholds) (Nat.not_le.2 hmany)
  · rw [← outcome_ofRows_withSize "" rows', hsizes, outcome_ofRows_withSize]

end OpcodeTable.InstructionSet
