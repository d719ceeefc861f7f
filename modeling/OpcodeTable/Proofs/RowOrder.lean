import Mathlib.Data.List.Forall2
import Mathlib.Data.List.Perm.Basic
import OpcodeTable.Proofs.Dispatch

/-!
# Proofs/RowOrder — what the order of the rows decides

Reordered rows read as the reordered records (`exists_perm_readings`), so they make a set again: it
finds the same record under each opcode and dispatches the same names, since neither depends on an
order.  Only where two rows of one reference change places can the dispatch list differ, in the
order of its entries and in the mnemonic an entry is recorded with (`ofRows_perm`).
-/

namespace OpcodeTable

/-! ## Reordered rows -/

/-- Rows read as records, row by row. -/
theorem map_reading_eq_iff {rows : List Row} {records : List Record} :
    rows.map Row.reading = records.map .ok
      ↔ List.Forall₂ (fun row record => row.reading = .ok record) rows records := by
  rw [← List.forall₂_eq_eq_eq, List.forall₂_map_left_iff, List.forall₂_map_right_iff]

/-- **Reordered rows read as the reordered records.** -/
theorem exists_perm_readings {rows rows' : List Row} {records : List Record}
    (hperm : rows.Perm rows') (h : rows.map Row.reading = records.map .ok) :
    ∃ records', records.Perm records' ∧ rows'.map Row.reading = records'.map .ok := by
  obtain ⟨records', hreads, hrecords⟩ :=
    List.perm_comp_forall₂ hperm.symm (map_reading_eq_iff.1 h)
  exact ⟨records', hrecords.symm, map_reading_eq_iff.2 hreads⟩

/-- **The rows of one reference** read as the records of that reference. -/
theorem readings_ofReference (source : Source) {rows : List Row} {records : List Record}
    (h : rows.map Row.reading = records.map .ok) :
    (rows.filter (·.source = source)).map Row.reading
      = (Record.ofReference (source == .official) records).map .ok := by
  rw [map_reading_eq_iff] at h ⊢
  induction h with
  | nil => exact .nil
  | @cons row record rows records hrow _ ih =>
    have hsource : (record.official == (source == .official)) = decide (row.source = source) := by
      rw [Row.official_of_reading hrow]
      cases row.source <;> cases source <;> rfl
    rw [Record.ofReference, List.filter_cons, List.filter_cons, hsource]
    split
    · exact .cons hrow ih
    · exact ih

namespace IsDispatchOf

variable {records records' : List Record} {dispatch dispatch' : List DispatchEntry}

/-- **An entry of a dispatch list**, its mnemonic aside, is also one of the reordered records. -/
theorem exists_mem_of_perm (hperm : records.Perm records') (h : IsDispatchOf records dispatch)
    (h' : IsDispatchOf records' dispatch') {name handler : String} {official : Bool}
    (hentry : ∃ mnemonic, ⟨mnemonic, name, handler, official⟩ ∈ dispatch) :
    ∃ mnemonic, ⟨mnemonic, name, handler, official⟩ ∈ dispatch' := by
  obtain ⟨mnemonic, hentry⟩ := hentry
  have hname : name ∈ records.map Record.canonical :=
    (h.mem_iff name).1 (List.mem_map_of_mem hentry)
  obtain ⟨entry', hentry', hsame⟩ :=
    List.mem_map.1 ((h'.mem_iff name).2 ((hperm.map Record.canonical).mem_iff.1 hname))
  have hofficial : official = entry'.official := official_eq hperm h h' hentry hentry' hsame.symm
  have hhandler : handler = entry'.handler := h.handler_eq_of_canonical h' hentry hentry' hsame.symm
  subst hsame hofficial hhandler
  exact ⟨entry'.mnemonic, hentry'⟩

end IsDispatchOf

/-! ## The sets they make -/

namespace InstructionSet

variable {rows rows' : List Row} {set set' : InstructionSet}

theorem readings_of_ofRows (h : (ofRows rows).outcome = .ok set) :
    rows.map Row.reading = set.records.map .ok := (exists_ofRows_iff.1 ⟨set, h, rfl⟩).1

theorem isDispatchOf_of_ofRows (h : (ofRows rows).outcome = .ok set) :
    IsDispatchOf set.records set.dispatch := by
  obtain ⟨draft, -, rfl⟩ := exists_holds_of_ofRows h
  exact DispatchEntry.isDispatchOf_ofGroups draft.groups

/-- **The rows of each reference**, in their order, fix the dispatch list. -/
theorem dispatch_eq_of_filter_eq (h : (ofRows rows).outcome = .ok set)
    (h' : (ofRows rows').outcome = .ok set')
    (hsources : ∀ source, rows'.filter (·.source = source) = rows.filter (·.source = source)) :
    set'.dispatch = set.dispatch := by
  have hreference : ∀ source : Source, Record.ofReference (source == .official) set'.records
      = Record.ofReference (source == .official) set.records := by
    intro source
    have hmap := readings_ofReference source (readings_of_ofRows h')
    rw [hsources, readings_ofReference source (readings_of_ofRows h)] at hmap
    exact List.map_injective_iff.2 (fun _ _ => Except.ok.inj) hmap.symm
  have hasked : Record.asked set'.records = Record.asked set.records :=
    congrArg₂ (· ++ ·) (hreference .official) (hreference .unofficial)
  rw [dispatch_of_ofRows h', dispatch_of_ofRows h, hasked]

/-- **The order of the rows.**  Reordered rows make a set whenever the rows do.  Each opcode leads
to an equal record, and the dispatch list has the same canonical names with the same handlers, from
the same references.  If the rows of each reference keep their order, however the two are
interleaved, the dispatch list is the same, entry by entry. -/
theorem ofRows_perm (hperm : rows.Perm rows') (h : (ofRows rows).outcome = .ok set) :
    ∃ set', (ofRows rows').outcome = .ok set' ∧
      (∀ opcode, set'.byOpcode opcode = set.byOpcode opcode) ∧
      (∀ name handler official,
        (∃ mnemonic, ⟨mnemonic, name, handler, official⟩ ∈ set'.dispatch)
          ↔ ∃ mnemonic, ⟨mnemonic, name, handler, official⟩ ∈ set.dispatch) ∧
      ((∀ source, rows'.filter (·.source = source) = rows.filter (·.source = source)) →
        set'.dispatch = set.dispatch) := by
  obtain ⟨hreadings, hnodup⟩ := exists_ofRows_iff.1 ⟨set, h, rfl⟩
  obtain ⟨records', hrecords, hreadings'⟩ := exists_perm_readings hperm hreadings
  have hnodup' : (records'.map (·.opcode)).Nodup := (hrecords.map _).nodup_iff.1 hnodup
  obtain ⟨set', h', rfl⟩ := exists_ofRows_iff.2 ⟨hreadings', hnodup'⟩
  have hdispatch := isDispatchOf_of_ofRows h
  have hdispatch' := isDispatchOf_of_ofRows h'
  refine ⟨set', h', fun opcode => Option.ext fun record => ?_, fun name handler official => ?_,
    dispatch_eq_of_filter_eq h h'⟩
  · rw [byOpcode_of_ofRows h', byOpcode_of_ofRows h, hrecords.mem_iff]
  · exact ⟨hdispatch'.exists_mem_of_perm hrecords.symm hdispatch,
      hdispatch.exists_mem_of_perm hrecords hdispatch'⟩

/-- The rows of `interleavedRows`, those of the page in front. -/
def pageFirstRows : List Row :=
  interleavedRows.filter (·.source = .official) ++ interleavedRows.filter (·.source = .unofficial)

/-- Rows of both references in turn, and those of the page in front of the others: the records come
in two orders, but the opcodes lead to equal ones and the dispatch list is one. -/
theorem ofRows_perm_pageFirstRows : ∃ set set',
    (ofRows interleavedRows).outcome = .ok set ∧ (ofRows pageFirstRows).outcome = .ok set' ∧
      set'.records ≠ set.records ∧ (∀ opcode, set'.byOpcode opcode = set.byOpcode opcode) ∧
      set'.dispatch = set.dispatch := by
  have hperm : interleavedRows.Perm pageFirstRows := by decide
  have hsources : ∀ source, pageFirstRows.filter (·.source = source)
      = interleavedRows.filter (·.source = source) := by
    intro source
    cases source <;> decide
  have hsome : (ofRows interleavedRows).outcome.isOk = true := by decide +kernel
  cases h : (ofRows interleavedRows).outcome with
  | error fault =>
    rw [h] at hsome
    cases hsome
  | ok set =>
    obtain ⟨set', h', hbyOpcode, -, hdispatch⟩ := ofRows_perm hperm h
    refine ⟨set, set', rfl, h', fun hrecords => ?_, hbyOpcode, hdispatch hsources⟩
    have hreadings := (readings_of_ofRows h').trans (hrecords ▸ (readings_of_ofRows h).symm)
    exact absurd (congrArg List.head? hreadings) (by decide +kernel)

end InstructionSet

end OpcodeTable
