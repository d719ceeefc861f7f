import OpcodeTable.InstructionSet
import OpcodeTable.Proofs.Reading

/-!
# Proofs/Draft — what a table under construction holds

A draft that has taken rows holds exactly their records, spread over its groups, and its index puts
each opcode at the place its record has among all of them (`Draft.Holds`).  `Draft.Holds.add_cases`
says what one row more can do to such a draft; over a whole list this makes the first faulty row the
only reason to stop (`Draft.exists_holds_of_not_faulty`).
-/

namespace OpcodeTable

/-! ## Rows that cannot be taken -/

/-- Two rows read as records of one opcode. -/
def Row.SharesOpcode (first second : Row) : Prop :=
  ∃ record record', first.reading = .ok record ∧ second.reading = .ok record' ∧
    record.opcode = record'.opcode

/-- **Row `j` is faulty**: it does not read as a record, or an earlier row shares its opcode. -/
def Faulty (rows : List Row) (j : Nat) : Prop :=
  ∃ row, rows[j]? = some row ∧
    ((∃ fault, row.reading = .error fault) ∨
      ∃ i earlier, i < j ∧ rows[i]? = some earlier ∧ earlier.SharesOpcode row)

/-- **Row `j` is the first faulty one.** -/
def FirstFaulty (rows : List Row) (j : Nat) : Prop := Faulty rows j ∧ ∀ i < j, ¬ Faulty rows i

/-- Whether a row is faulty depends on it and the rows before it only. -/
theorem Faulty.of_getElem?_eq {rows rows' : List Row} {j : Nat}
    (h : ∀ i ≤ j, rows[i]? = rows'[i]?) (hfaulty : Faulty rows j) : Faulty rows' j := by
  obtain ⟨row, hrow, hfault | ⟨i, earlier, hi, hearlier, hshare⟩⟩ := hfaulty
  · exact ⟨row, (h j (Nat.le_refl j)).symm.trans hrow, .inl hfault⟩
  · exact ⟨row, (h j (Nat.le_refl j)).symm.trans hrow,
      .inr ⟨i, earlier, hi, (h i (Nat.le_of_lt hi)).symm.trans hearlier, hshare⟩⟩

/-- **Rows that read as records of distinct opcodes** are none of them faulty. -/
theorem not_faulty_of_readings {rows : List Row} {records : List Record}
    (hreadings : rows.map Row.reading = records.map .ok)
    (hnodup : (records.map (·.opcode)).Nodup) (j : Nat) : ¬ Faulty rows j := by
  have hrecord : ∀ {i : Nat} {row : Row} {record : Record}, rows[i]? = some row →
      row.reading = .ok record → records[i]? = some record := by
    intro i row record hrow hreading
    have hi := congrArg (·[i]?) hreadings
    simp only [List.getElem?_map, hrow, Option.map_some, hreading] at hi
    obtain ⟨other, hother, hsame⟩ := Option.map_eq_some_iff.1 hi.symm
    rwa [← Except.ok.inj hsame]
  rintro ⟨row, hrow, ⟨fault, hfault⟩ | ⟨i, earlier, hij, hearlier, first, second, hfirst, hsecond,
    hopcode⟩⟩
  · have hmem : row.reading ∈ records.map .ok :=
      hreadings ▸ List.mem_map_of_mem (List.mem_of_getElem? hrow)
    obtain ⟨record, -, hok⟩ := List.mem_map.1 hmem
    rw [hfault] at hok
    cases hok
  · obtain ⟨hi, hfirst⟩ := List.getElem?_eq_some_iff.1 (hrecord hearlier hfirst)
    obtain ⟨hj, hsecond⟩ := List.getElem?_eq_some_iff.1 (hrecord hrow hsecond)
    have hne := List.pairwise_iff_getElem.1 hnodup i j (by simpa) (by simpa) hij
    simp only [List.getElem_map, hfirst, hsecond] at hne
    exact hne hopcode

namespace Draft

variable {draft : Draft} {rows : List Row} {row : Row} {record : Record}

/-! ## One row more, case by case -/

theorem outcome_add_of_error (draft : Draft) {fault : Fault} (h : row.reading = .error fault) :
    (draft.add row).outcome = .error fault := by
  rw [add, Traced.bind_of_error h]

theorem outcome_add_of_some {position : Nat} (h : row.reading = .ok record)
    (hposition : draft.index.position? record.opcode = some position) :
    (draft.add row).outcome = .error
      ⟨.duplicateOpcode record.opcode (draft.mnemonicAt position) record.mnemonic, row.origin⟩ := by
  rw [add, Traced.bind_of_ok h]
  simp only [hposition, Traced.outcome_fail]

theorem outcome_add_of_none (h : row.reading = .ok record)
    (hposition : draft.index.position? record.opcode = none) :
    (draft.add row).outcome = .ok (draft.push record) := by
  rw [add, Traced.bind_of_ok h]
  simp only [hposition, Traced.outcome_pure]

/-! ## The invariant -/

/-- **The draft holds the rows**: its records are what they read as, counted and in order, and the
index has for each opcode the position of its record and no other. -/
structure Holds (draft : Draft) (rows : List Row) : Prop where
  readings : rows.map Row.reading = draft.records.map .ok
  count_eq : draft.count = draft.records.length
  position?_eq_some : ∀ opcode position, draft.index.position? opcode = some position
    ↔ ∃ record, draft.records[position]? = some record ∧ record.opcode = opcode

theorem holds_empty : empty.Holds [] where
  readings := rfl
  count_eq := rfl
  position?_eq_some opcode position := by simp [empty, records]

namespace Holds

/-- Row `i` and record `i` belong together. -/
theorem getElem?_reading (h : draft.Holds rows) (i : Nat) :
    rows[i]?.map Row.reading = draft.records[i]?.map .ok := by
  rw [← List.getElem?_map, ← List.getElem?_map, h.readings]

theorem exists_record (h : draft.Holds rows) {i : Nat} (hrow : rows[i]? = some row) :
    ∃ record, draft.records[i]? = some record ∧ row.reading = .ok record := by
  have hi := h.getElem?_reading i
  rw [hrow, Option.map_some, eq_comm, Option.map_eq_some_iff] at hi
  obtain ⟨record, hrecord, hreading⟩ := hi
  exact ⟨record, hrecord, hreading.symm⟩

theorem exists_row (h : draft.Holds rows) {i : Nat} (hrecord : draft.records[i]? = some record) :
    ∃ row, rows[i]? = some row ∧ row.reading = .ok record := by
  have hi := h.getElem?_reading i
  rw [hrecord, Option.map_some, Option.map_eq_some_iff] at hi
  exact hi

theorem length_eq (h : draft.Holds rows) : draft.records.length = rows.length := by
  have hlength := congrArg List.length h.readings
  rw [List.length_map, List.length_map] at hlength
  exact hlength.symm

/-- **An opcode is recorded at one place only**: the index has room for one position. -/
theorem position_unique (h : draft.Holds rows) {i j : Nat} {record record' : Record}
    (hi : draft.records[i]? = some record) (hj : draft.records[j]? = some record')
    (hopcode : record.opcode = record'.opcode) : i = j := by
  have hindex := (h.position?_eq_some record.opcode i).2 ⟨record, hi, rfl⟩
  have hindex' := (h.position?_eq_some record.opcode j).2 ⟨record', hj, hopcode.symm⟩
  exact Option.some.inj (hindex.symm.trans hindex')

/-- **The opcodes of a draft are pairwise distinct.** -/
theorem nodup_opcodes (h : draft.Holds rows) : (draft.records.map (·.opcode)).Nodup := by
  refine List.pairwise_iff_getElem.2 fun i j hi hj hij hopcode => ?_
  rw [List.getElem_map, List.getElem_map] at hopcode
  rw [List.length_map] at hi hj
  have hsame := h.position_unique (List.getElem?_eq_getElem hi) (List.getElem?_eq_getElem hj)
    hopcode
  exact Nat.ne_of_lt hij hsame

/-- Every record of a draft is what one of its rows reads as. -/
theorem exists_reading (h : draft.Holds rows) (hrecord : record ∈ draft.records) :
    ∃ row ∈ rows, row.reading = .ok record := by
  obtain ⟨i, hi⟩ := List.mem_iff_getElem?.1 hrecord
  obtain ⟨row, hrow, hreading⟩ := h.exists_row hi
  exact ⟨row, List.mem_of_getElem? hrow, hreading⟩

/-- At most one row of a draft shares its opcode with a given row. -/
theorem eq_of_sharesOpcode (h : draft.Holds rows) {i j : Nat} {first second : Row}
    (hi : rows[i]? = some first) (hj : rows[j]? = some second) (hfirst : first.SharesOpcode row)
    (hsecond : second.SharesOpcode row) : i = j := by
  obtain ⟨record, other, hreading, hother, hopcode⟩ := hfirst
  obtain ⟨record', other', hreading', hother', hopcode'⟩ := hsecond
  obtain rfl := Except.ok.inj (hother.symm.trans hother')
  obtain ⟨_, hrecord, hreads⟩ := h.exists_record hi
  obtain ⟨_, hrecord', hreads'⟩ := h.exists_record hj
  obtain rfl := Except.ok.inj (hreads.symm.trans hreading)
  obtain rfl := Except.ok.inj (hreads'.symm.trans hreading')
  exact h.position_unique hrecord hrecord' (hopcode.trans hopcode'.symm)

/-- **No row of a draft is faulty.** -/
theorem not_faulty (h : draft.Holds rows) (j : Nat) : ¬ Faulty rows j :=
  not_faulty_of_readings h.readings h.nodup_opcodes j

/-! ## The invariant, one row later -/

/-- An item of a list with one more item is an old one or the new one behind them. -/
theorem getElem?_concat_eq_some {α : Type} {items : List α} {item other : α} {i : Nat} :
    (items ++ [item])[i]? = some other
      ↔ items[i]? = some other ∨ i = items.length ∧ item = other := by
  rcases Nat.lt_trichotomy i items.length with hlt | rfl | hgt
  · rw [List.getElem?_append_left hlt]
    exact ⟨.inl, fun h => h.resolve_right fun hlast => Nat.ne_of_lt hlt hlast.1⟩
  · simp
  · have hlen : (items ++ [item]).length ≤ i := by simp; omega
    rw [List.getElem?_eq_none hlen, List.getElem?_eq_none (Nat.le_of_lt hgt)]
    simp [Nat.ne_of_gt hgt]

/-- **A record of a new opcode keeps the invariant**: it comes last, at the position the count has
reached. -/
theorem push (h : draft.Holds rows) (hreading : row.reading = .ok record)
    (hnew : draft.index.position? record.opcode = none) :
    (draft.push record).Holds (rows ++ [row]) where
  readings := by
    rw [List.map_append, h.readings, records_push, List.map_append, List.map_singleton, hreading]
    rfl
  count_eq := by
    rw [count_push, h.count_eq, records_push, List.length_append, List.length_singleton]
  position?_eq_some opcode position := by
    have hold := h.position?_eq_some opcode position
    have hindex : (draft.push record).index = draft.index.insert record.opcode draft.count := rfl
    rw [hindex, Index.position?_insert, records_push, h.count_eq]
    simp only [getElem?_concat_eq_some]
    by_cases hopcode : record.opcode = opcode
    · subst hopcode
      rw [if_pos rfl, Option.some.injEq]
      constructor
      · rintro rfl
        exact ⟨record, .inr ⟨rfl, rfl⟩, rfl⟩
      · rintro ⟨other, hother | ⟨rfl, -⟩, hsame⟩
        · have hsome := hold.2 ⟨other, hother, hsame⟩
          rw [hnew] at hsome
          cases hsome
        · rfl
    · rw [if_neg hopcode, hold]
      constructor
      · rintro ⟨other, hother, hsame⟩
        exact ⟨other, .inl hother, hsame⟩
      · rintro ⟨other, hother | ⟨-, rfl⟩, hsame⟩
        · exact ⟨other, hother, hsame⟩
        · exact absurd hsame hopcode

/-- **What one row more does** to a draft: it cannot be read, or an earlier row shares its opcode
and both are named, or its record is pushed. -/
theorem add_cases (h : draft.Holds rows) (row : Row) :
    (∃ fault, row.reading = .error fault ∧ (draft.add row).outcome = .error fault) ∨
    (∃ (record : Record) (i : Nat) (earlier : Row), row.reading = .ok record ∧
      rows[i]? = some earlier ∧ earlier.SharesOpcode row ∧ (draft.add row).outcome
        = .error ⟨.duplicateOpcode record.opcode earlier.mnemonic row.mnemonic, row.origin⟩) ∨
    ∃ record, row.reading = .ok record ∧ (draft.add row).outcome = .ok (draft.push record) ∧
      (draft.push record).Holds (rows ++ [row]) := by
  cases hreading : row.reading with
  | error fault =>
    exact .inl ⟨fault, rfl, outcome_add_of_error draft hreading⟩
  | ok record =>
    cases hposition : draft.index.position? record.opcode with
    | some position =>
      obtain ⟨other, hother, hopcode⟩ := (h.position?_eq_some record.opcode position).1 hposition
      obtain ⟨earlier, hearlier, hreads⟩ := h.exists_row hother
      have hname : draft.mnemonicAt position = earlier.mnemonic := by
        rw [mnemonicAt, hother, Option.map_some, Option.getD_some, Row.mnemonic_of_reading hreads]
      refine .inr (.inl ⟨record, position, earlier, rfl, hearlier,
        ⟨other, record, hreads, hreading, hopcode⟩, ?_⟩)
      rw [outcome_add_of_some hreading hposition, hname, Row.mnemonic_of_reading hreading]
    | none =>
      exact .inr (.inr ⟨record, rfl, outcome_add_of_none hreading hposition,
        h.push hreading hposition⟩)

/-! ## A list of rows -/

/-- **The invariant along a run**: what a draft ends up with are the rows it held and those it
took. -/
theorem foldlM : ∀ {later rows : List Row} {draft reached : Draft}, draft.Holds rows →
    (later.foldlM Draft.add draft).outcome = .ok reached → reached.Holds (rows ++ later) := by
  intro later
  induction later with
  | nil =>
    intro rows draft reached h hrun
    obtain rfl : draft = reached := Except.ok.inj hrun
    rwa [List.append_nil]
  | cons row later ih =>
    intro rows draft reached h hrun
    rw [List.foldlM_cons, Traced.outcome_bind_eq_ok] at hrun
    obtain ⟨next, hadd, hrest⟩ := hrun
    have hnext : next.Holds (rows ++ [row]) := by
      rcases h.add_cases row with ⟨fault, -, hfault⟩ | ⟨_, _, _, -, -, -, hfault⟩ |
        ⟨record, -, hpush, hholds⟩
      · rw [hfault] at hadd
        cases hadd
      · rw [hfault] at hadd
        cases hadd
      · rw [hpush] at hadd
        obtain rfl := Except.ok.inj hadd
        exact hholds
    have hreached := ih hnext hrest
    rwa [List.append_assoc, List.singleton_append] at hreached

end Holds

/-- A row that a draft cannot take is faulty behind the rows the draft holds. -/
theorem Holds.faulty_of_add (h : draft.Holds rows) {fault : Fault} (later : List Row)
    (hadd : (draft.add row).outcome = .error fault) :
    Faulty (rows ++ row :: later) rows.length := by
  refine ⟨row, by simp, ?_⟩
  rcases h.add_cases row with ⟨fault, hfault, -⟩ | ⟨_, i, earlier, -, hearlier, hshare, -⟩ |
    ⟨record, -, hpush, -⟩
  · exact .inl ⟨fault, hfault⟩
  · have hi := (List.getElem?_eq_some_iff.1 hearlier).1
    exact .inr ⟨i, earlier, hi, (List.getElem?_append_left hi).trans hearlier, hshare⟩
  · rw [hpush] at hadd
    cases hadd

/-- **Only a faulty row stops a run**: without one, all rows are taken. -/
theorem exists_holds_of_not_faulty (h : ∀ j, ¬ Faulty rows j) :
    ∃ draft, (rows.foldlM add empty).outcome = .ok draft ∧ draft.Holds rows := by
  cases hrun : (rows.foldlM add empty).outcome with
  | ok draft => exact ⟨draft, rfl, holds_empty.foldlM hrun⟩
  | error fault =>
    obtain ⟨before, row, later, reached, rfl, hbefore, hadd⟩ :=
      Traced.exists_step_of_foldlM_error hrun
    have hholds : reached.Holds before := holds_empty.foldlM hbefore
    exact absurd (hholds.faulty_of_add later hadd) (h before.length)

/-- **What stops a run**: the rows in front of the first faulty one are all taken, and that row
cannot be read, or one of them shares its opcode. -/
theorem exists_holds_of_firstFaulty {j : Nat} (h : FirstFaulty rows j)
    (hrow : rows[j]? = some row) :
    ∃ draft, ((rows.take j).foldlM add empty).outcome = .ok draft ∧ draft.Holds (rows.take j) ∧
      ((∃ fault, row.reading = .error fault ∧ (draft.add row).outcome = .error fault) ∨
      ∃ (record : Record) (i : Nat) (earlier : Row), row.reading = .ok record ∧
        (rows.take j)[i]? = some earlier ∧ earlier.SharesOpcode row ∧ (draft.add row).outcome
          = .error ⟨.duplicateOpcode record.opcode earlier.mnemonic row.mnemonic, row.origin⟩) := by
  have hgood : ∀ i, ¬ Faulty (rows.take j) i := by
    intro i hi
    have hlt : i < (rows.take j).length := by
      obtain ⟨row, hrow, -⟩ := hi
      exact (List.getElem?_eq_some_iff.1 hrow).1
    rw [List.length_take] at hlt
    exact h.2 i (by omega) (hi.of_getElem?_eq fun k hk => List.getElem?_take_of_lt (by omega))
  obtain ⟨draft, hrun, hholds⟩ := exists_holds_of_not_faulty hgood
  refine ⟨draft, hrun, hholds, ?_⟩
  rcases hholds.add_cases row with hfault | hshare | ⟨record, -, -, hpushed⟩
  · exact .inl hfault
  · exact .inr hshare
  · have htake : rows.take (j + 1) = rows.take j ++ [row] := by
      rw [List.take_add_one, hrow, Option.toList_some]
    rw [← htake] at hpushed
    have hfaulty : Faulty (rows.take (j + 1)) j :=
      h.1.of_getElem?_eq fun k hk => (List.getElem?_take_of_lt (by omega)).symm
    exact absurd hfaulty (hpushed.not_faulty j)

/-- A run stops at the first faulty row. -/
theorem exists_stopsAt_of_firstFaulty {j : Nat} (h : FirstFaulty rows j) :
    ∃ fault, Traced.StopsAt add empty rows j fault := by
  obtain ⟨row, hrow, -⟩ := h.1
  obtain ⟨draft, hbefore, -, hcases⟩ := exists_holds_of_firstFaulty h hrow
  rcases hcases with ⟨fault, -, hadd⟩ | ⟨_, _, _, -, -, -, hadd⟩
  · exact ⟨fault, draft, row, hrow, hbefore, hadd⟩
  · exact ⟨_, draft, row, hrow, hbefore, hadd⟩

end Draft

end OpcodeTable
