import OpcodeTable.Proofs.Dispatch
import OpcodeTable.Proofs.Line
import OpcodeTable.Proofs.Listing.Print
import OpcodeTable.Proofs.Listing.Rows

/-!
# Proofs/Listing/Reread — a printed listing is read as what was printed

Filler is skipped, each table takes the name of the heading above it, and each line of a table makes
one row; so the rows read as the records of the parts, in order (`Prints.readsAs`).  Merged on
their own they are an instruction set again, whose dispatch list has one entry for each name
(`ofRows_of_prints`).
-/

namespace OpcodeTable.Listing

variable {parts : List Part} {part : Part} {entry : Entry} {line : List Char}
  {lines rest top chunk : List (List Char)} {n tables : Nat} {spare : List String}
  {table : Option String} {name : String} {records : List Record} {record : Record} {row : Row}
  {run : Traced (List Row)}

/-! ## Runs and the records they read as -/

/-- **A run reads as the records** if it has a row for each of them, in order, and warns of
nothing. -/
def ReadsAs (run : Traced (List Row)) (records : List Record) : Prop :=
  ∃ notices rows, run = ⟨notices, "", .ok rows⟩ ∧
    (∀ notice ∈ notices, notice.level ≠ .warning) ∧ rows.map Row.reading = records.map .ok

namespace ReadsAs

theorem cons (hrow : row.reading = .ok record) (h : ReadsAs run records) :
    ReadsAs ((row :: ·) <$> run) (record :: records) := by
  obtain ⟨notices, rows, rfl, hquiet, hrows⟩ := h
  refine ⟨notices, row :: rows, Traced.map_ok _ _ _ _, hquiet, ?_⟩
  rw [List.map_cons, List.map_cons, hrow, hrows]

theorem notify {notice : Notice} (hnotice : notice.level ≠ .warning) (h : ReadsAs run records) :
    ReadsAs (do Traced.notify notice; run) records := by
  obtain ⟨notices, rows, rfl, hquiet, hrows⟩ := h
  exact ⟨notice :: notices, rows, Traced.notify_bind _ _ _,
    List.forall_mem_cons.2 ⟨hnotice, hquiet⟩, hrows⟩

end ReadsAs

/-! ## Chunks of lines -/

/-- **Lines without data are skipped**; at most they close the table. -/
theorem exists_rowsFrom_append : ∀ {chunk : List (List Char)} {n : Nat} {table : Option String},
    (∀ line ∈ chunk, ¬ DataLine line) → ∃ table',
      rowsFrom n spare table tables (chunk ++ rest)
        = rowsFrom (n + chunk.length) spare table' tables rest := by
  intro chunk
  induction chunk with
  | nil => intro n table _; exact ⟨table, rfl⟩
  | cons line chunk ih =>
    intro n table h
    obtain ⟨hline, hchunk⟩ := List.forall_mem_cons.1 h
    rw [List.cons_append, List.length_cons, Nat.add_comm chunk.length, ← Nat.add_assoc]
    by_cases hheader : HeaderLine line
    · rw [rowsFrom_header hheader]
      exact ih hchunk
    · rw [rowsFrom_other hheader hline]
      exact ih hchunk

/-- **The lines of entries are read** as their records where a table is open. -/
theorem readsAs_entries {entries : List Entry} (h : List.Forall₂ Entry.Prints entries lines)
    (hrest : ∀ n, ReadsAs (rowsFrom n spare (some name) tables rest) records) :
    ∀ n, ReadsAs (rowsFrom n spare (some name) tables (lines ++ rest))
      (entries.map (Entry.record name) ++ records) := by
  induction h with
  | nil => exact hrest
  | cons hentry _ ih =>
    intro n
    obtain ⟨row, hrow, hreading⟩ := hentry.exists_row name n
    rw [List.cons_append, rowsFrom_inTable hentry.dataLine hrow]
    exact (ih (n + 1)).cons hreading

/-- **A part is read** as its records, and its table takes the next name. -/
theorem Part.Prints.readsAs (h : part.Prints top)
    (hrest : ∀ n table tables, ReadsAs (rowsFrom n spare table tables rest) records) :
    ∀ n table tables, ReadsAs (rowsFrom n (part.name :: spare) table tables (top ++ rest))
      (part.records ++ records) := by
  intro n table tables
  obtain ⟨lead, rule, body, rfl, hlead, hrule, hbody⟩ := h.exists_table
  obtain ⟨table', hskip⟩ : ∃ table', rowsFrom n (part.name :: spare) table tables
      (lead ++ rule :: (body ++ rest))
        = rowsFrom (n + lead.length) (part.name :: spare) table' tables (rule :: (body ++ rest)) :=
    exists_rowsFrom_append hlead
  rw [List.append_assoc, List.cons_append, hskip, rowsFrom_header (.inr hrule)]
  -- the first entry opens the table, and the others find it open
  obtain ⟨first, others, hentries⟩ := List.exists_cons_of_ne_nil part.entries_ne_nil
  rw [hentries] at hbody
  rw [Part.records, hentries]
  cases hbody with
  | cons hentry hothers =>
    obtain ⟨row, hrow, hreading⟩ := hentry.exists_row part.name _
    rw [List.cons_append, rowsFrom_start hentry.dataLine hrow]
    refine ReadsAs.notify (by simp [Notice.level]) (ReadsAs.cons hreading ?_)
    exact readsAs_entries hothers (fun n => hrest n (some part.name) (tables + 1)) _

/-- **A printed listing is read** as the records of its parts: from any line on, and whatever stands
above it. -/
theorem Prints.readsAs (h : Prints parts lines) : ∀ n table tables,
    ReadsAs (rowsFrom n (parts.map Part.name) table tables lines)
      (parts.flatMap Part.records) := by
  induction h with
  | @filler lines h =>
    intro n table tables
    obtain ⟨table', hskip⟩ : ∃ table', rowsFrom n [] table tables (lines ++ [])
        = rowsFrom (n + lines.length) [] table' tables [] := exists_rowsFrom_append h.notData
    rw [List.append_nil] at hskip
    rw [List.map_nil, hskip]
    exact ⟨[.tables tables], [], rfl, by simp [Notice.level], rfl⟩
  | part hpart _ ih => exact hpart.readsAs ih

theorem readsAs_rows {text : String} (hprints : Prints parts lines)
    (hlined : Text.Lined lines text.toList) : ReadsAs (rows text) (parts.flatMap Part.records) := by
  rw [rows, hlined.lines_eq]
  simp only [hprints.names_eq]
  exact hprints.readsAs 1 none 0

/-! ## The set of a printed listing -/

/-- The entry of a name in the dispatch list of a listing. -/
def dispatchEntry (name : String) : DispatchEntry where
  mnemonic := "*" ++ name
  canonical := name
  handler := name.toLower
  official := false

namespace Part

/-- The canonical name of a record is that of its part. -/
theorem canonical_of_mem_records (h : record ∈ part.records) : record.canonical = part.name := by
  obtain ⟨entry, -, rfl⟩ := List.mem_map.1 h
  exact canonical_of_nameChars part.nameChar

theorem ofRecord_of_mem_records (h : record ∈ part.records) :
    DispatchEntry.ofRecord record = dispatchEntry part.name := by
  rw [DispatchEntry.ofRecord, canonical_of_mem_records h]
  obtain ⟨entry, -, rfl⟩ := List.mem_map.1 h
  rfl

end Part

/-- **Each name is introduced once**, by the first record of the first part that has it. -/
theorem map_introducing_records : ∀ (parts : List Part) (seen : List String),
    (Record.introducing seen (parts.flatMap Part.records)).map DispatchEntry.ofRecord
      = ((parts.map Part.name).filter (· ∉ seen)).eraseDups.map dispatchEntry := by
  intro parts
  induction parts with
  | nil => intro seen; rfl
  | cons part parts ih =>
    intro seen
    obtain ⟨first, others, hrecords⟩ : ∃ first others, part.records = first :: others :=
      List.exists_cons_of_ne_nil (by simpa [Part.records] using part.entries_ne_nil)
    have hname : ∀ record ∈ first :: others, record.canonical = part.name := fun record hrecord =>
      Part.canonical_of_mem_records (hrecords ▸ hrecord)
    rw [List.flatMap_cons, List.map_cons, hrecords]
    by_cases hseen : part.name ∈ seen
    · rw [List.filter_cons_of_neg (by simpa using hseen), ← ih seen,
        Record.introducing_append_of_seen _ _ fun record hrecord => hname record hrecord ▸ hseen]
    · have hfirst := hname first List.mem_cons_self
      have hrest : ((parts.map Part.name).filter (· ∉ seen)).filter (fun name => !name == part.name)
          = (parts.map Part.name).filter (· ∉ part.name :: seen) := by
        rw [List.filter_filter]
        refine List.filter_congr fun name _ => ?_
        rw [Bool.eq_iff_iff]
        simp
      rw [List.cons_append, Record.introducing_of_notMem (hfirst ▸ hseen), hfirst,
        List.filter_cons_of_pos (by simpa using hseen), List.eraseDups_cons, hrest,
        Record.introducing_append_of_seen, List.map_cons, List.map_cons, ih,
        Part.ofRecord_of_mem_records (hrecords ▸ List.mem_cons_self)]
      exact fun record hrecord => by simp [hname record (List.mem_cons_of_mem _ hrecord)]

/-- No record of a listing is official, so all of them are asked in their order. -/
theorem asked_records (parts : List Part) :
    Record.asked (parts.flatMap Part.records) = parts.flatMap Part.records := by
  have hofficial : ∀ record ∈ parts.flatMap Part.records, record.official = false := by
    intro record hrecord
    obtain ⟨part, -, hrecord⟩ := List.mem_flatMap.1 hrecord
    obtain ⟨entry, -, rfl⟩ := List.mem_map.1 hrecord
    rfl
  have hnone : Record.ofReference true (parts.flatMap Part.records) = [] :=
    List.filter_eq_nil_iff.2 fun record hrecord => by simp [hofficial record hrecord]
  have hall : Record.ofReference false (parts.flatMap Part.records)
      = parts.flatMap Part.records :=
    List.filter_eq_self.2 fun record hrecord => by simp [hofficial record hrecord]
  rw [Record.asked, hnone, hall, List.nil_append]

theorem map_opcode_records (parts : List Part) :
    (parts.flatMap Part.records).map (·.opcode)
      = parts.flatMap fun part => part.entries.map (·.opcode) := by
  rw [List.map_flatMap]
  refine List.flatMap_congr fun part _ => ?_
  rw [Part.records, List.map_map]
  rfl

/-- **A printed listing is read back.**  However its parts are printed, the reader has a row for
each entry and warns of nothing.  If no opcode is printed twice, the rows make a set: its records
are those of the entries, in order, each found under its opcode, and its dispatch list has one entry
for each name, in the order of their first parts. -/
theorem ofRows_of_prints {text : String} (hprints : Prints parts lines)
    (hlined : Text.Lined lines text.toList)
    (hdistinct : (parts.flatMap fun part => part.entries.map (·.opcode)).Nodup) :
    ∃ notices rows' set, rows text = ⟨notices, "", .ok rows'⟩ ∧
      (∀ notice ∈ notices, notice.level ≠ .warning) ∧
      (InstructionSet.ofRows rows').outcome = .ok set ∧
      set.records = parts.flatMap Part.records ∧
      (∀ part ∈ parts, ∀ entry ∈ part.entries,
        set.byOpcode entry.opcode = some (entry.record part.name)) ∧
      set.dispatch = (parts.map Part.name).eraseDups.map dispatchEntry := by
  obtain ⟨notices, rows', hrows, hquiet, hreadings⟩ := readsAs_rows hprints hlined
  obtain ⟨set, hset, hrecords⟩ :=
    InstructionSet.exists_ofRows_iff.2 ⟨hreadings, (map_opcode_records parts).symm ▸ hdistinct⟩
  refine ⟨notices, rows', set, hrows, hquiet, hset, hrecords, fun part hpart entry hentry => ?_, ?_⟩
  · rw [InstructionSet.byOpcode_of_ofRows hset, hrecords]
    exact ⟨List.mem_flatMap.2 ⟨part, hpart, List.mem_map_of_mem hentry⟩, rfl⟩
  · rw [InstructionSet.dispatch_of_ofRows hset, hrecords, asked_records, map_introducing_records,
      List.filter_eq_self.2 (by simp)]

/-- Two parts: a name with a page-crossing and a plain opcode, and one with a branch. -/
def sampleParts : List Part := [
  ⟨"DOP", [⟨0x1C, .absoluteX, 4, .pageCrossed⟩, ⟨0x04, .zeroPage, 3, .none⟩], by decide,
    by simp [NameChar], by simp⟩,
  ⟨"KIL", [⟨0x02, .relative, 2, .branchTaken⟩], by decide, by simp [NameChar], by simp⟩]

/-- Lines that print them; a title, a remark on the first name and an empty line are filler. -/
def sampleLines : List (List Char) := [
  "Extra Instructions".toList,
  "==================".toList,
  "DOP (NOP) [SKB]".toList,
  "===============".toList,
  "No operation | twice".toList,
  "Addressing |Mnemonics |Opc  |Sz|n".toList,
  "-----------|----------|-----|--|---".toList,
  "Absolute, X|DOP abs,X |0x1c |3 |4 *".toList,
  "Zero  Page |DOP arg   |$04 |2 |3".toList,
  "".toList,
  "KIL".toList,
  "=== ".toList,
  "Addressing".toList,
  "-".toList,
  "Relative||02||2 (+1 if branch succeeds)".toList]

theorem prints_sampleLines : Prints sampleParts sampleLines := by
  have hnone : ∀ c ∈ ([] : List Char), Text.isBlank c = true := fun c hc =>
    absurd hc List.not_mem_nil
  have hspace : ∀ c ∈ [' '], Text.isBlank c = true := List.forall_mem_singleton.2 (by decide)
  have hpageCrossed : Entry.Prints ⟨0x1C, .absoluteX, 4, .pageCrossed⟩
      "Absolute, X|DOP abs,X |0x1c |3 |4 *".toList :=
    ⟨"Absolute, X".toList, "DOP abs,X ".toList, "0x1c ".toList, "3 ".toList, "4 *".toList,
      { label := Text.spaced_of_squeeze_eq (by decide)
        sample := by decide
        opcode := ⟨"0x1c".toList, ⟨['0', 'x'], by decide, 1, 12, '1', 'c', rfl, .inl rfl, .inr rfl,
          rfl⟩, [], [' '], hnone, hspace, rfl⟩
        size := by decide
        cycles := ⟨_, .starred 4 hspace, Text.padded_self _⟩ }, rfl⟩
  have hplain : Entry.Prints ⟨0x04, .zeroPage, 3, .none⟩
      "Zero  Page |DOP arg   |$04 |2 |3".toList :=
    ⟨"Zero  Page ".toList, "DOP arg   ".toList, "$04 ".toList, "2 ".toList, "3".toList,
      { label := Text.spaced_of_squeeze_eq (by decide)
        sample := by decide
        opcode := ⟨"$04".toList, ⟨['$'], by decide, 0, 4, '0', '4', rfl, .inl rfl, .inl rfl, rfl⟩,
          [], [' '], hnone, hspace, rfl⟩
        size := by decide
        cycles := ⟨_, .plain 3, Text.padded_self _⟩ }, rfl⟩
  have hbranch : Entry.Prints ⟨0x02, .relative, 2, .branchTaken⟩
      "Relative||02||2 (+1 if branch succeeds)".toList :=
    ⟨"Relative".toList, [], "02".toList, [], "2 (+1 if branch succeeds)".toList,
      { label := Text.spaced_of_squeeze_eq (by decide)
        sample := by decide
        opcode := ⟨"02".toList, ⟨[], by decide, 0, 2, '0', '2', rfl, .inl rfl, .inl rfl, rfl⟩,
          Text.padded_self _⟩
        size := by decide
        cycles := ⟨_, .noted 2, Text.padded_self _⟩ }, rfl⟩
  have hblank : ¬ AlphanumChar ' ' := by simp [AlphanumChar, NameChar]
  have hfirst : sampleParts[0].Prints (["Extra Instructions".toList, "==================".toList]
      ++ "DOP (NOP) [SKB]".toList :: "===============".toList ::
      (["No operation | twice".toList] ++ "Addressing |Mnemonics |Opc  |Sz|n".toList ::
        "-----------|----------|-----|--|---".toList ::
        ["Absolute, X|DOP abs,X |0x1c |3 |4 *".toList,
          "Zero  Page |DOP arg   |$04 |2 |3".toList])) :=
    .mk ⟨by decide, by decide⟩ (.inr ⟨' ', "(NOP) [SKB]".toList, hblank, by decide, rfl⟩)
      (by decide) ⟨by decide, by decide⟩ (by decide) (by decide)
      (.cons hpageCrossed (.cons hplain .nil))
  have hsecond : sampleParts[1].Prints (["".toList] ++ "KIL".toList :: "=== ".toList ::
      ([] ++ "Addressing".toList :: "-".toList ::
        ["Relative||02||2 (+1 if branch succeeds)".toList])) :=
    .mk ⟨by decide, by decide⟩ (.inl rfl) (by decide) ⟨by decide, by decide⟩ (by decide)
      (by decide) (.cons hbranch .nil)
  exact .part hfirst (.part hsecond (.filler ⟨by decide, by decide⟩))

/-- They are read back from a text with these lines. -/
theorem ofRows_of_prints_sampleLines : ∃ rows' set,
    (rows (String.ofList (sampleLines.flatMap (· ++ ['\n'])))).outcome = .ok rows' ∧
      (InstructionSet.ofRows rows').outcome = .ok set ∧
      set.byOpcode 0x1C = some ⟨"*DOP", false, 0x1C, .absoluteX, 3, 4, .pageCrossed⟩ ∧
      set.dispatch.map (·.handler) = ["dop", "kil"] := by
  have hlined : Text.Lined sampleLines
      (String.ofList (sampleLines.flatMap (· ++ ['\n']))).toList := by
    rw [String.toList_ofList]
    exact Text.lined_flatMap (by decide)
  obtain ⟨notices, rows', set, hrows, -, hset, -, hlookup, hdispatch⟩ :=
    ofRows_of_prints prints_sampleLines hlined (by decide)
  refine ⟨rows', set, by rw [hrows], hset, ?_, ?_⟩
  · exact hlookup _ List.mem_cons_self _ List.mem_cons_self
  · rw [hdispatch]
    decide +kernel

end OpcodeTable.Listing
