import OpcodeTable.Proofs.RecordLine
import OpcodeTable.Proofs.TemplatePiece

/-!
# Proofs/TableText — what a generated table tells

The default templates put each mnemonic between quotation marks and close every other value with a
comma or a parenthesis, which it has not.  So the fields of a record can be read off its line, and
lines, arms and what follows the last of them cannot be mistaken for each other, whatever else the
mnemonics hold.  Two sets have the same table exactly if their records agree in all that the default
line has a place for, and their entries in canonical name and handler (`render_default_eq_iff`).
-/

namespace OpcodeTable.Templates

variable {record record' : Record} {entry entry' : DispatchEntry} {rest rest' : List Char}

/-! ## The default templates in pieces -/

/-- The default line of a record in pieces. -/
def recordPieces : List Piece := [
  .text "    OpCode::new(".toList, .slot "code", .text ", \"".toList, .slot "name",
  .text ('"' :: ", ".toList), .slot "bytes", .text (',' :: " ".toList), .slot "cycles",
  .text (',' :: " AddressingMode::".toList), .slot "mode", .text (')' :: ",".toList)]

/-- What stands behind the handler in the default arm. -/
def armEnd : String :=
  "(&op.addressing_mode);\n            cpu.program_counter += op.bytes - 1;\n        \x7d"

/-- The default arm of an entry in pieces. -/
def dispatchPieces : List Piece := [
  .text "        \"".toList, .slot "canonical", .text ('"' :: " => \x7b\n            cpu.".toList),
  .slot "handler", .text armEnd.toList]

theorem toList_defaultRecord : defaultRecord.toList = recordPieces.flatMap Piece.write := by
  decide +kernel

theorem toList_defaultDispatch : defaultDispatch.toList = dispatchPieces.flatMap Piece.write := by
  decide +kernel

theorem sound_recordPieces : ∀ piece ∈ recordPieces, piece.Sound := by decide +kernel

theorem sound_dispatchPieces : ∀ piece ∈ dispatchPieces, piece.Sound := by decide +kernel

/-- **A record as the default table lists it**, and what stands behind it. -/
def recordText (record : Record) (rest : List Char) : List Char :=
  "    OpCode::new(".toList ++ (("0x" ++ String.ofList (Text.hexByte record.opcode)).toList
    ++ (", \"".toList ++ (record.mnemonic.toList
    ++ '"' :: (", ".toList ++ ((toString record.size).toList
    ++ ',' :: (" ".toList ++ ((toString record.cycles.toNat).toList
    ++ ',' :: (" AddressingMode::".toList ++ (record.mode.name.toList
    ++ ')' :: (",".toList ++ rest))))))))))

/-- **An entry as the default table lists it**, and what stands behind it. -/
def entryText (entry : DispatchEntry) (rest : List Char) : List Char :=
  "        \"".toList ++ (entry.canonical.toList
    ++ '"' :: (" => \x7b\n            cpu.".toList ++ (entry.handler.toList
    ++ (armEnd.toList ++ rest))))

/-- **A quotable mnemonic**: one the default templates can put between quotation marks, for it has
none itself, and no brace a placeholder could open with. -/
structure Quotable (mnemonic : String) : Prop where
  quote_notMem : '"' ∉ mnemonic.toList
  open_notMem : openBrace ∉ mnemonic.toList

instance (mnemonic : String) : Decidable (Quotable mnemonic) :=
  decidable_of_iff ('"' ∉ mnemonic.toList ∧ openBrace ∉ mnemonic.toList)
    ⟨fun h => ⟨h.1, h.2⟩, fun h => ⟨h.1, h.2⟩⟩

theorem open_notMem_recordValues (h : openBrace ∉ record.mnemonic.toList) :
    ∀ pair ∈ recordValues record, openBrace ∉ pair.2.toList := by
  simp only [recordValues, List.forall_mem_cons]
  refine ⟨(plain_hexByte _).open_notMem, h, (plain_toString _).open_notMem,
    (plain_toString _).open_notMem, (plain_modeName _).open_notMem,
    (plain_adjustmentName _).open_notMem, ?_, List.forall_mem_nil _⟩
  cases record.official <;> decide

/-- No letter has the brace for its lower case. -/
theorem toLower_ne_openBrace {c : Char} (h : c ≠ openBrace) : c.toLower ≠ openBrace := by
  by_cases hletter : 0x41 ≤ c.toNat ∧ c.toNat ≤ 0x5A
  · -- the last small letter stands right before the brace
    intro hopen
    have hlower : c.toLower.toNat = (c.toNat + 0x20) % 2 ^ 32 :=
      congrArg Char.toNat (dif_pos hletter)
    have hbrace : c.toLower.toNat = 0x7B := congrArg Char.toNat hopen
    omega
  · have hlower : c.toLower = c := dif_neg hletter
    rwa [hlower]

theorem open_notMem_entryValues (h : openBrace ∉ record.mnemonic.toList) :
    ∀ pair ∈ entryValues (.ofRecord record), openBrace ∉ pair.2.toList := by
  have hcanonical : openBrace ∉ record.canonical.toList :=
    fun hmem => h (canonical_subset _ hmem)
  simp only [entryValues, DispatchEntry.ofRecord, List.forall_mem_cons]
  refine ⟨h, hcanonical, fun hmem => ?_, List.forall_mem_nil _⟩
  obtain ⟨c, hc, hlower⟩ := List.mem_map.1 (String.toList_map ▸ hmem)
  exact toLower_ne_openBrace (fun hopen => hcanonical (hopen ▸ hc)) hlower

theorem fill_defaultRecord_append (h : openBrace ∉ record.mnemonic.toList) (rest : List Char) :
    (fill defaultRecord (recordValues record)).toList ++ rest = recordText record rest := by
  rw [fill_append_of_pieces (isKey_recordValues record) (open_notMem_recordValues h)
    sound_recordPieces toList_defaultRecord]
  rfl

theorem fill_defaultDispatch_append (h : openBrace ∉ record.mnemonic.toList) (rest : List Char) :
    (fill defaultDispatch (entryValues (.ofRecord record))).toList ++ rest
      = entryText (.ofRecord record) rest := by
  rw [fill_append_of_pieces (isKey_entryValues _) (open_notMem_entryValues h) sound_dispatchPieces
    toList_defaultDispatch]
  rfl

/-! ## What the parts of a table tell -/

theorem paren_notMem_modeName (mode : AddressingMode) : ')' ∉ mode.name.toList := by
  cases mode <;> decide

/-- The code of an opcode has a fixed width. -/
theorem hexCode_append_inj {opcode opcode' : UInt8}
    (h : ("0x" ++ String.ofList (Text.hexByte opcode)).toList ++ rest
      = ("0x" ++ String.ofList (Text.hexByte opcode')).toList ++ rest') :
    opcode = opcode' ∧ rest = rest' := by
  simp only [String.toList_append, String.toList_ofList, List.append_assoc] at h
  obtain ⟨hdigits, hrest⟩ := List.append_inj (List.append_cancel_left h) rfl
  exact ⟨Text.hexByte_injective hdigits, hrest⟩

/-- **Records alike in a table**: the default line has no place for the other fields. -/
structure AlikeRecord (record record' : Record) : Prop where
  opcode : record.opcode = record'.opcode
  mnemonic : record.mnemonic = record'.mnemonic
  size : record.size = record'.size
  cycles : record.cycles = record'.cycles
  mode : record.mode = record'.mode

/-- **Entries alike in a table**. -/
structure AlikeEntry (entry entry' : DispatchEntry) : Prop where
  canonical : entry.canonical = entry'.canonical
  handler : entry.handler = entry'.handler

/-- **The line of a record tells its fields**, read from the left. -/
theorem recordText_eq_iff (hquote : '"' ∉ record.mnemonic.toList)
    (hquote' : '"' ∉ record'.mnemonic.toList) :
    recordText record rest = recordText record' rest' ↔
      AlikeRecord record record' ∧ rest = rest' := by
  unfold recordText
  constructor
  · intro h
    -- behind the code, of a fixed width, each value ends at the first character it has not
    obtain ⟨hopcode, h⟩ := hexCode_append_inj (List.append_cancel_left h)
    obtain ⟨hmnemonic, h⟩ := Text.append_cons_inj hquote hquote' (List.append_cancel_left h)
    obtain ⟨hsize, h⟩ := Text.append_cons_inj (Text.notMem_toString rfl _)
      (Text.notMem_toString rfl _) (List.append_cancel_left h)
    obtain ⟨hcycles, h⟩ := Text.append_cons_inj (Text.notMem_toString rfl _)
      (Text.notMem_toString rfl _) (List.append_cancel_left h)
    obtain ⟨hmode, h⟩ := Text.append_cons_inj (paren_notMem_modeName _) (paren_notMem_modeName _)
      (List.append_cancel_left h)
    exact ⟨⟨hopcode, String.toList_inj.1 hmnemonic,
        Text.toString_injective (String.toList_inj.1 hsize),
        UInt8.toNat_inj.1 (Text.toString_injective (String.toList_inj.1 hcycles)),
        AddressingMode.name_injective (String.toList_inj.1 hmode)⟩,
      List.append_cancel_left h⟩
  · rintro ⟨h, rfl⟩
    rw [h.opcode, h.mnemonic, h.size, h.cycles, h.mode]

/-- **The arm of an entry tells its name**, and the handler follows from that. -/
theorem entryText_eq_iff (hquote : '"' ∉ record.canonical.toList)
    (hquote' : '"' ∉ record'.canonical.toList) :
    entryText (.ofRecord record) rest = entryText (.ofRecord record') rest' ↔
      AlikeEntry (.ofRecord record) (.ofRecord record') ∧ rest = rest' := by
  unfold entryText
  constructor
  · intro h
    obtain ⟨hcanonical, h⟩ := Text.append_cons_inj hquote hquote' (List.append_cancel_left h)
    -- no character closes the handler, but now it is known on both sides
    have hhandler : (DispatchEntry.ofRecord record).handler
        = (DispatchEntry.ofRecord record').handler :=
      congrArg String.toLower (String.toList_inj.1 hcanonical)
    rw [hhandler] at h
    exact ⟨⟨String.toList_inj.1 hcanonical, hhandler⟩,
      List.append_cancel_left (List.append_cancel_left (List.append_cancel_left h))⟩
  · rintro ⟨h, rfl⟩
    rw [h.canonical, h.handler]

/-! ## What a table tells -/

/-- A record's part of the default table. -/
def recordPart (record : Record) : List Char :=
  (fill defaultRecord (recordValues record)).toList ++ ['\n']

/-- An entry's part of the default table. -/
def entryPart (entry : DispatchEntry) : List Char :=
  (fill defaultDispatch (entryValues entry)).toList ++ ['\n']

theorem recordPart_append (h : Quotable record.mnemonic) (rest : List Char) :
    recordPart record ++ rest = recordText record ('\n' :: rest) := by
  rw [recordPart, List.append_assoc, fill_defaultRecord_append h.open_notMem, List.singleton_append]

theorem entryPart_append (h : Quotable record.mnemonic) (rest : List Char) :
    entryPart (.ofRecord record) ++ rest = entryText (.ofRecord record) ('\n' :: rest) := by
  rw [entryPart, List.append_assoc, fill_defaultDispatch_append h.open_notMem,
    List.singleton_append]

/-- **The default table in parts**: the header, the records, the middle part, the entries and the
footer. -/
theorem toList_render_default (set : InstructionSet) : (default.render set).toList =
    defaultHeader.toList ++ '\n' :: (set.records.flatMap recordPart
      ++ (defaultMiddle.toList ++ '\n' :: (set.dispatch.flatMap entryPart
        ++ (defaultFooter.toList ++ ['\n'])))) := by
  unfold recordPart entryPart
  rw [render, String.toList_join, parts]
  simp [List.flatMap_map, Function.comp_def, default]

theorem recordPart_eq_iff (h : Quotable record.mnemonic) (h' : Quotable record'.mnemonic) :
    recordPart record ++ rest = recordPart record' ++ rest' ↔
      AlikeRecord record record' ∧ rest = rest' := by
  rw [recordPart_append h, recordPart_append h', recordText_eq_iff h.quote_notMem h'.quote_notMem,
    List.cons.injEq, eq_self, true_and]

/-- No record looks like the middle part. -/
theorem recordPart_append_ne_middle (h : Quotable record.mnemonic) :
    recordPart record ++ rest ≠ defaultMiddle.toList ++ rest' := by
  rw [recordPart_append h]
  intro hsame
  have hfirst : some ' ' = some ']' := congrArg List.head? hsame
  cases hfirst

/-- **An entry of a quotable mnemonic.** -/
def IsQuoted (entry : DispatchEntry) : Prop :=
  ∃ record : Record, Quotable record.mnemonic ∧ DispatchEntry.ofRecord record = entry

theorem Quotable.quote_notMem_canonical (h : Quotable record.mnemonic) :
    '"' ∉ record.canonical.toList :=
  fun hmem => h.quote_notMem (canonical_subset _ hmem)

theorem entryPart_eq_iff (h : IsQuoted entry) (h' : IsQuoted entry') :
    entryPart entry ++ rest = entryPart entry' ++ rest' ↔
      AlikeEntry entry entry' ∧ rest = rest' := by
  obtain ⟨record, hrecord, rfl⟩ := h
  obtain ⟨record', hrecord', rfl⟩ := h'
  rw [entryPart_append hrecord, entryPart_append hrecord',
    entryText_eq_iff hrecord.quote_notMem_canonical hrecord'.quote_notMem_canonical,
    List.cons.injEq, eq_self, true_and]

/-- No entry looks like the footer: behind the same blanks stands another character. -/
theorem entryPart_append_ne_footer (h : IsQuoted entry) :
    entryPart entry ++ rest ≠ defaultFooter.toList ++ rest' := by
  obtain ⟨record, hrecord, rfl⟩ := h
  rw [entryPart_append hrecord]
  intro hsame
  have hninth : some '"' = some '_' := congrArg (·[8]?) hsame
  cases hninth

theorem isQuoted_of_mem_dispatch {rows : List Row} {set : InstructionSet}
    (h : (InstructionSet.ofRows rows).outcome = .ok set)
    (hnames : ∀ record ∈ set.records, Quotable record.mnemonic) :
    ∀ entry ∈ set.dispatch, IsQuoted entry := by
  intro entry hentry
  obtain ⟨record, hrecord, hentry⟩ := InstructionSet.exists_record_of_mem_dispatch h hentry
  exact ⟨record, hnames record hrecord, hentry⟩

/-- **A table tells its records and entries.**  If no mnemonic of two sets has a quotation mark or
an opening brace, their default tables are the same exactly if they have equally many records, and
one by one these are alike in opcode, mnemonic, size, cycles and mode, and equally many entries,
alike in canonical name and handler.  The mnemonics of a listing have none of the characters that
could be taken for something else. -/
theorem render_default_eq_iff {rows rows' : List Row} {set set' : InstructionSet}
    (h : (InstructionSet.ofRows rows).outcome = .ok set)
    (h' : (InstructionSet.ofRows rows').outcome = .ok set')
    (hnames : ∀ record ∈ set.records, Quotable record.mnemonic)
    (hnames' : ∀ record ∈ set'.records, Quotable record.mnemonic) :
    (default.render set = default.render set' ↔
      List.Forall₂ AlikeRecord set.records set'.records ∧
        List.Forall₂ AlikeEntry set.dispatch set'.dispatch) ∧
    ∀ text listed, (Listing.rows text).outcome = .ok listed → ∀ row ∈ listed,
      Quotable row.mnemonic ∧ closeBrace ∉ row.mnemonic.toList ∧ '\n' ∉ row.mnemonic.toList := by
  refine ⟨?_, fun text listed hlisted row hrow => ?_⟩
  · rw [← String.toList_inj, toList_render_default, toList_render_default, List.append_right_inj,
      List.cons.injEq, Text.flatMap_append_inj_iff recordPart_eq_iff recordPart_append_ne_middle
        recordPart_append_ne_middle hnames hnames', List.append_right_inj, List.cons.injEq,
      Text.flatMap_append_inj_iff entryPart_eq_iff entryPart_append_ne_footer
        entryPart_append_ne_footer (isQuoted_of_mem_dispatch h hnames)
        (isQuoted_of_mem_dispatch h' hnames')]
    simp only [eq_self, true_and, and_true]
  · have hchars := (Listing.outcome_rows_eq_ok.1 hlisted).nameChar_of_mem_mnemonic row hrow
    have hnot : ∀ c, c ≠ star → ¬ Listing.NameChar c → c ∉ row.mnemonic.toList :=
      fun c hstar hname hmem => (hchars c hmem).elim hstar hname
    refine ⟨⟨hnot _ ?_ ?_, hnot _ ?_ ?_⟩, hnot _ ?_ ?_, hnot _ ?_ ?_⟩
    all_goals simp [Listing.NameChar, star, openBrace, closeBrace]

/-- Two rows of two mnemonics. -/
def nopInxRows : List Row := [
  ⟨.official, "NOP", "$EA", "Implied", "1", "2", "page 1"⟩,
  ⟨.official, "INX", "$E8", "Implied", "1", "2", "page 2"⟩]

/-- One row whose mnemonic reads like the rest of the one line and the start of the other. -/
def nopInxRow : List Row := [
  ⟨.official, "NOP, 1, 2, AddressingMode::Implied), OpCode::new(0xE8, INX", "$EA", "Implied", "1",
    "2", "page 1"⟩]

theorem render_nopInxRows : ∃ set set',
    (InstructionSet.ofRows nopInxRows).outcome = .ok set ∧
      (InstructionSet.ofRows nopInxRow).outcome = .ok set' ∧
      (∀ record ∈ set.records, Quotable record.mnemonic) ∧
      (∀ record ∈ set'.records, Quotable record.mnemonic) ∧
      default.render set ≠ default.render set' := by
  obtain ⟨set, hset, hrecords⟩ : ∃ set, (InstructionSet.ofRows nopInxRows).outcome = .ok set ∧
      set.records = [⟨"NOP", true, 0xEA, .implied, 1, 2, .none⟩,
        ⟨"INX", true, 0xE8, .implied, 1, 2, .none⟩] :=
    InstructionSet.exists_ofRows_iff.2 (by decide +kernel)
  obtain ⟨set', hset', hrecords'⟩ : ∃ set, (InstructionSet.ofRows nopInxRow).outcome = .ok set ∧
      set.records = [⟨"NOP, 1, 2, AddressingMode::Implied), OpCode::new(0xE8, INX", true, 0xEA,
        .implied, 1, 2, .none⟩] :=
    InstructionSet.exists_ofRows_iff.2 (by decide +kernel)
  have hnames : ∀ record ∈ set.records, Quotable record.mnemonic := by
    rw [hrecords]
    decide
  have hnames' : ∀ record ∈ set'.records, Quotable record.mnemonic := by
    rw [hrecords']
    decide +kernel
  refine ⟨set, set', hset, hset', hnames, hnames', fun hsame => ?_⟩
  have hlength := ((render_default_eq_iff hset hset' hnames hnames').1.1 hsame).1.length_eq
  rw [hrecords, hrecords'] at hlength
  cases hlength

end OpcodeTable.Templates
