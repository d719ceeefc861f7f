import Mathlib.Data.List.Forall2
import Mathlib.Data.List.Nodup
import OpcodeTable.Proofs.Digit
import OpcodeTable.Proofs.Listing.Tables
import OpcodeTable.Proofs.Traced

/-!
# Proofs/Listing/Rows — which rows a listing has

Table by table, the headings of a listing name its rows, in order and whatever stands between them.
The state of the reader above a line is fixed by the lines themselves (`Reached`), so what it does
from there on is too (`readsFrom_of_reached`); for the whole listing this is
`rows_named_by_headings`.
-/

namespace OpcodeTable.Listing

variable {lines rest : List (List Char)} {heads spare : List String} {n tables : Nat}
  {table : Option String} {line : List Char} {name : String} {row : Row} {run : Traced (List Row)}

/-! ## One line, case by case -/

theorem rowsFrom_header (hheader : HeaderLine line) :
    rowsFrom n spare table tables (line :: rest) = rowsFrom (n + 1) spare none tables rest := by
  rw [rowsFrom.eq_def]
  exact if_pos (isHeader_eq_true.2 hheader)

theorem rowsFrom_other (hheader : ¬ HeaderLine line) (hdata : ¬ DataLine line) :
    rowsFrom n spare table tables (line :: rest) = rowsFrom (n + 1) spare table tables rest := by
  rw [← isHeader_eq_true, Bool.not_eq_true] at hheader
  rw [← isData_eq_true, Bool.not_eq_true] at hdata
  rw [rowsFrom.eq_def]
  simp only [hheader, hdata]
  rfl

/-- The answers of the reader's tests at a line of data. -/
theorem tests_of_dataLine (h : DataLine line) : isHeader line = false ∧ isData line = true :=
  ⟨Bool.eq_false_iff.2 fun hheader => h.1 (isHeader_eq_true.1 hheader), isData_eq_true.2 h⟩

theorem rowsFrom_inTable (hdata : DataLine line) (hrow : row? name n line = some row) :
    rowsFrom n spare (some name) tables (line :: rest)
      = (row :: ·) <$> rowsFrom (n + 1) spare (some name) tables rest := by
  obtain ⟨hheader, hdata⟩ := tests_of_dataLine hdata
  rw [rowsFrom.eq_def, ← bind_pure_comp]
  simp only [hheader, hdata, hrow]
  rfl

theorem rowsFrom_start (hdata : DataLine line) (hrow : row? name n line = some row) :
    rowsFrom n (name :: spare) none tables (line :: rest) = (do
      Traced.notify (.tableNamed n name)
      (row :: ·) <$> rowsFrom (n + 1) spare (some name) (tables + 1) rest) := by
  obtain ⟨hheader, hdata⟩ := tests_of_dataLine hdata
  rw [rowsFrom.eq_def, ← bind_pure_comp]
  simp only [hheader, hdata, hrow]
  rfl

theorem rowsFrom_exhausted (hdata : DataLine line) :
    rowsFrom n [] none tables (line :: rest)
      = Traced.fail (.headingsExhausted (tables + 1)) (origin n) := by
  obtain ⟨hheader, hdata⟩ := tests_of_dataLine hdata
  rw [rowsFrom.eq_def]
  simp only [hheader, hdata]
  rfl

/-! ## What is read at a line -/

/-- **The row at line `i`**: it has the fields of that line and the name of the `k`-th heading,
where `k` tables have started at that line or above. -/
def IsRowAt (lines : List (List Char)) (heads : List String) (i : Nat) (row : Row) : Prop :=
  ∃ line label sample opcode size cycles, lines[i]? = some line ∧
    HasFields line label sample opcode size cycles ∧
    ∃ k name, (startsAbove lines (i + 1)).length = k + 1 ∧ heads[k]? = some name ∧
      row = rowOfFields name (i + 1) label opcode size cycles

/-- One notice for each table that starts and gets a name. -/
def startNotices (starts : List Nat) (names : List String) : List Notice :=
  List.zipWith (fun i name => .tableNamed (i + 1) name) starts names

/-- The notices at the end of a listing: a warning about the headings no table has taken, if there
are any, and the number of tables. -/
def closingNotices (heads : List String) (tables : Nat) : List Notice :=
  (if tables < heads.length then [.spareHeadings (heads.drop tables)] else []) ++ [.tables tables]

/-! ## The state above a line -/

/-- **The reader has reached line `n`**: a table is open to it exactly when one is there, the name
of that table is the last one taken, and the headings behind it are still to be taken. -/
structure Reached (lines : List (List Char)) (heads : List String) (n : Nat) (spare : List String)
    (table : Option String) (tables : Nat) : Prop where
  length_startsAbove : (startsAbove lines n).length = tables
  tables_le : tables ≤ heads.length
  spare_eq : spare = heads.drop tables
  tableOpen_iff : TableOpen lines n ↔ ∃ name, table = some name
  named : ∀ name, table = some name → ∃ k, tables = k + 1 ∧ heads[k]? = some name

theorem reached_zero (lines : List (List Char)) (heads : List String) :
    Reached lines heads 0 heads none 0 where
  length_startsAbove := rfl
  tables_le := Nat.zero_le _
  spare_eq := rfl
  tableOpen_iff := by simp [TableOpen]
  named := by simp

namespace Reached

theorem not_tableOpen (h : Reached lines heads n spare none tables) : ¬ TableOpen lines n := by
  rw [h.tableOpen_iff]
  simp

/-- Lines that start no table leave the count. -/
theorem length_startsAbove_succ (h : Reached lines heads n spare table tables)
    (hstart : ¬ TableStart lines n) : (startsAbove lines (n + 1)).length = tables := by
  rw [startsAbove_succ_of_neg hstart, h.length_startsAbove]

/-- **A header** closes the table. -/
theorem header (h : Reached lines heads n spare table tables) (hheader : HeaderAt lines n) :
    Reached lines heads (n + 1) spare none tables where
  length_startsAbove := h.length_startsAbove_succ fun hstart => hstart.1.not_headerAt hheader
  tables_le := h.tables_le
  spare_eq := h.spare_eq
  tableOpen_iff := by
    rw [tableOpen_succ]
    have hdata : ¬ DataAt lines n := fun hdata => hdata.not_headerAt hheader
    simp [hdata, hheader]
  named := by simp

/-- **Any other line** without data changes nothing. -/
theorem other (h : Reached lines heads n spare table tables) (hheader : ¬ HeaderAt lines n)
    (hdata : ¬ DataAt lines n) : Reached lines heads (n + 1) spare table tables where
  length_startsAbove := h.length_startsAbove_succ fun hstart => hdata hstart.1
  tables_le := h.tables_le
  spare_eq := h.spare_eq
  tableOpen_iff := by
    rw [tableOpen_succ, ← h.tableOpen_iff]
    simp [hdata, hheader]
  named := h.named

/-- **Data in an open table** changes nothing. -/
theorem data (h : Reached lines heads n spare (some name) tables) (hdata : DataAt lines n) :
    Reached lines heads (n + 1) spare (some name) tables where
  length_startsAbove := h.length_startsAbove_succ fun hstart =>
    hstart.2 (h.tableOpen_iff.2 ⟨name, rfl⟩)
  tables_le := h.tables_le
  spare_eq := h.spare_eq
  tableOpen_iff := by simp [tableOpen_succ, hdata]
  named := h.named

/-- The next name to take is that of the heading behind those of the tables so far. -/
theorem getElem?_eq (h : Reached lines heads n (name :: spare) table tables) :
    heads[tables]? = some name := by
  have hhead := congrArg List.head? h.spare_eq
  rwa [List.head?_cons, List.head?_drop, eq_comm] at hhead

/-- **Data outside a table** opens one more, and takes a name. -/
theorem start (h : Reached lines heads n (name :: spare) none tables) (hdata : DataAt lines n) :
    Reached lines heads (n + 1) spare (some name) (tables + 1) where
  length_startsAbove := by
    rw [startsAbove_succ_of_pos ⟨hdata, h.not_tableOpen⟩, List.length_append,
      h.length_startsAbove, List.length_singleton]
  tables_le := (List.getElem?_eq_some_iff.1 h.getElem?_eq).1
  spare_eq := by
    rw [← List.tail_drop, ← h.spare_eq, List.tail_cons]
  tableOpen_iff := by simp [tableOpen_succ, hdata]
  named other hother := ⟨tables, rfl, h.getElem?_eq.trans hother⟩

/-- **The row read at a line of data.** -/
theorem exists_isRowAt (h : Reached lines heads (n + 1) spare (some name) tables)
    (hline : lines[n]? = some line) (hdata : DataLine line) :
    ∃ row, row? name (n + 1) line = some row ∧ IsRowAt lines heads n row := by
  obtain ⟨label, sample, opcode, size, cycles, hfields⟩ := exists_hasFields hdata
  obtain ⟨k, hk, hhead⟩ := h.named name rfl
  exact ⟨_, row?_of_hasFields hfields name (n + 1), line, label, sample, opcode, size, cycles,
    hline, hfields, k, name, h.length_startsAbove.trans hk, hhead, rfl⟩

end Reached

/-! ## What is read from a line on -/

/-- **What reading from line `n` on comes to.**  If there are names for all tables, it has one row
for each line of data and ends with the closing notices; otherwise it fails at the first table that
has no name.  Each table that gets its name is told either way. -/
structure ReadsFrom (lines : List (List Char)) (heads : List String) (n : Nat)
    (run : Traced (List Row)) : Prop where
  enough : (linesFrom lines (TableStart lines) 0).length ≤ heads.length →
    ∃ rows, List.Forall₂ (IsRowAt lines heads) (linesFrom lines (DataAt lines) n) rows ∧
      run = ⟨startNotices (linesFrom lines (TableStart lines) n)
          (heads.drop (startsAbove lines n).length)
        ++ closingNotices heads (linesFrom lines (TableStart lines) 0).length, "", .ok rows⟩
  tooFew : heads.length < (linesFrom lines (TableStart lines) 0).length →
    ∃ i, (linesFrom lines (TableStart lines) 0)[heads.length]? = some i ∧
      run = ⟨startNotices (linesFrom lines (TableStart lines) n)
          (heads.drop (startsAbove lines n).length), "",
        .error ⟨.headingsExhausted (heads.length + 1), some (origin (i + 1))⟩⟩

namespace ReadsFrom

/-- **A line without data** adds nothing. -/
theorem skip (hn : n < lines.length) (hdata : ¬ DataAt lines n)
    (h : ReadsFrom lines heads (n + 1) run) : ReadsFrom lines heads n run := by
  have hstart : ¬ TableStart lines n := fun hstart => hdata hstart.1
  refine ⟨fun henough => ?_, fun hfew => ?_⟩
  · rw [linesFrom_of_neg hn hdata, linesFrom_of_neg hn hstart, ← startsAbove_succ_of_neg hstart]
    exact h.enough henough
  · rw [linesFrom_of_neg hn hstart, ← startsAbove_succ_of_neg hstart]
    exact h.tooFew hfew

/-- **A line of an open table** adds its row. -/
theorem inTable (hn : n < lines.length) (hdata : DataAt lines n)
    (hopen : TableOpen lines n) (hrow : IsRowAt lines heads n row)
    (h : ReadsFrom lines heads (n + 1) run) :
    ReadsFrom lines heads n ((row :: ·) <$> run) := by
  have hstart : ¬ TableStart lines n := fun hstart => hstart.2 hopen
  refine ⟨fun henough => ?_, fun hfew => ?_⟩
  · obtain ⟨rows, hrows, rfl⟩ := h.enough henough
    rw [linesFrom_of_pos hn hdata, linesFrom_of_neg hn hstart, ← startsAbove_succ_of_neg hstart,
      Traced.map_ok]
    exact ⟨row :: rows, .cons hrow hrows, rfl⟩
  · obtain ⟨i, hi, rfl⟩ := h.tooFew hfew
    rw [linesFrom_of_neg hn hstart, ← startsAbove_succ_of_neg hstart, Traced.map_error]
    exact ⟨i, hi, rfl⟩

/-- A table that starts at line `n` is told first of those from there on. -/
theorem startNotices_of_start (hn : n < lines.length) (hstart : TableStart lines n)
    (hname : heads[(startsAbove lines n).length]? = some name) :
    startNotices (linesFrom lines (TableStart lines) n) (heads.drop (startsAbove lines n).length)
      = .tableNamed (n + 1) name :: startNotices (linesFrom lines (TableStart lines) (n + 1))
        (heads.drop (startsAbove lines (n + 1)).length) := by
  obtain ⟨hlt, hget⟩ := List.getElem?_eq_some_iff.1 hname
  rw [linesFrom_of_pos hn hstart, startsAbove_succ_of_pos hstart, List.length_append,
    List.length_singleton, List.drop_eq_getElem_cons hlt, hget]
  rfl

/-- **The first line of a table** adds its row, and the notice about the name the table takes. -/
theorem start (hn : n < lines.length) (hstart : TableStart lines n)
    (hname : heads[(startsAbove lines n).length]? = some name) (hrow : IsRowAt lines heads n row)
    (h : ReadsFrom lines heads (n + 1) run) :
    ReadsFrom lines heads n (do
      Traced.notify (.tableNamed (n + 1) name)
      (row :: ·) <$> run) := by
  refine ⟨fun henough => ?_, fun hfew => ?_⟩
  · obtain ⟨rows, hrows, rfl⟩ := h.enough henough
    rw [linesFrom_of_pos hn hstart.1, startNotices_of_start hn hstart hname, Traced.map_ok,
      Traced.notify_bind]
    exact ⟨row :: rows, .cons hrow hrows, rfl⟩
  · obtain ⟨i, hi, rfl⟩ := h.tooFew hfew
    rw [startNotices_of_start hn hstart hname, Traced.map_error, Traced.notify_bind]
    exact ⟨i, hi, rfl⟩

/-- **The first line of a table without a name** ends the run. -/
theorem exhausted (hn : n < lines.length) (hstart : TableStart lines n)
    (hname : (startsAbove lines n).length = heads.length) :
    ReadsFrom lines heads n
      (Traced.fail (.headingsExhausted (heads.length + 1)) (origin (n + 1))) := by
  have hstarts : linesFrom lines (TableStart lines) 0
      = startsAbove lines n ++ n :: linesFrom lines (TableStart lines) (n + 1) := by
    rw [← startsAbove_append_linesFrom (Nat.le_of_lt hn), linesFrom_of_pos hn hstart]
  refine ⟨fun henough => ?_, fun _ => ⟨n, ?_, ?_⟩⟩
  · rw [hstarts, List.length_append, List.length_cons] at henough
    omega
  · rw [hstarts, ← hname, List.getElem?_append_right (Nat.le_refl _), Nat.sub_self]
    rfl
  · rw [hname, List.drop_length, startNotices, List.zipWith_nil_right]
    rfl

/-- **The end of the listing**: what is left over is told. -/
theorem finish (h : Reached lines heads lines.length spare table tables) :
    ReadsFrom lines heads lines.length (rowsFrom (lines.length + 1) spare table tables []) := by
  have hnone : ∀ (p : Nat → Prop) [DecidablePred p], linesFrom lines p lines.length = [] :=
    fun p _ => linesFrom_of_length_le (Nat.le_refl _)
  have hstarts : (linesFrom lines (TableStart lines) 0).length = tables := by
    rw [← startsAbove_append_linesFrom (Nat.le_refl _), hnone, List.append_nil,
      h.length_startsAbove]
  refine ⟨fun _ => ⟨[], ?_, ?_⟩, fun hfew => ?_⟩
  · rw [hnone]
    exact .nil
  · have hempty : spare.isEmpty = true ↔ ¬ tables < heads.length := by
      rw [List.isEmpty_iff, h.spare_eq, List.drop_eq_nil_iff, Nat.not_lt]
    rw [hnone, hstarts, rowsFrom, closingNotices, ← h.spare_eq]
    by_cases hspare : tables < heads.length
    · rw [if_pos hspare, if_neg fun hnil => hempty.1 hnil hspare]
      rfl
    · rw [if_neg hspare, if_pos (hempty.2 hspare)]
      rfl
  · rw [hstarts] at hfew
    exact absurd h.tables_le (Nat.not_le.2 hfew)

end ReadsFrom

/-! ## The whole listing -/

/-- **From a state that fits the lines above, the lines below are read as they should be**: each
kind of line keeps the state fitting, and adds what it should. -/
theorem readsFrom_of_reached : ∀ {rest : List (List Char)} {n tables : Nat} {spare : List String}
    {table : Option String}, n ≤ lines.length → lines.drop n = rest →
      Reached lines heads n spare table tables →
        ReadsFrom lines heads n (rowsFrom (n + 1) spare table tables rest) := by
  intro rest
  induction rest with
  | nil =>
    intro n tables spare table hn hrest h
    obtain rfl : n = lines.length := Nat.le_antisymm hn (List.drop_eq_nil_iff.1 hrest)
    exact ReadsFrom.finish h
  | cons line rest ih =>
    intro n tables spare table hn hrest h
    have hline : lines[n]? = some line := by
      rw [← List.head?_drop, hrest, List.head?_cons]
    have hlt : n < lines.length := (List.getElem?_eq_some_iff.1 hline).1
    have hlater : lines.drop (n + 1) = rest := by
      rw [← List.tail_drop, hrest, List.tail_cons]
    by_cases hheader : HeaderLine line
    · have hat : HeaderAt lines n := ⟨line, hline, hheader⟩
      rw [rowsFrom_header hheader]
      exact .skip hlt (fun hdata => hdata.not_headerAt hat) (ih hlt hlater (h.header hat))
    by_cases hdata : DataLine line
    · have hat : DataAt lines n := ⟨line, hline, hdata⟩
      match table, spare, h with
      | some name, spare, h =>
        obtain ⟨row, hrow, hisRow⟩ := (h.data hat).exists_isRowAt hline hdata
        rw [rowsFrom_inTable hdata hrow]
        exact .inTable hlt hat (h.tableOpen_iff.2 ⟨name, rfl⟩) hisRow (ih hlt hlater (h.data hat))
      | none, name :: spare, h =>
        obtain ⟨row, hrow, hisRow⟩ := (h.start hat).exists_isRowAt hline hdata
        have hname : heads[(startsAbove lines n).length]? = some name := by
          rw [h.length_startsAbove, h.getElem?_eq]
        rw [rowsFrom_start hdata hrow]
        exact .start hlt ⟨hat, h.not_tableOpen⟩ hname hisRow (ih hlt hlater (h.start hat))
      | none, [], h =>
        have hall : tables = heads.length :=
          Nat.le_antisymm h.tables_le (List.drop_eq_nil_iff.1 h.spare_eq.symm)
        rw [rowsFrom_exhausted hdata, hall]
        exact .exhausted hlt ⟨hat, h.not_tableOpen⟩ (h.length_startsAbove.trans hall)
    · have hnot : ∀ {p : List Char → Prop}, ¬ p line → ¬ ∃ other ∈ lines[n]?, p other := by
        rintro p hp ⟨other, hother, hsat⟩
        obtain rfl := Option.some.inj (hline.symm.trans hother)
        exact hp hsat
      rw [rowsFrom_other hheader hdata]
      exact .skip hlt (hnot hdata) (ih hlt hlater (h.other (hnot hheader) (hnot hdata)))

theorem readsFrom_rows (text : String) : ReadsFrom (Text.lines text.toList)
    (headings (Text.lines text.toList)) 0 (rows text) := by
  rw [rows, names_eq_headings]
  exact readsFrom_of_reached (Nat.zero_le _) rfl (reached_zero _ _)

/-- **The listing has the rows**: there are headings for all its tables, and each line of data makes
one row. -/
def HasRows (text : String) (rows : List Row) : Prop :=
  let lines := Text.lines text.toList
  (linesFrom lines (TableStart lines) 0).length ≤ (headings lines).length ∧
    List.Forall₂ (IsRowAt lines (headings lines)) (linesFrom lines (DataAt lines) 0) rows

/-- **The listing has the fault**: no heading is left for the table with this number, which starts
on this line. -/
def HasFault (text : String) (fault : Fault) : Prop :=
  let lines := Text.lines text.toList
  ∃ i, (linesFrom lines (TableStart lines) 0)[(headings lines).length]? = some i ∧
    fault = ⟨.headingsExhausted ((headings lines).length + 1), some (origin (i + 1))⟩

/-- **A line makes one row only.** -/
theorem IsRowAt.unique {i : Nat} {row' : Row} (h : IsRowAt lines heads i row)
    (h' : IsRowAt lines heads i row') : row = row' := by
  obtain ⟨line, label, sample, opcode, size, cycles, hline, hfields, k, name, hk, hname, rfl⟩ := h
  obtain ⟨line', label', sample', opcode', size', cycles', hline', hfields', k', name', hk', hname',
    rfl⟩ := h'
  obtain rfl := Option.some.inj (hline.symm.trans hline')
  obtain rfl : k = k' := by omega
  obtain rfl := Option.some.inj (hname.symm.trans hname')
  have hrow := row?_of_hasFields hfields name (i + 1)
  rw [row?_of_hasFields hfields' name (i + 1)] at hrow
  exact (Option.some.inj hrow).symm

theorem outcome_rows_eq_ok {text : String} {rows' : List Row} :
    (rows text).outcome = .ok rows' ↔ HasRows text rows' := by
  have hreads := readsFrom_rows text
  rw [HasRows]
  generalize Text.lines text.toList = lines at hreads
  constructor
  · intro hrun
    rcases Nat.lt_or_ge (headings lines).length (linesFrom lines (TableStart lines) 0).length
      with hfew | hmany
    · obtain ⟨i, -, hall⟩ := hreads.tooFew hfew
      rw [hall] at hrun
      cases hrun
    · obtain ⟨rows, hrows, hall⟩ := hreads.enough hmany
      rw [hall] at hrun
      obtain rfl := Except.ok.inj hrun
      exact ⟨hmany, hrows⟩
  · rintro ⟨hmany, hrows⟩
    obtain ⟨rows, hrows', hall⟩ := hreads.enough hmany
    have hsame : rows = rows' :=
      List.right_unique_forall₂' (fun _ _ _ h h' => h.unique h') hrows' hrows
    rw [hall, hsame]

theorem outcome_rows_eq_error {text : String} {fault : Fault} :
    (rows text).outcome = .error fault ↔ HasFault text fault := by
  have hreads := readsFrom_rows text
  rw [HasFault]
  generalize Text.lines text.toList = lines at hreads
  constructor
  · intro hrun
    rcases Nat.lt_or_ge (headings lines).length (linesFrom lines (TableStart lines) 0).length
      with hfew | hmany
    · obtain ⟨i, hi, hall⟩ := hreads.tooFew hfew
      rw [hall] at hrun
      exact ⟨i, hi, (Except.error.inj hrun).symm⟩
    · obtain ⟨rows, -, hall⟩ := hreads.enough hmany
      rw [hall] at hrun
      cases hrun
  · rintro ⟨i, hi, rfl⟩
    obtain ⟨i', hi', hall⟩ := hreads.tooFew (List.getElem?_eq_some_iff.1 hi).1
    obtain rfl := Option.some.inj (hi.symm.trans hi')
    rw [hall]

/-- Lines are told apart by where they are said to stand. -/
theorem origin_injective : Function.Injective origin := fun _ _ hsame =>
  Text.toString_injective ((String.append_right_inj "unofficial reference line ").1 hsame)

/-- **No two rows of a listing have the same origin.** -/
theorem HasRows.nodup_origins {text : String} {rows : List Row} (h : HasRows text rows) :
    (rows.map (·.origin)).Nodup := by
  have horigins : (linesFrom (Text.lines text.toList) (DataAt (Text.lines text.toList)) 0).map
      (fun i => origin (i + 1)) = rows.map (·.origin) := by
    rw [← List.forall₂_eq_eq_eq, List.forall₂_map_left_iff, List.forall₂_map_right_iff]
    refine h.2.imp fun i row hrow => ?_
    obtain ⟨_, _, _, _, _, _, -, -, _, _, -, -, rfl⟩ := hrow
    rfl
  rw [← horigins]
  refine ((List.nodup_range' 1).filter _).map fun i j hsame => ?_
  exact Nat.succ_injective (origin_injective hsame)

/-- **The rows of a listing.**  With at least as many headings as tables there is exactly one row
for each line of data, named by the heading of its table, and a warning about the headings left
over.  With fewer, the first table without a heading is reported by its number and its line. -/
theorem rows_named_by_headings (text : String) :
    let lines := Text.lines text.toList
    let heads := headings lines
    let starts := linesFrom lines (TableStart lines) 0
    (starts.length ≤ heads.length → ∃ rows',
      List.Forall₂ (IsRowAt lines heads) (linesFrom lines (DataAt lines) 0) rows' ∧
      rows text = ⟨startNotices starts heads ++ closingNotices heads starts.length, "",
        .ok rows'⟩) ∧
    (heads.length < starts.length → ∃ i fault, starts[heads.length]? = some i ∧
      rows text = ⟨startNotices starts heads, "", .error fault⟩ ∧
      fault.report = ⟨.underrun, Cause.banner ++ ("table #" ++ toString (heads.length + 1)
          ++ " has no mnemonic heading left to claim it"),
        some ("unofficial reference line " ++ toString (i + 1))⟩) := by
  intro lines heads starts
  have hreads : ReadsFrom lines heads 0 (rows text) := by
    rw [rows, names_eq_headings]
    exact readsFrom_of_reached (Nat.zero_le _) rfl (reached_zero lines heads)
  refine ⟨hreads.enough, fun hfew => ?_⟩
  obtain ⟨i, hi, hrun⟩ := hreads.tooFew hfew
  exact ⟨i, _, hi, hrun, rfl⟩

end OpcodeTable.Listing
