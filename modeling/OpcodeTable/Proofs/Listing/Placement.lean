import OpcodeTable.Proofs.Listing.Rows

/-!
# Proofs/Listing/Placement — which headings stand above their tables

Headings are handed out in order over the whole listing, so a table may take its name from one that
stands further down.  The heading of a row stands above it exactly if enough headings do
(`HeadingOf.lt_iff`), and a listing in which some table starts too early is refused only if it has
too few headings altogether (`rows_below_headings`); with a heading to spare further down it is read
(`lateHeading_names_table_above`).
-/

namespace OpcodeTable.Listing

variable {lines : List (List Char)} {i h k n : Nat} {row : Row}

/-! ## How many lines of a kind stand above -/

section Counting

variable {p : Nat → Prop} [DecidablePred p]

/-- **The `k`-th line of a kind stands above line `n`** exactly if more than `k` of them do. -/
theorem lt_iff_of_getElem?_linesFrom (hn : n ≤ lines.length)
    (hi : (linesFrom lines p 0)[k]? = some i) :
    i < n ↔ k < ((List.range n).filter (p ·)).length := by
  rw [← filter_range_append_linesFrom hn] at hi
  constructor
  · intro hlt
    by_contra hk
    rw [List.getElem?_append_right (Nat.not_lt.1 hk)] at hi
    have hmem := List.mem_range'_1.1 (List.mem_filter.1 (List.mem_of_getElem? hi)).1
    omega
  · intro hk
    rw [List.getElem?_append_left hk] at hi
    exact List.mem_range.1 (List.mem_filter.1 (List.mem_of_getElem? hi)).1

theorem mem_linesFrom : i ∈ linesFrom lines p 0 ↔ i < lines.length ∧ p i := by
  rw [linesFrom, List.mem_filter, List.mem_range'_1, decide_eq_true_iff]
  exact and_congr_left fun _ => by omega

/-- Further down no fewer lines of a kind stand above. -/
theorem length_filter_range_mono {m : Nat} (hm : m ≤ n) :
    ((List.range m).filter (p ·)).length ≤ ((List.range n).filter (p ·)).length :=
  ((List.range_sublist.2 hm).filter _).length_le

end Counting

/-! ## The heading of a row -/

/-- **The headings above line `n`**, by their lines. -/
def headingsAbove (lines : List (List Char)) (n : Nat) : List Nat :=
  (List.range n).filter (HeadingAt lines ·)

/-- **The heading of line `i` stands at line `h`**: it is the one with the same number among all
headings as the last table that has started at line `i` or above has among the tables. -/
def HeadingOf (lines : List (List Char)) (i h : Nat) : Prop :=
  ∃ k, (startsAbove lines (i + 1)).length = k + 1 ∧
    (linesFrom lines (HeadingAt lines) 0)[k]? = some h

theorem DataAt.lt_length (hdata : DataAt lines i) : i < lines.length := by
  obtain ⟨line, hline, -⟩ := hdata
  exact (List.getElem?_eq_some_iff.1 hline).1

/-- **A heading stands above its row** exactly if as many headings as tables do. -/
theorem HeadingOf.lt_iff (hheading : HeadingOf lines i h) (hi : i ≤ lines.length) :
    h < i ↔ (startsAbove lines (i + 1)).length ≤ (headingsAbove lines i).length := by
  obtain ⟨k, hk, hget⟩ := hheading
  rw [lt_iff_of_getElem?_linesFrom hi hget, hk]
  exact Iff.rfl

/-- **The start of a table**: the line of data at or above line `i` from which on no other table has
started. -/
theorem HeadingOf.exists_start (hheading : HeadingOf lines i h) (hi : i < lines.length) :
    ∃ s ≤ i, TableStart lines s ∧
      (startsAbove lines (s + 1)).length = (startsAbove lines (i + 1)).length := by
  obtain ⟨k, hk, -⟩ := hheading
  have hlt : k < (startsAbove lines (i + 1)).length := hk ▸ Nat.lt_succ_self k
  have hmem := List.mem_filter.1 (List.getElem_mem hlt)
  have hsi : (startsAbove lines (i + 1))[k] < i + 1 := List.mem_range.1 hmem.1
  have hget : (linesFrom lines (TableStart lines) 0)[k]? = some (startsAbove lines (i + 1))[k] := by
    rw [← startsAbove_append_linesFrom hi, List.getElem?_append_left hlt,
      List.getElem?_eq_getElem hlt]
  refine ⟨_, Nat.le_of_lt_succ hsi, of_decide_eq_true hmem.2, Nat.le_antisymm ?_ ?_⟩
  · exact length_filter_range_mono hsi
  · rw [hk]
    exact (lt_iff_of_getElem?_linesFrom (hsi.trans_le hi) hget).1 (Nat.lt_succ_self _)

/-- **The row of a line has the name of its heading.** -/
theorem IsRowAt.exists_headingOf (hrow : IsRowAt lines (headings lines) i row) :
    ∃ h, HeadingOf lines i h ∧ row.mnemonic = "*" ++ nameAt lines h ∧
      row.origin = "unofficial reference line " ++ toString (i + 1) ∧
      (h < i ↔ (startsAbove lines (i + 1)).length ≤ (headingsAbove lines i).length) := by
  obtain ⟨line, _, _, _, _, _, hline, -, k, name, hk, hname, rfl⟩ := hrow
  rw [headings, List.getElem?_map, Option.map_eq_some_iff] at hname
  obtain ⟨h, hget, rfl⟩ := hname
  have hheading : HeadingOf lines i h := ⟨k, hk, hget⟩
  have hi : i < lines.length := (List.getElem?_eq_some_iff.1 hline).1
  exact ⟨h, hheading, rfl, rfl, hheading.lt_iff hi.le⟩

/-! ## The whole listing -/

/-- **Too few headings above a table**, itself included in the count of tables. -/
def StartsEarly (lines : List (List Char)) (i : Nat) : Prop :=
  TableStart lines i ∧ (headingsAbove lines i).length < (startsAbove lines (i + 1)).length

/-- **All rows of a listing stand below their headings** exactly if no table starts early. -/
theorem forall_below_iff (hall : ∀ i, DataAt lines i → ∃ h, HeadingOf lines i h) :
    (∀ i h, DataAt lines i → HeadingOf lines i h → h < i) ↔ ∀ i, ¬ StartsEarly lines i := by
  constructor
  · rintro hbelow i ⟨hstart, hearly⟩
    obtain ⟨h, hheading⟩ := hall i hstart.1
    have hle := (hheading.lt_iff hstart.1.lt_length.le).1 (hbelow i h hstart.1 hheading)
    omega
  · intro hnone i h hdata hheading
    obtain ⟨s, hsi, hstart, hcount⟩ := hheading.exists_start hdata.lt_length
    have hle : (startsAbove lines (s + 1)).length ≤ (headingsAbove lines s).length :=
      Nat.not_lt.1 fun hearly => hnone s ⟨hstart, hearly⟩
    rw [hheading.lt_iff hdata.lt_length.le, ← hcount]
    exact hle.trans (length_filter_range_mono hsi)

/-- **Where the headings of a listing stand.**  If the listing is read, each row has the name of the
heading of its line, which stands above it exactly if as many headings as tables do; so all rows
stand below their headings exactly if no table starts early.  The listing is refused exactly if it
has fewer headings than tables, wherever they stand. -/
theorem rows_below_headings (text : String) :
    let lines := Text.lines text.toList
    (∀ rows', (rows text).outcome = .ok rows' →
      List.Forall₂ (fun i row => ∃ h, HeadingOf lines i h ∧ row.mnemonic = "*" ++ nameAt lines h ∧
          row.origin = "unofficial reference line " ++ toString (i + 1) ∧
          (h < i ↔ (startsAbove lines (i + 1)).length ≤ (headingsAbove lines i).length))
        (linesFrom lines (DataAt lines) 0) rows' ∧
      ((∀ i h, DataAt lines i → HeadingOf lines i h → h < i) ↔ ∀ i, ¬ StartsEarly lines i)) ∧
    ((∃ fault, (rows text).outcome = .error fault) ↔
      (linesFrom lines (HeadingAt lines) 0).length
        < (linesFrom lines (TableStart lines) 0).length) ∧
    ∀ fault, (rows text).outcome = .error fault → fault.report.kind = .underrun := by
  intro lines
  refine ⟨fun rows' hrows => ?_, ?_, fun fault hfault => ?_⟩
  · have hread := (outcome_rows_eq_ok.1 hrows).2.imp fun _ _ => IsRowAt.exists_headingOf
    refine ⟨hread, forall_below_iff fun i hdata => ?_⟩
    have hheadings := (List.forall₂_and_left _ _).1 (hread.imp fun i row hrow =>
      (⟨hrow.imp fun h hheading => hheading.1, hrow⟩ : (∃ h, HeadingOf lines i h) ∧ _))
    exact hheadings.1 i (mem_linesFrom.2 ⟨hdata.lt_length, hdata⟩)
  · simp only [outcome_rows_eq_error, HasFault, headings, List.length_map]
    constructor
    · rintro ⟨_, i, hi, -⟩
      exact (List.getElem?_eq_some_iff.1 hi).1
    · exact fun hfew => ⟨_, _, List.getElem?_eq_getElem hfew, rfl⟩
  · obtain ⟨i, -, rfl⟩ := outcome_rows_eq_error.1 hfault
    rfl

/-- A listing whose only heading stands below its only table. -/
def lateHeading : String := "Addressing\nImplied|KIL|$02|1|-\nKIL\n===\n"

/-- Its row. -/
def lateHeadingRow : Row :=
  ⟨.unofficial, "*KIL", "$02", "Implied", "1", "-", "unofficial reference line 2"⟩

/-- **A heading may come after its table**: the table starts early, and still the listing is read,
and its row has the name of the heading further down. -/
theorem lateHeading_names_table_above :
    (rows lateHeading).outcome = .ok [lateHeadingRow] ∧
    StartsEarly (Text.lines lateHeading.toList) 1 ∧ HeadingOf (Text.lines lateHeading.toList) 1 2 ∧
    ¬ (∀ text rows', (rows text).outcome = .ok rows' →
      ∀ i h, DataAt (Text.lines text.toList) i → HeadingOf (Text.lines text.toList) i h → h < i) ∧
    ¬ (∀ text i, StartsEarly (Text.lines text.toList) i →
      ∃ fault, (rows text).outcome = .error fault) := by
  have hread : (rows lateHeading).outcome = .ok [lateHeadingRow] := by decide +kernel
  have hearly : StartsEarly (Text.lines lateHeading.toList) 1 :=
    ⟨by decide +kernel, by decide +kernel⟩
  have hheading : HeadingOf (Text.lines lateHeading.toList) 1 2 :=
    ⟨0, by decide +kernel, by decide +kernel⟩
  refine ⟨hread, hearly, hheading, fun hbelow => ?_, fun hrefused => ?_⟩
  · exact absurd (hbelow _ _ hread 1 2 hearly.1.1 hheading) (by decide)
  · obtain ⟨fault, hfault⟩ := hrefused _ _ hearly
    rw [hread] at hfault
    cases hfault

end OpcodeTable.Listing
