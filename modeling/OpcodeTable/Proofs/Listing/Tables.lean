import OpcodeTable.Proofs.Listing.Lines

/-!
# Proofs/Listing/Tables — where a listing has headings and tables

Headings, data and the starts of tables are said here by the number of their line, counted from
zero.  A table starts at a data line with no other data line between it and the header above it;
whether one is open, and how many have started, changes from line to line as `tableOpen_succ`,
`startsAbove_succ_of_pos` and `startsAbove_succ_of_neg` say.
-/

namespace OpcodeTable.Listing

variable {lines : List (List Char)} {n : Nat}

/-- The lines from `n` on that satisfy `p`. -/
def linesFrom (lines : List (List Char)) (p : Nat → Prop) [DecidablePred p] (n : Nat) : List Nat :=
  (List.range' n (lines.length - n)).filter (p ·)

theorem linesFrom_of_length_le {p : Nat → Prop} [DecidablePred p] (h : lines.length ≤ n) :
    linesFrom lines p n = [] := by
  rw [linesFrom, Nat.sub_eq_zero_of_le h]
  rfl

theorem linesFrom_of_lt {p : Nat → Prop} [DecidablePred p] (h : n < lines.length) :
    linesFrom lines p n
      = if p n then n :: linesFrom lines p (n + 1) else linesFrom lines p (n + 1) := by
  have hlength : lines.length - n = (lines.length - (n + 1)) + 1 := by omega
  rw [linesFrom, hlength, List.range'_succ, List.filter_cons, ← linesFrom]
  simp only [decide_eq_true_eq]

theorem linesFrom_of_pos {p : Nat → Prop} [DecidablePred p] (h : n < lines.length) (hp : p n) :
    linesFrom lines p n = n :: linesFrom lines p (n + 1) := by
  rw [linesFrom_of_lt h, if_pos hp]

theorem linesFrom_of_neg {p : Nat → Prop} [DecidablePred p] (h : n < lines.length) (hp : ¬ p n) :
    linesFrom lines p n = linesFrom lines p (n + 1) := by
  rw [linesFrom_of_lt h, if_neg hp]

/-- **Every line of a kind** stands above line `n`, or from it on. -/
theorem filter_range_append_linesFrom {p : Nat → Prop} [DecidablePred p] (h : n ≤ lines.length) :
    (List.range n).filter (p ·) ++ linesFrom lines p n = linesFrom lines p 0 := by
  have hrange : List.range' 0 n ++ List.range' n (lines.length - n)
      = List.range' 0 (lines.length - 0) := by
    have hjoin := List.range'_append_1 (s := 0) (m := n) (n := lines.length - n)
    rwa [Nat.zero_add, Nat.add_sub_cancel' h] at hjoin
  rw [linesFrom, List.range_eq_range', ← List.filter_append, hrange, linesFrom]

/-! ## Headings -/

/-- **A heading at line `i`**: a named line with an underline below it. -/
def HeadingAt (lines : List (List Char)) (i : Nat) : Prop :=
  (∃ line ∈ lines[i]?, NamedLine line) ∧ ∃ line ∈ lines[i + 1]?, Underline line

instance : DecidablePred (HeadingAt lines) := fun _ => instDecidableAnd

/-- The first three characters of line `i`. -/
def nameAt (lines : List (List Char)) (i : Nat) : String :=
  String.ofList ((lines[i]?.getD []).take 3)

/-- **The names of all headings**, from the top. -/
def headings (lines : List (List Char)) : List String :=
  (linesFrom lines (HeadingAt lines) 0).map (nameAt lines)

theorem headings_cons (line : List Char) (rest : List (List Char)) :
    headings (line :: rest)
      = (if HeadingAt (line :: rest) 0 then [nameAt (line :: rest) 0] else [])
        ++ headings rest := by
  have hlater : linesFrom (line :: rest) (HeadingAt (line :: rest)) 1
      = (linesFrom rest (HeadingAt rest) 0).map (· + 1) := by
    rw [linesFrom, linesFrom, List.length_cons, Nat.add_sub_cancel, Nat.sub_zero,
      List.range'_succ_left, List.filter_map]
    rfl
  have hrest : ((linesFrom rest (HeadingAt rest) 0).map (· + 1)).map (nameAt (line :: rest))
      = headings rest := by
    rw [List.map_map]
    rfl
  by_cases hheading : HeadingAt (line :: rest) 0
  · rw [headings, linesFrom_of_pos (Nat.succ_pos _) hheading, if_pos hheading, List.map_cons,
      hlater, hrest, List.singleton_append]
  · rw [headings, linesFrom_of_neg (Nat.succ_pos _) hheading, if_neg hheading, hlater, hrest,
      List.nil_append]

theorem headingAt_zero {line second : List Char} {rest : List (List Char)} :
    HeadingAt (line :: second :: rest) 0 ↔ NamedLine line ∧ Underline second := by
  simp [HeadingAt]

theorem names_cons (line : List Char) (rest : List (List Char)) :
    names (line :: rest)
      = (if HeadingAt (line :: rest) 0 then [nameAt (line :: rest) 0] else []) ++ names rest := by
  cases rest with
  | nil => simp [names, HeadingAt]
  | cons second rest =>
    have hname : (headingName? line).toList
        = if NamedLine line then [nameAt (line :: second :: rest) 0] else [] := by
      by_cases hnamed : NamedLine line
      · rw [if_pos hnamed, headingName?_eq_some.2 ⟨hnamed, rfl⟩]
        rfl
      · have hnone : headingName? line = none := by
          rwa [← headingName?_isSome, Option.not_isSome_iff_eq_none] at hnamed
        rw [if_neg hnamed, hnone, Option.toList_none]
    rw [names, hname]
    simp only [isUnderline_eq_true, headingAt_zero]
    by_cases hunder : Underline second
    · rw [if_pos hunder]
      simp only [hunder, and_true]
    · rw [if_neg hunder, if_neg fun h => hunder h.2, List.nil_append]

/-- **The names the reader collects are those of the headings.** -/
theorem names_eq_headings (lines : List (List Char)) : names lines = headings lines := by
  induction lines with
  | nil => rfl
  | cons line rest ih => rw [names_cons, headings_cons, ih]

/-! ## Tables -/

/-- **A header at line `i`.** -/
def HeaderAt (lines : List (List Char)) (i : Nat) : Prop := ∃ line ∈ lines[i]?, HeaderLine line

/-- **Data at line `i`.** -/
def DataAt (lines : List (List Char)) (i : Nat) : Prop := ∃ line ∈ lines[i]?, DataLine line

instance : DecidablePred (HeaderAt lines) := fun i =>
  inferInstanceAs (Decidable (∃ line ∈ lines[i]?, HeaderLine line))

instance : DecidablePred (DataAt lines) := fun i =>
  inferInstanceAs (Decidable (∃ line ∈ lines[i]?, DataLine line))

/-- **A table is open at line `n`**: data stands above it, with no header between the two. -/
def TableOpen (lines : List (List Char)) (n : Nat) : Prop :=
  ∃ k < n, DataAt lines k ∧ ∀ i < n, k < i → ¬ HeaderAt lines i

instance : DecidablePred (TableOpen lines) := fun n =>
  inferInstanceAs (Decidable (∃ k < n, DataAt lines k ∧ ∀ i < n, k < i → ¬ HeaderAt lines i))

/-- **A table starts at line `i`**: there is data, and no other data stands between it and the
closest header above it, or the top. -/
def TableStart (lines : List (List Char)) (i : Nat) : Prop := DataAt lines i ∧ ¬ TableOpen lines i

instance : DecidablePred (TableStart lines) := fun _ => instDecidableAnd

/-- **The tables that have started above line `n`**, by their first lines. -/
def startsAbove (lines : List (List Char)) (n : Nat) : List Nat :=
  (List.range n).filter (TableStart lines ·)

theorem startsAbove_succ_of_pos (h : TableStart lines n) :
    startsAbove lines (n + 1) = startsAbove lines n ++ [n] := by
  have hlast : [n].filter (TableStart lines ·) = [n] := by simpa using h
  rw [startsAbove, List.range_succ, List.filter_append, hlast, ← startsAbove]

theorem startsAbove_succ_of_neg (h : ¬ TableStart lines n) :
    startsAbove lines (n + 1) = startsAbove lines n := by
  have hlast : [n].filter (TableStart lines ·) = [] := by simpa using h
  rw [startsAbove, List.range_succ, List.filter_append, hlast, ← startsAbove, List.append_nil]

/-- Every table starts above line `n` or from it on. -/
theorem startsAbove_append_linesFrom (h : n ≤ lines.length) :
    startsAbove lines n ++ linesFrom lines (TableStart lines) n
      = linesFrom lines (TableStart lines) 0 :=
  filter_range_append_linesFrom h

theorem DataAt.not_headerAt (h : DataAt lines n) : ¬ HeaderAt lines n := by
  obtain ⟨line, hline, hdata⟩ := h
  rintro ⟨other, hother, hheader⟩
  obtain rfl := Option.some.inj (hline.symm.trans hother)
  exact hdata.1 hheader

/-- **Whether a table is open, one line later**: data opens one, and a header closes it. -/
theorem tableOpen_succ :
    TableOpen lines (n + 1) ↔ DataAt lines n ∨ ¬ HeaderAt lines n ∧ TableOpen lines n := by
  constructor
  · rintro ⟨k, hk, hdata, hnone⟩
    rcases Nat.lt_succ_iff_lt_or_eq.1 hk with hlt | rfl
    · exact .inr ⟨hnone n (Nat.lt_succ_self n) hlt, k, hlt, hdata,
        fun i hi => hnone i (Nat.lt_succ_of_lt hi)⟩
    · exact .inl hdata
  · rintro (hdata | ⟨hheader, k, hk, hdata, hnone⟩)
    · exact ⟨n, Nat.lt_succ_self n, hdata, fun i hi hni => absurd hi (Nat.not_lt.2 hni)⟩
    · refine ⟨k, Nat.lt_succ_of_lt hk, hdata, fun i hi hki => ?_⟩
      rcases Nat.lt_succ_iff_lt_or_eq.1 hi with hlt | rfl
      · exact hnone i hlt hki
      · exact hheader

end OpcodeTable.Listing
