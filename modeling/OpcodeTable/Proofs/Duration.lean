import OpcodeTable.Proofs.Cell

/-!
# Proofs/Duration — the duration a cycle cell describes

The count of a cell is the run of digits it starts with once its notes are gone; what may add to it
is read off the cell with its notes still there.  Both are said here by the characters of the cell
(`Stripped`, `Text.LeadingDigits`, `Announces`), and for every text these decide what is read
(`read_of_cell`).
-/

namespace OpcodeTable

/-! ## Digits in front -/

namespace Text

variable {run text : List Char}

/-- **The run of digits a text starts with**, of any script and as long as it can be; it is empty if
the text starts with no digit. -/
def LeadingDigits (run text : List Char) : Prop :=
  ∃ rest, text = run ++ rest ∧ (∀ c ∈ run, isDecimalDigit c = true) ∧
    ∀ c ∈ rest.head?, isDecimalDigit c = false

theorem leadingDigits_iff : LeadingDigits run text ↔ run = text.takeWhile isDecimalDigit := by
  constructor
  · rintro ⟨rest, rfl, hrun, hrest⟩
    rw [List.takeWhile_append_of_pos hrun, takeWhile_of_head? hrest, List.append_nil]
  · rintro rfl
    refine ⟨text.dropWhile isDecimalDigit, List.takeWhile_append_dropWhile.symm,
      fun c hc => List.mem_takeWhile_imp hc, fun c hc => ?_⟩
    have hhead := List.head?_dropWhile_not isDecimalDigit text
    rw [Option.mem_def.1 hc] at hhead
    exact hhead

/-- **The byte of a run of digits**: all are ASCII digits, and together they are worth it. -/
theorem byte?_eq_some_iff (hrun : ∀ c ∈ run, isDecimalDigit c = true) (hne : run ≠ [])
    {byte : UInt8} : byte? 10 run = some byte ↔
      (∀ c ∈ run, c.isDigit = true) ∧ Nat.ofDigitChars 10 run 0 = byte.toNat := by
  have hplus : ∀ digits, run ≠ '+' :: digits := by
    rintro digits rfl
    exact absurd (hrun '+' List.mem_cons_self) (by decide)
  rw [byte?_eq_some]
  constructor
  · rintro ⟨digits, rfl | rfl, -, hdigits, hvalue⟩
    · exact ⟨hdigits, hvalue⟩
    · exact absurd rfl (hplus digits)
  · rintro ⟨hdigits, hvalue⟩
    exact ⟨run, .inl rfl, hne, hdigits, hvalue⟩

/-- **A run of digits is no byte** with a digit of another script, or worth too much. -/
theorem byte?_eq_none_iff (hrun : ∀ c ∈ run, isDecimalDigit c = true) (hne : run ≠ []) :
    byte? 10 run = none ↔
      (∃ c ∈ run, c.isDigit = false) ∨ 255 < Nat.ofDigitChars 10 run 0 := by
  simp only [Option.eq_none_iff_forall_ne_some, ne_eq, byte?_eq_some_iff hrun hne]
  constructor
  · intro hnone
    by_cases hascii : ∀ c ∈ run, c.isDigit = true
    · refine .inr (Nat.not_le.1 fun hsmall => hnone (.ofNat (Nat.ofDigitChars 10 run 0)) ?_)
      exact ⟨hascii, (UInt8.toNat_ofNat_of_lt' (Nat.lt_succ_of_le hsmall)).symm⟩
    · exact .inl (by simpa using hascii)
  · rintro (⟨c, hc, hother⟩ | hlarge) byte ⟨hascii, hvalue⟩
    · rw [hascii c hc] at hother
      cases hother
    · exact absurd byte.toNat_lt (Nat.not_lt.2 (hvalue ▸ hlarge))

end Text

namespace Cycles

/-! ## A cell without its notes -/

variable {text rest cell : List Char} {adjustment : Adjustment}

/-- **A text and what is left of it without its notes.**  An opening parenthesis goes with all up to
the first closing one behind it, and stays where none follows; all other characters stay. -/
inductive Stripped : List Char → List Char → Prop
  | nil : Stripped [] []
  | char {c : Char} {text rest : List Char} (hc : c ≠ '(') (hlater : Stripped text rest) :
      Stripped (c :: text) (c :: rest)
  | note {note text rest : List Char} (hnote : ')' ∉ note) (hlater : Stripped text rest) :
      Stripped ('(' :: note ++ ')' :: text) rest
  | unclosed {text rest : List Char} (hnone : ')' ∉ text) (hlater : Stripped text rest) :
      Stripped ('(' :: text) ('(' :: rest)

theorem afterNote?_eq_none : afterNote? text = none ↔ ')' ∉ text := by
  induction text with
  | nil => simp [afterNote?]
  | cons c text ih =>
    rw [afterNote?, List.mem_cons, not_or]
    by_cases hc : c = ')'
    · simp [hc]
    · rw [if_neg hc, ih]
      simp [Ne.symm hc]

theorem exists_note_of_afterNote? (h : afterNote? text = some rest) :
    ∃ note, ')' ∉ note ∧ text = note ++ ')' :: rest := by
  induction text with
  | nil => cases h
  | cons c text ih =>
    rw [afterNote?] at h
    by_cases hc : c = ')'
    · rw [if_pos hc, Option.some.injEq] at h
      exact ⟨[], List.not_mem_nil, by rw [hc, h]; rfl⟩
    · rw [if_neg hc] at h
      obtain ⟨note, hnote, rfl⟩ := ih h
      exact ⟨c :: note, List.not_mem_cons_of_ne_of_not_mem (Ne.symm hc) hnote, rfl⟩

/-- Without a closing parenthesis there is no note. -/
theorem stripped_self : ∀ {text : List Char}, ')' ∉ text → Stripped text text := by
  intro text
  induction text with
  | nil => intro _; exact .nil
  | cons c text ih =>
    intro h
    have htext := (List.ne_and_not_mem_of_not_mem_cons h).2
    by_cases hc : c = '('
    · rw [hc]
      exact .unclosed htext (ih htext)
    · exact .char hc (ih htext)

theorem stripped_withoutNotes (text : List Char) : Stripped text (withoutNotes text) := by
  fun_induction withoutNotes text with
  | case1 => exact .nil
  | case2 text after hafter _ ih =>
    obtain ⟨note, hnote, rfl⟩ := exists_note_of_afterNote? hafter
    exact .note hnote ih
  | case3 text hafter =>
    have hnone := afterNote?_eq_none.1 hafter
    exact .unclosed hnone (stripped_self hnone)
  | case4 c text hc ih => exact .char hc ih

/-- **Nothing goes from a text without a closing parenthesis.** -/
theorem Stripped.eq_self (h : Stripped text rest) (hnone : ')' ∉ text) : rest = text := by
  induction h with
  | nil => rfl
  | char _ _ ih => rw [ih (List.ne_and_not_mem_of_not_mem_cons hnone).2]
  | note => exact absurd (by simp) hnone
  | unclosed hlater _ ih => rw [ih hlater]

/-- **Every text has one stripped form.** -/
theorem stripped_iff : Stripped text rest ↔ rest = withoutNotes text := by
  refine ⟨fun h => ?_, fun h => h ▸ stripped_withoutNotes text⟩
  induction h with
  | nil => exact withoutNotes_nil.symm
  | char hc _ ih => rw [withoutNotes, if_neg hc, ih]
  | note hnote _ ih => rw [withoutNotes_note hnote, ih]
  | @unclosed text rest hnone hlater _ =>
    rw [withoutNotes, if_pos rfl]
    split
    · rename_i after hafter
      rw [afterNote?_eq_none.2 hnone] at hafter
      cases hafter
    · rw [hlater.eq_self hnone]

/-! ## The digits of a cell -/

/-- **Neither the stars at the end nor blanks in front change the digits**: a trimmed text starts
with no blank, and still does not without its stars. -/
theorem countDigits_eq_takeWhile (cell : List Char) :
    countDigits cell = (Text.trim (withoutNotes cell)).takeWhile Text.isDecimalDigit := by
  obtain ⟨stars, hstars, hparts⟩ :=
    Text.exists_trimEndWhile_append (· == '*') (Text.trim (withoutNotes cell))
  rw [countDigits]
  generalize Text.trimEndWhile (· == '*') (Text.trim (withoutNotes cell)) = bare at hparts ⊢
  have hhead : ∀ c ∈ bare.head?, Text.isBlank c = false := fun c hc =>
    Text.not_isBlank_head?_trim (withoutNotes cell) c (by
      rw [hparts, List.head?_append, Option.mem_def.1 hc]
      rfl)
  have hblank : bare.dropWhile Text.isBlank = bare := by
    cases bare with
    | nil => rfl
    | cons c bare => exact Text.dropWhile_of_head ⟨c, rfl, hhead c rfl⟩
  have hnot : ∀ c ∈ stars, Text.isDecimalDigit c = false := fun c hc => by
    rw [eq_of_beq (hstars c hc)]
    decide
  rw [hblank, hparts, Text.takeWhile_append_of_forall_not hnot]

/-! ## What a cell announces -/

/-- **The adjustment a cell announces**: a note on branches outranks one on pages and a star at the
end, and without any of them there is none. -/
inductive Announces (cell : List Char) : Adjustment → Prop
  | branch (hbranch : "branch succeeds".toList <:+: cell) : Announces cell .branchTaken
  | page (hbranch : ¬ "branch succeeds".toList <:+: cell)
      (hpage : "page crossed".toList <:+: cell ∨ ['*'] <:+ cell) : Announces cell .pageCrossed
  | none (hbranch : ¬ "branch succeeds".toList <:+: cell)
      (hpage : ¬ "page crossed".toList <:+: cell) (hstar : ¬ ['*'] <:+ cell) : Announces cell .none

theorem announces_iff : Announces cell adjustment ↔ adjustment = adjustmentOf cell := by
  have hlast : (cell.getLast? == some '*') = true ↔ ['*'] <:+ cell := by
    rw [beq_iff_eq, List.getLast?_eq_some_iff]
    exact exists_congr fun _ => eq_comm
  rw [adjustmentOf]
  simp only [Bool.or_eq_true, Text.occurs_eq_true, hlast]
  constructor
  · rintro (hbranch | ⟨hbranch, hpage⟩ | ⟨hbranch, hpage, hstar⟩)
    · rw [if_pos hbranch]
    · rw [if_neg hbranch, if_pos hpage]
    · rw [if_neg hbranch, if_neg (not_or.2 ⟨hpage, hstar⟩)]
  · rintro rfl
    split_ifs with hbranch hpage
    · exact .branch hbranch
    · exact .page hbranch hpage
    · exact .none hbranch (not_or.1 hpage).1 (not_or.1 hpage).2

/-! ## The whole cell -/

section Reading

variable {text : String} {run : List Char}

theorem isDecimalDigit_of_countDigits (hrun : countDigits cell = run) :
    ∀ c ∈ run, Text.isDecimalDigit c = true := fun _ hc =>
  List.mem_takeWhile_imp (hrun ▸ hc)

/-- **A cell is read** if its run of digits is a byte. -/
theorem read_eq_ok_iff (hdash : Text.trim text.toList ≠ ['-'])
    (hrun : countDigits (Text.trim text.toList) = run) {base : UInt8} :
    read text = .ok ⟨base, adjustment⟩ ↔ run ≠ [] ∧ (∀ c ∈ run, c.isDigit = true) ∧
      Nat.ofDigitChars 10 run 0 = base.toNat ∧ Announces (Text.trim text.toList) adjustment := by
  rw [read, if_neg hdash]
  simp only [hrun, List.isEmpty_iff]
  by_cases hempty : run = []
  · rw [if_pos hempty]
    exact iff_of_false (fun h => by cases h) fun h => h.1 hempty
  rw [if_neg hempty, and_iff_right hempty, announces_iff, ← and_assoc,
    ← Text.byte?_eq_some_iff (isDecimalDigit_of_countDigits hrun) hempty]
  cases Text.byte? 10 run with
  | none => exact iff_of_false (fun h => by cases h) fun h => by cases h.1
  | some byte =>
    rw [Except.ok.injEq, Cycles.mk.injEq, Option.some.injEq]
    exact and_congr_right fun _ => eq_comm

/-- **A cell is refused** without digits, or if they are no byte. -/
theorem read_eq_error_iff (hdash : Text.trim text.toList ≠ ['-'])
    (hrun : countDigits (Text.trim text.toList) = run) {cause : Cause} :
    read text = .error cause ↔ run = [] ∧ cause = .noCycleCount text ∨
      run ≠ [] ∧ ((∃ c ∈ run, c.isDigit = false) ∨ 255 < Nat.ofDigitChars 10 run 0) ∧
        cause = .cycleCountRange (String.ofList run) text := by
  rw [read, if_neg hdash]
  simp only [hrun, List.isEmpty_iff]
  by_cases hempty : run = []
  · rw [if_pos hempty, Except.error.injEq, and_iff_right hempty, eq_comm]
    exact (or_iff_left fun h => h.1 hempty).symm
  rw [if_neg hempty, and_iff_right hempty,
    ← Text.byte?_eq_none_iff (isDecimalDigit_of_countDigits hrun) hempty,
    or_iff_right fun h => hempty h.1]
  cases Text.byte? 10 run with
  | none =>
    rw [and_iff_right rfl, Except.error.injEq]
    exact eq_comm
  | some byte => exact iff_of_false (fun h => by cases h) fun h => by cases h.1

end Reading

/-- **The duration of a cell.**  A lone dash is no time at all.  Any other cell has one stripped
form, and that form, trimmed, one run of digits in front.  The cell is read exactly if the run is not
empty, holds ASCII digits only and is worth a byte, and then with the adjustment it announces; an
empty run, and one that is no byte, are the two ways to fail. -/
theorem read_of_cell (text : String) :
    let cell := Text.trim text.toList
    (cell = ['-'] → read text = .ok ⟨0, .none⟩) ∧
    (cell ≠ ['-'] → ∃ bare run, (∀ other, Stripped cell other ↔ other = bare) ∧
      (∀ other, Text.LeadingDigits other (Text.trim bare) ↔ other = run) ∧
      (∀ base adjustment, read text = .ok ⟨base, adjustment⟩ ↔
        run ≠ [] ∧ (∀ c ∈ run, c.isDigit = true) ∧ Nat.ofDigitChars 10 run 0 = base.toNat ∧
          Announces cell adjustment) ∧
      (∀ cause, read text = .error cause ↔
        run = [] ∧ cause = .noCycleCount text ∨
        run ≠ [] ∧ ((∃ c ∈ run, c.isDigit = false) ∨ 255 < Nat.ofDigitChars 10 run 0) ∧
          cause = .cycleCountRange (String.ofList run) text) ∧
      ∀ cause, read text = .error cause → cause.kind = .invalidCycleCount ∧
        cause.message = if run = [] then "no cycle count in \"" ++ text ++ "\"" else
          "cycle count " ++ String.ofList run ++ " in \"" ++ text ++ "\" is out of range") := by
  intro cell
  refine ⟨fun hdash => if_pos hdash, fun hdash => ?_⟩
  refine ⟨_, _, fun _ => stripped_iff, fun _ => Text.leadingDigits_iff, ?_⟩
  rw [← countDigits_eq_takeWhile]
  generalize hrun : countDigits cell = run
  refine ⟨fun base adjustment => read_eq_ok_iff hdash hrun,
    fun cause => read_eq_error_iff hdash hrun,
    fun cause hread => ⟨kind_of_read_eq_error hread, ?_⟩⟩
  obtain ⟨hempty, rfl⟩ | ⟨hne, -, rfl⟩ := (read_eq_error_iff hdash hrun).1 hread
  · exact (if_pos hempty).symm
  · exact (if_neg hne).symm

end Cycles

end OpcodeTable
