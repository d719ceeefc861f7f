import OpcodeTable.AddressingMode
import OpcodeTable.Cycles
import OpcodeTable.Opcode
import OpcodeTable.Proofs.Blank
import OpcodeTable.Proofs.Digit

/-!
# Proofs/Cell — the ways of writing a cell

References write modes, opcodes and durations in more than one way.  The ways are said here by the
characters of the cell, and each of them is read back as what was written (`ofLabel?_of_spaced`,
`byte?_of_written`, `read_of_written`), blanks around the cell aside.
-/

namespace OpcodeTable

open Text (Padded Spaced Tight isBlank)

/-! ## Characters -/

namespace Text

theorem isBlank_of_isDigit {c : Char} (h : c.isDigit = true) : isBlank c = false := by
  rw [Char.isDigit, Bool.and_eq_true, decide_eq_true_iff, decide_eq_true_iff] at h
  have hbounds : 0x30 ≤ c.toNat ∧ c.toNat ≤ 0x39 := h
  simp only [isBlank, Bool.or_eq_false_iff, Bool.and_eq_false_iff, decide_eq_false_iff_not,
    beq_eq_false_iff_ne]
  omega

theorem isDecimalDigit_of_isDigit {c : Char} (h : c.isDigit = true) : isDecimalDigit c = true := by
  rw [Char.isDigit, Bool.and_eq_true, decide_eq_true_iff, decide_eq_true_iff] at h
  have hbounds : 0x30 ≤ c.toNat ∧ c.toNat ≤ 0x39 := h
  refine List.any_eq_true.2 ⟨0x30, by decide, ?_⟩
  rw [Bool.and_eq_true, decide_eq_true_iff, decide_eq_true_iff]
  omega

/-- No blank is a decimal digit of any script: the digits lie on both sides of the blanks. -/
theorem isDecimalDigit_of_isBlank {c : Char} (h : isBlank c = true) :
    isDecimalDigit c = false := by
  have hzeros : ∀ first ∈ zeroDigits, first = 0x30 ∨ (0x660 ≤ first ∧ first ≤ 0x1090) ∨
      (0x17E0 ≤ first ∧ first ≤ 0x1C50) ∨ 0xA620 ≤ first := by decide
  rw [← Bool.not_eq_true, isDecimalDigit, List.any_eq_true]
  rintro ⟨first, hfirst, hc⟩
  have hplace := hzeros first hfirst
  simp only [isBlank, Bool.or_eq_true, Bool.and_eq_true, decide_eq_true_eq, beq_iff_eq] at h hc
  omega

theorem isBlank_of_isHex {value : Fin 16} {c : Char} (h : IsHex value c) : isBlank c = false := by
  rcases h with rfl | rfl <;> revert value <;> decide

end Text

/-! ## Labels -/

namespace AddressingMode

/-- A label has no blanks of its own. -/
theorem isBlank_of_mem_label (mode : AddressingMode) :
    ∀ c ∈ mode.label.toList, isBlank c = false := by
  have hall : mode.label.toList.all (!isBlank ·) = true := by cases mode <;> decide
  simpa using hall

/-- No two modes have the same label. -/
theorem find?_label (mode : AddressingMode) :
    all.find? (fun other => other.label.toList == mode.label.toList) = some mode := by
  cases mode <;> decide

/-- **A label is read** with blanks anywhere in it. -/
theorem ofLabel?_of_spaced {mode : AddressingMode} {text : List Char}
    (h : Spaced mode.label.toList text) :
    ofLabel? (String.ofList (Text.trim text)) = some mode := by
  rw [ofLabel?, String.toList_ofList, Text.squeeze_trim, h.squeeze_eq mode.isBlank_of_mem_label,
    find?_label]

end AddressingMode

/-! ## Opcodes -/

namespace Opcode

/-- What may announce a hexadecimal number, or nothing. -/
def marks : List (List Char) := [[], ['$'], ['0', 'x'], ['0', 'X']]

/-- **The ways of writing an opcode**: two hexadecimal digits in either case, behind one of the
marks. -/
def Written (opcode : UInt8) (text : List Char) : Prop :=
  ∃ mark ∈ marks, ∃ (high low : Fin 16) (first second : Char), opcode.toNat = 16 * high + low ∧
    Text.IsHex high first ∧ Text.IsHex low second ∧ text = mark ++ [first, second]

/-- The digits are what is left without the mark; on their own they start with none. -/
theorem withoutMark_append {mark digits : List Char} (hmark : mark ∈ marks)
    (hdigits : ∀ c ∈ digits, ∃ value, Text.IsHex value c) :
    withoutMark (mark ++ digits) = digits := by
  have hother : ∀ {c}, c ∈ digits → c ≠ '$' ∧ c ≠ 'x' ∧ c ≠ 'X' := fun hc =>
    let ⟨_, hdigit⟩ := hdigits _ hc
    ⟨hdigit.ne rfl, hdigit.ne rfl, hdigit.ne rfl⟩
  simp only [marks, List.mem_cons, List.not_mem_nil, or_false] at hmark
  rcases hmark with rfl | rfl | rfl | rfl
  · match digits with
    | [] => rfl
    | [c] => simp [withoutMark, hother]
    | c :: d :: rest => simp [withoutMark, hother]
  · rfl
  · rfl
  · rfl

variable {opcode : UInt8} {text : List Char}

theorem Written.tight (h : Written opcode text) : Tight text := by
  obtain ⟨mark, hmark, high, low, first, second, -, hfirst, hsecond, rfl⟩ := h
  refine ⟨?_, second, by rw [List.getLast?_append]; rfl, Text.isBlank_of_isHex hsecond⟩
  simp only [marks, List.mem_cons, List.not_mem_nil, or_false] at hmark
  rcases hmark with rfl | rfl | rfl | rfl
  · exact ⟨first, rfl, Text.isBlank_of_isHex hfirst⟩
  · exact ⟨'$', rfl, by decide⟩
  · exact ⟨'0', rfl, by decide⟩
  · exact ⟨'0', rfl, by decide⟩

/-- The characters of a written opcode are hexadecimal digits and those of the mark. -/
theorem Written.notMem {c : Char} (h : Written opcode text) (hdigit : Text.digitValue? 16 c = none)
    (hmark : c ∉ marks.flatten) : c ∉ text := by
  obtain ⟨mark, hmem, high, low, first, second, -, hfirst, hsecond, rfl⟩ := h
  have hnot : c ∉ mark := fun hc => hmark (List.mem_flatten.2 ⟨mark, hmem, hc⟩)
  simp [hnot, (hfirst.ne hdigit).symm, (hsecond.ne hdigit).symm]

/-- **An opcode is read** in each of these ways. -/
theorem byte?_of_written (h : Written opcode text) : byte? text = some opcode := by
  rw [byte?, Text.trim_of_tight h.tight]
  obtain ⟨mark, hmark, high, low, first, second, hvalue, hfirst, hsecond, rfl⟩ := h
  have hdigits : ∀ c ∈ [first, second], ∃ value, Text.IsHex value c := by
    simpa using ⟨⟨high, hfirst⟩, low, hsecond⟩
  simp only [withoutMark_append hmark hdigits]
  rw [if_pos (by simp), Text.natural?_of_isHex hfirst hsecond, ← hvalue, Option.map_some,
    Nat.toUInt8, UInt8.ofNat_toNat]

end Opcode

/-! ## Durations -/

namespace Cycles

/-- The digits of a base count. -/
def digits (base : UInt8) : List Char := (toString base.toNat).toList

/-- The note on an instruction whose branch may be taken. -/
def branchNote : List Char := '(' :: "+1 if branch succeeds".toList ++ [')']

/-- **The ways of writing a duration**: its base count, and behind it a star or a note where the
instruction may take longer. -/
inductive Written : Cycles → List Char → Prop
  | plain (base : UInt8) : Written ⟨base, .none⟩ (digits base)
  | starred (base : UInt8) {gap : List Char} (hgap : ∀ c ∈ gap, isBlank c = true) :
      Written ⟨base, .pageCrossed⟩ (digits base ++ gap ++ ['*'])
  | noted (base : UInt8) : Written ⟨base, .branchTaken⟩ (digits base ++ [' '] ++ branchNote)

/-! ### Digits -/

theorem isDigit_of_mem_digits {base : UInt8} {c : Char} (h : c ∈ digits base) :
    c.isDigit = true :=
  Text.isDigit_of_mem_toString h

theorem notMem_digits {c : Char} (hc : c.isDigit = false) (base : UInt8) : c ∉ digits base :=
  fun hmem => by rw [isDigit_of_mem_digits hmem] at hc; cases hc

/-- Blanks behind the digits bring no other characters but themselves. -/
theorem notMem_digits_append {c : Char} {gap : List Char} (hdigit : c.isDigit = false)
    (hblank : isBlank c = false) (hgap : ∀ d ∈ gap, isBlank d = true) (base : UInt8) :
    c ∉ digits base ++ gap := by
  rw [List.mem_append]
  refine not_or.2 ⟨notMem_digits hdigit base, fun hc => ?_⟩
  rw [hgap c hc] at hblank
  cases hblank

theorem byte?_digits (base : UInt8) : Text.byte? 10 (digits base) = some base := by
  rw [digits, Text.byte?_of_natural? (Text.natural?_toString _) base.toNat_lt, Nat.toUInt8,
    UInt8.ofNat_toNat]

/-! ### Notes -/

theorem withoutNotes_nil : withoutNotes [] = [] := by rw [withoutNotes]

theorem withoutNotes_append : ∀ {front : List Char}, '(' ∉ front → ∀ rest,
    withoutNotes (front ++ rest) = front ++ withoutNotes rest := by
  intro front
  induction front with
  | nil => intro _ rest; rfl
  | cons c front ih =>
    intro h rest
    obtain ⟨hc, hfront⟩ := List.ne_and_not_mem_of_not_mem_cons h
    rw [List.cons_append, withoutNotes, if_neg hc.symm, ih hfront, List.cons_append]

theorem withoutNotes_of_notMem {text : List Char} (h : '(' ∉ text) : withoutNotes text = text := by
  rw [← List.append_nil text, withoutNotes_append h, withoutNotes_nil]

theorem afterNote?_append : ∀ {note : List Char}, ')' ∉ note → ∀ rest,
    afterNote? (note ++ ')' :: rest) = some rest := by
  intro note
  induction note with
  | nil => intro _ rest; exact if_pos rfl
  | cons c note ih =>
    intro h rest
    obtain ⟨hc, hnote⟩ := List.ne_and_not_mem_of_not_mem_cons h
    rw [List.cons_append, afterNote?, if_neg hc.symm, ih hnote]

/-- **A note goes** with both of its parentheses. -/
theorem withoutNotes_note {note : List Char} (h : ')' ∉ note) (rest : List Char) :
    withoutNotes ('(' :: note ++ ')' :: rest) = withoutNotes rest := by
  have hafter := afterNote?_append h rest
  rw [List.cons_append, withoutNotes, if_pos rfl]
  split
  · rename_i after hsome
    exact congrArg withoutNotes (Option.some.inj (hsome.symm.trans hafter))
  · rename_i hnone
    rw [hnone] at hafter
    cases hafter

theorem withoutNotes_branchNote : withoutNotes branchNote = [] := by
  rw [branchNote, withoutNotes_note (by decide), withoutNotes_nil]

/-! ### Whole cells -/

variable {cycles : Cycles} {base : UInt8} {text gap : List Char}

theorem tight_digits (base : UInt8) : Tight (digits base) :=
  Text.tight_of_forall (Text.toList_toString_ne_nil _) fun _ hc =>
    Text.isBlank_of_isDigit (isDigit_of_mem_digits hc)

theorem Written.tight (h : Written cycles text) : Tight text := by
  cases h with
  | plain base => exact tight_digits base
  | starred base => exact (tight_digits base).append _ (by decide)
  | noted base => exact (tight_digits base).append _ (by decide)

/-- The characters of a written duration are digits, blanks, stars and those of the note. -/
theorem Written.notMem {c : Char} (h : Written cycles text) (hdigit : c.isDigit = false)
    (hblank : isBlank c = false) (hnote : c ∉ '*' :: ' ' :: branchNote) : c ∉ text := by
  obtain ⟨hstar, hnote⟩ := List.ne_and_not_mem_of_not_mem_cons hnote
  cases h with
  | plain base => exact notMem_digits hdigit base
  | starred base hgap =>
    rw [List.mem_append, List.mem_singleton]
    exact not_or.2 ⟨notMem_digits_append hdigit hblank hgap base, hstar⟩
  | noted base =>
    rw [List.append_assoc, List.mem_append]
    exact not_or.2 ⟨notMem_digits hdigit base, hnote⟩

/-- The decimal digits of a count end where blanks begin. -/
theorem takeWhile_digits_append (hgap : ∀ c ∈ gap, isBlank c = true) (base : UInt8) :
    (digits base ++ gap).takeWhile Text.isDecimalDigit = digits base := by
  rw [Text.takeWhile_append_of_forall_not fun c hc => Text.isDecimalDigit_of_isBlank (hgap c hc),
    List.takeWhile_eq_self_iff]
  exact fun c hc => Text.isDecimalDigit_of_isDigit (isDigit_of_mem_digits hc)

/-- **The digits of a cell** are found if blanks and stars are all that stands behind them. -/
theorem countDigits_eq {stars : List Char} (hgap : ∀ c ∈ gap, isBlank c = true)
    (hstars : ∀ c ∈ stars, (c == '*') = true)
    (h : Text.trim (withoutNotes text) = digits base ++ gap ++ stars) :
    countDigits text = digits base := by
  have hlast : ∃ c ∈ (digits base ++ gap).getLast?, (c == '*') = false := by
    have hne : digits base ++ gap ≠ [] :=
      List.append_ne_nil_of_left_ne_nil (Text.toList_toString_ne_nil _) _
    have hstar : '*' ∉ digits base ++ gap :=
      notMem_digits_append (by decide) (by decide) hgap base
    exact ⟨_, List.getLast?_eq_some_getLast hne,
      beq_eq_false_iff_ne.2 fun heq => hstar (heq ▸ List.getLast_mem hne)⟩
  have hhead := Text.exists_head?_append (tight_digits base).1 gap
  rw [countDigits, h, Text.trimEndWhile_append hstars hlast]
  simp only [Text.dropWhile_of_head hhead]
  exact takeWhile_digits_append hgap base

theorem countDigits_of_written (h : Written cycles text) :
    countDigits text = digits cycles.base := by
  have hnil : ∀ {p : Char → Prop}, ∀ c ∈ ([] : List Char), p c := fun c hc =>
    absurd hc List.not_mem_nil
  have hspace : ∀ c ∈ [' '], isBlank c = true := List.forall_mem_singleton.2 (by decide)
  cases h with
  | plain base =>
    have hcell : Text.trim (withoutNotes (digits base)) = digits base ++ [] ++ [] := by
      rw [withoutNotes_of_notMem (notMem_digits (by decide) base),
        Text.trim_of_tight (tight_digits base), List.append_nil, List.append_nil]
    exact countDigits_eq hnil hnil hcell
  | @starred base gap hgap =>
    have hnote : '(' ∉ digits base ++ gap ++ ['*'] := by
      rw [List.mem_append]
      exact not_or.2 ⟨notMem_digits_append (by decide) (by decide) hgap base, by decide⟩
    have hcell : Text.trim (withoutNotes (digits base ++ gap ++ ['*']))
        = digits base ++ gap ++ ['*'] := by
      rw [withoutNotes_of_notMem hnote, Text.trim_of_tight (Written.starred base hgap).tight]
    exact countDigits_eq hgap (List.forall_mem_singleton.2 rfl) hcell
  | noted base =>
    have hnote : '(' ∉ digits base ++ [' '] :=
      notMem_digits_append (by decide) (by decide) hspace base
    have hpadded : Padded (digits base) (digits base ++ [' ']) :=
      ⟨[], [' '], hnil, hspace, rfl⟩
    have hcell : Text.trim (withoutNotes (digits base ++ [' '] ++ branchNote))
        = digits base ++ [] ++ [] := by
      rw [withoutNotes_append hnote, withoutNotes_branchNote, List.append_nil,
        hpadded.trim_eq (tight_digits base), List.append_nil, List.append_nil]
    exact countDigits_eq hnil hnil hcell

theorem adjustmentOf_of_written (h : Written cycles text) :
    adjustmentOf text = cycles.adjustment := by
  cases h with
  | plain base =>
    have hbranch : Text.occurs "branch succeeds".toList (digits base) = false :=
      Text.occurs_eq_false (by decide : 'b' ∈ _) (notMem_digits (by decide) base)
    have hpage : Text.occurs "page crossed".toList (digits base) = false :=
      Text.occurs_eq_false (by decide : 'p' ∈ _) (notMem_digits (by decide) base)
    have hstar : ((digits base).getLast? == some '*') = false :=
      beq_eq_false_iff_ne.2 fun hlast =>
        notMem_digits (by decide) base (List.mem_of_getLast? hlast)
    rw [adjustmentOf, hbranch, hpage, hstar]
    rfl
  | @starred base gap hgap =>
    have hnone : 'b' ∉ digits base ++ gap ++ ['*'] := by
      rw [List.mem_append]
      exact not_or.2 ⟨notMem_digits_append (by decide) (by decide) hgap base, by decide⟩
    have hbranch : Text.occurs "branch succeeds".toList (digits base ++ gap ++ ['*']) = false :=
      Text.occurs_eq_false (by decide) hnone
    have hstar : ((digits base ++ gap ++ ['*']).getLast? == some '*') = true := by
      rw [List.getLast?_concat, beq_self_eq_true]
    rw [adjustmentOf, hbranch, hstar, Bool.or_true]
    rfl
  | noted base =>
    have hnote : "branch succeeds".toList <:+: branchNote :=
      Text.occurs_eq_true.1 (by decide)
    have hbranch : Text.occurs "branch succeeds".toList (digits base ++ [' '] ++ branchNote)
        = true :=
      Text.occurs_eq_true.2 (hnote.trans (List.suffix_append _ _).isInfix)
    rw [adjustmentOf, if_pos hbranch]

/-- **A duration is read** in each of these ways. -/
theorem read_of_written (h : Written cycles text) : read (String.ofList text) = .ok cycles := by
  have hdash : text ≠ ['-'] := by
    rintro rfl
    exact h.notMem (by decide) (by decide) (by decide) List.mem_cons_self
  have hne : ¬ (digits cycles.base).isEmpty = true := by
    rw [List.isEmpty_iff]
    exact Text.toList_toString_ne_nil _
  rw [read, String.toList_ofList, Text.trim_of_tight h.tight, if_neg hdash]
  simp only [countDigits_of_written h, adjustmentOf_of_written h]
  rw [if_neg hne, byte?_digits]

end Cycles

end OpcodeTable
