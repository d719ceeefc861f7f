import OpcodeTable.Fault
import OpcodeTable.Text.Blank
import OpcodeTable.Text.Substitute

/-!
# Cycles — the duration in a cycle cell

A cell gives a base count and may say, in a note or by a star, that the instruction takes longer
when it crosses a page or when its branch is taken.
-/

namespace OpcodeTable

/-- **What makes an instruction take longer** than its base count. -/
inductive Adjustment where
  | none
  | pageCrossed
  | branchTaken
  deriving DecidableEq, Repr

/-- The adjustment's name in tables. -/
def Adjustment.name : Adjustment → String
  | none => "None"
  | pageCrossed => "PageCrossed"
  | branchTaken => "BranchTaken"

/-- **The duration of an instruction**: a base count and what may add to it. -/
structure Cycles where
  base : UInt8
  adjustment : Adjustment
  deriving DecidableEq, Repr

namespace Cycles

/-! ## Notes in parentheses -/

/-- What follows the first closing parenthesis, if there is one. -/
def afterNote? : List Char → Option (List Char)
  | [] => none
  | c :: rest => if c = ')' then some rest else afterNote? rest

theorem length_of_afterNote? {cs rest : List Char} (h : afterNote? cs = some rest) :
    rest.length < cs.length := by
  induction cs with
  | nil => simp [afterNote?] at h
  | cons c cs ih =>
    by_cases hc : c = ')'
    · simp only [afterNote?, hc, if_true, Option.some.injEq] at h
      simp [h]
    · simp only [afterNote?, hc, if_false] at h
      exact Nat.lt_succ_of_lt (ih h)

/-- **The text without its notes**: an opening parenthesis goes with everything up to the next
closing one.  Where none follows, no later parenthesis opens a note either. -/
def withoutNotes : List Char → List Char
  | [] => []
  | c :: rest =>
    if c = '(' then
      match h : afterNote? rest with
      | some after =>
        have : after.length < rest.length := length_of_afterNote? h
        withoutNotes after
      | none => c :: rest
    else c :: withoutNotes rest
termination_by cs => cs.length

/-! ## Reading a cell -/

/-- The adjustment a trimmed cell announces: a note on branches outranks one on pages, for which a
star at the end may stand. -/
def adjustmentOf (cell : List Char) : Adjustment :=
  if Text.occurs "branch succeeds".toList cell then .branchTaken
  else if Text.occurs "page crossed".toList cell || cell.getLast? == some '*' then .pageCrossed
  else .none

/-- The digits a trimmed cell starts with once its notes and closing stars are gone. -/
def countDigits (cell : List Char) : List Char :=
  let bare := Text.trimEndWhile (· == '*') (Text.trim (withoutNotes cell))
  (bare.dropWhile Text.isBlank).takeWhile Text.isDecimalDigit

/-- **The duration a cycle text describes**: a lone dash is no time at all, and any other text
starts with its base count. -/
def read (text : String) : Except Cause Cycles :=
  let cell := Text.trim text.toList
  if cell = ['-'] then .ok ⟨0, .none⟩
  else
    let digits := countDigits cell
    if digits.isEmpty then .error (.noCycleCount text)
    else
      match Text.byte? 10 digits with
      | some base => .ok ⟨base, adjustmentOf cell⟩
      | none => .error (.cycleCountRange (String.ofList digits) text)

theorem kind_of_read_eq_error {text : String} {cause : Cause} (h : read text = .error cause) :
    cause.kind = .invalidCycleCount := by
  rw [read] at h
  by_cases hdash : Text.trim text.toList = ['-']
  · simp [hdash] at h
  rw [if_neg hdash] at h
  by_cases hempty : (countDigits (Text.trim text.toList)).isEmpty = true
  · rw [if_pos hempty] at h
    rw [← Except.error.inj h]
    rfl
  · rw [if_neg hempty] at h
    split at h
    · cases h
    · rw [← Except.error.inj h]
      rfl

end Cycles

end OpcodeTable
