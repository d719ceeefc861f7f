import Mathlib.Data.List.Forall2
import OpcodeTable.Proofs.InstructionSet

/-!
# Proofs/RowLayout — the layout of a row does not matter

The same rows can be laid out in many ways: with other blanks around an opcode or a duration, with
blanks anywhere in a label, with any text for the size, and at other places.  Two layouts make one
set, or they fail at the same row with faults of one kind, each reported at the place of its own row
(`ofRows_of_sameContent`).  What the faults quote may differ, as it is what the rows say.
-/

namespace OpcodeTable

/-! ## Outcomes that agree -/

namespace Traced

variable {α β σ : Type} {place place' : Option String}

/-- **Two outcomes agree**: they are one value, or faults of one kind, each at its own place. -/
inductive AgreeAt (place place' : Option String) : Except Fault α → Except Fault α → Prop
  | ok (value : α) : AgreeAt place place' (.ok value) (.ok value)
  | error {cause cause' : Cause} (hkind : cause.kind = cause'.kind) :
    AgreeAt place place' (.error ⟨cause, place⟩) (.error ⟨cause', place'⟩)

theorem AgreeAt.report {fault fault' : Fault}
    (h : AgreeAt place place' (.error fault : Except Fault α) (.error fault')) :
    fault.report.kind = fault'.report.kind ∧ fault.report.context = place ∧
      fault'.report.context = place' := by
  cases h with
  | error hkind => exact ⟨hkind, rfl, rfl⟩

/-- Two readers of one meaning agree if all their causes are of one kind. -/
theorem agreeAt_ofExcept {result result' : Except Cause α} {kind : FaultKind}
    (hok : ∀ value, result = .ok value ↔ result' = .ok value)
    (hkind : ∀ cause, result = .error cause → cause.kind = kind)
    (hkind' : ∀ cause, result' = .error cause → cause.kind = kind) :
    AgreeAt place place' (ofExcept place result).outcome (ofExcept place' result').outcome := by
  cases result with
  | ok value =>
    rw [(hok value).1 rfl]
    exact .ok value
  | error cause =>
    cases result' with
    | ok value => cases (hok value).2 rfl
    | error cause' => exact .error ((hkind cause rfl).trans (hkind' cause' rfl).symm)

theorem AgreeAt.bind {first first' : Traced α} {next next' : α → Traced β}
    (hfirst : AgreeAt place place' first.outcome first'.outcome)
    (hnext : ∀ value, AgreeAt place place' (next value).outcome (next' value).outcome) :
    AgreeAt place place' (first >>= next).outcome (first' >>= next').outcome := by
  generalize h : first.outcome = outcome at hfirst
  generalize h' : first'.outcome = outcome' at hfirst
  cases hfirst with
  | ok value =>
    rw [bind_of_ok h, bind_of_ok h']
    exact hnext value
  | error hkind =>
    rw [bind_of_error h, bind_of_error h']
    exact .error hkind

/-- **Two folds in step**: where related items make steps that agree, the folds reach one state, or
both stop at one pair of related items. -/
theorem foldlM_agree {step : σ → α → Traced σ} {items items' : List α} {related : α → α → Prop}
    {place : α → Option String}
    (hstep : ∀ state item item', related item item' →
      AgreeAt (place item) (place item') (step state item).outcome (step state item').outcome)
    (h : List.Forall₂ related items items') : ∀ state,
    (∃ reached, (items.foldlM step state).outcome = .ok reached ∧
      (items'.foldlM step state).outcome = .ok reached) ∨
    ∃ (j : Nat) (item item' : α) (fault fault' : Fault),
      items[j]? = some item ∧ items'[j]? = some item' ∧
      StopsAt step state items j fault ∧ StopsAt step state items' j fault' ∧
      AgreeAt (place item) (place item') (.error fault : Except Fault σ) (.error fault') := by
  induction h with
  | nil => exact fun state => .inl ⟨state, rfl, rfl⟩
  | @cons item item' items items' hitem _ ih =>
    intro state
    have hfirst := hstep state item item' hitem
    generalize hnext : (step state item).outcome = outcome at hfirst
    generalize hnext' : (step state item').outcome = outcome' at hfirst
    cases hfirst with
    | error hkind =>
      exact .inr ⟨0, item, item', _, _, rfl, rfl, stopsAt_zero hnext, stopsAt_zero hnext',
        .error hkind⟩
    | ok next =>
      -- both folds go on from one state, so the rest of them is in step again
      rcases ih next with ⟨reached, hrest, hrest'⟩ |
        ⟨j, last, last', fault, fault', hlast, hlast', hstop, hstop', hagree⟩
      · refine .inl ⟨reached, ?_, ?_⟩
        · rw [List.foldlM_cons, bind_of_ok hnext, hrest]
        · rw [List.foldlM_cons, bind_of_ok hnext', hrest']
      · exact .inr ⟨j + 1, last, last', fault, fault', hlast, hlast', hstop.cons hnext,
          hstop'.cons hnext', hagree⟩

end Traced

open Traced

/-! ## Cells that differ in blanks -/

variable {place place' : Option String} {text text' : String}

theorem Opcode.agreeAt_read (h : Text.trim text.toList = Text.trim text'.toList) :
    AgreeAt place place' (ofExcept place (read text)).outcome
      (ofExcept place' (read text')).outcome := by
  have hkind : ∀ {text cause}, read text = .error cause → cause.kind = .malformedOpcode := by
    intro _ _ hread
    rw [(read_eq_error.1 hread).2, Cause.kind]
  refine agreeAt_ofExcept (fun opcode => ?_) (fun _ => hkind) fun _ => hkind
  rw [read_eq_ok, read_eq_ok, byte?, byte?, h]

theorem AddressingMode.agreeAt_read (h : Text.squeeze text.toList = Text.squeeze text'.toList) :
    AgreeAt place place' (ofExcept place (read text)).outcome
      (ofExcept place' (read text')).outcome := by
  have hkind : ∀ {text cause}, read text = .error cause → cause.kind = .unknownAddressingMode := by
    intro _ _ hread
    rw [(read_eq_error.1 hread).2, Cause.kind]
  refine agreeAt_ofExcept (fun mode => ?_) (fun _ => hkind) fun _ => hkind
  rw [read_eq_ok, read_eq_ok, ofLabel?, ofLabel?, h]

theorem Cycles.read_eq_ok_congr (h : Text.trim text.toList = Text.trim text'.toList)
    (cycles : Cycles) : read text = .ok cycles ↔ read text' = .ok cycles := by
  have hrefused : ∀ {cause cause' : Cause},
      Except.error cause = Except.ok cycles ↔ Except.error cause' = Except.ok cycles := by simp
  rw [read, read, h]
  by_cases hdash : Text.trim text'.toList = ['-']
  · rw [if_pos hdash, if_pos hdash]
  rw [if_neg hdash, if_neg hdash]
  by_cases hempty : (countDigits (Text.trim text'.toList)).isEmpty = true
  · rw [if_pos hempty, if_pos hempty]
    exact hrefused
  rw [if_neg hempty, if_neg hempty]
  cases Text.byte? 10 (countDigits (Text.trim text'.toList)) with
  | some base => exact Iff.rfl
  | none => exact hrefused

theorem Cycles.agreeAt_read (h : Text.trim text.toList = Text.trim text'.toList) :
    AgreeAt place place' (ofExcept place (read text)).outcome
      (ofExcept place' (read text')).outcome :=
  agreeAt_ofExcept (read_eq_ok_congr h) (fun _ => kind_of_read_eq_error)
    fun _ => kind_of_read_eq_error

/-! ## Rows of the same content -/

/-- **Two rows of the same content**: they may differ in the blanks around their opcodes and their
durations, in all blanks of their labels, in their size texts and in their origins. -/
structure Row.SameContent (row row' : Row) : Prop where
  source : row.source = row'.source
  mnemonic : row.mnemonic = row'.mnemonic
  opcode : Text.trim row.opcode.toList = Text.trim row'.opcode.toList
  label : Text.squeeze row.label.toList = Text.squeeze row'.label.toList
  cycles : Text.trim row.cycles.toList = Text.trim row'.cycles.toList

namespace Row.SameContent

variable {row row' : Row}

/-- **Rows of the same content read as one record**, or with faults of one kind: that of the first
cell that cannot be read. -/
theorem agreeAt_reading (h : row.SameContent row') :
    AgreeAt row.origin row'.origin row.reading row'.reading := by
  rw [reading_eq, reading_eq, h.source, h.mnemonic]
  refine (Opcode.agreeAt_read h.opcode).bind fun opcode => ?_
  refine (AddressingMode.agreeAt_read h.label).bind fun mode => ?_
  refine (Cycles.agreeAt_read h.cycles).bind fun cycles => ?_
  exact .ok _

/-- **A draft takes both rows or neither.** -/
theorem agreeAt_add (h : row.SameContent row') (draft : Draft) :
    AgreeAt row.origin row'.origin (draft.add row).outcome (draft.add row').outcome := by
  refine h.agreeAt_reading.bind fun record => ?_
  cases draft.index.position? record.opcode with
  | none => exact .ok _
  | some position => exact .error rfl

end Row.SameContent

/-! ## Whole tables -/

namespace InstructionSet

variable {rows rows' : List Row} {j : Nat} {fault : Fault}

/-- **Rows are refused at row `j`**: those in front of it make a set, and with it they fail,
whatever stands behind. -/
structure RefusedAt (rows : List Row) (j : Nat) (fault : Fault) : Prop where
  accepted : ∃ set, (ofRows (rows.take j)).outcome = .ok set
  refused : ∀ later, (ofRows (rows.take (j + 1) ++ later)).outcome = .error fault

theorem RefusedAt.of_stopsAt (h : StopsAt Draft.add .empty rows j fault) :
    RefusedAt rows j fault where
  accepted := by
    obtain ⟨draft, -, -, hbefore, -⟩ := h
    exact ⟨ofDraft draft, outcome_ofRows_eq_ok.2 ⟨draft, hbefore, rfl⟩⟩
  refused later := by
    rw [ofRows_append_of_error h.outcome_take]
    exact outcome_ofRows_of_error h.outcome_take

theorem RefusedAt.outcome (h : RefusedAt rows j fault) : (ofRows rows).outcome = .error fault := by
  rw [← h.refused (rows.drop (j + 1)), List.take_append_drop]

/-- **The layout of rows does not matter.**  Rows of the same content make one and the same set, or
both lists are refused at the same row with faults of one kind, and each fault is reported at the
origin of the row in its own list. -/
theorem ofRows_of_sameContent (h : List.Forall₂ Row.SameContent rows rows') :
    (∃ set, (ofRows rows).outcome = .ok set ∧ (ofRows rows').outcome = .ok set) ∨
    ∃ (j : Nat) (row row' : Row) (fault fault' : Fault),
      rows[j]? = some row ∧ rows'[j]? = some row' ∧
      RefusedAt rows j fault ∧ RefusedAt rows' j fault' ∧
      (ofRows rows).outcome = .error fault ∧ (ofRows rows').outcome = .error fault' ∧
      fault.report.kind = fault'.report.kind ∧
      fault.report.context = some row.origin ∧ fault'.report.context = some row'.origin := by
  have hadd : ∀ (draft : Draft) (row row' : Row), row.SameContent row' →
      AgreeAt row.origin row'.origin (draft.add row).outcome (draft.add row').outcome :=
    fun draft _ _ hrow => hrow.agreeAt_add draft
  rcases foldlM_agree hadd h .empty with
    ⟨draft, hrun, hrun'⟩ | ⟨j, row, row', fault, fault', hrow, hrow', hstop, hstop', hagree⟩
  · exact .inl ⟨ofDraft draft, outcome_ofRows_eq_ok.2 ⟨draft, hrun, rfl⟩,
      outcome_ofRows_eq_ok.2 ⟨draft, hrun', rfl⟩⟩
  · have hrefused := RefusedAt.of_stopsAt hstop
    have hrefused' := RefusedAt.of_stopsAt hstop'
    exact .inr ⟨j, row, row', fault, fault', hrow, hrow', hrefused, hrefused', hrefused.outcome,
      hrefused'.outcome, hagree.report⟩

/-- Two rows, of which the second has a label that no mode has. -/
def denseRows : List Row :=
  [⟨.official, "LDA", "$B5", "ZeroPage,X", "2", "4", "line 1"⟩,
    ⟨.official, "LDA", "$A1", "[Indirect,X]", "2", "6*", "line 2"⟩]

/-- The same two rows, laid out with more blanks and without sizes. -/
def sparseRows : List Row :=
  [⟨.official, "LDA", "\t$B5\u00a0", " Zero Page, X", "", "4 ", "line 10"⟩,
    ⟨.official, "LDA", " $A1", "[Indirect , X]", "", "\u20036*", "line 12"⟩]

/-- Both layouts are refused at one row; what the faults quote differs. -/
theorem ofRows_sparseRows :
    List.Forall₂ Row.SameContent denseRows sparseRows ∧
      ∃ (j : Nat) (row row' : Row) (fault fault' : Fault),
        denseRows[j]? = some row ∧ sparseRows[j]? = some row' ∧
        RefusedAt denseRows j fault ∧ RefusedAt sparseRows j fault' ∧
        fault.report.kind = fault'.report.kind ∧
        fault.report.context = some row.origin ∧ fault'.report.context = some row'.origin := by
  have hsame : List.Forall₂ Row.SameContent denseRows sparseRows :=
    .cons ⟨rfl, rfl, by decide, by decide, by decide⟩
      (.cons ⟨rfl, rfl, by decide, by decide, by decide⟩ .nil)
  refine ⟨hsame, ?_⟩
  rcases ofRows_of_sameContent hsame with ⟨set, hset, -⟩ |
    ⟨j, row, row', fault, fault', hrow, hrow', hrefused, hrefused', -, -, hreport⟩
  · have hfails : (ofRows denseRows).outcome.isOk = false := by decide +kernel
    rw [hset] at hfails
    cases hfails
  · exact ⟨j, row, row', fault, fault', hrow, hrow', hrefused, hrefused', hreport⟩

end InstructionSet

end OpcodeTable
