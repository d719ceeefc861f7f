import OpcodeTable.Build
import OpcodeTable.Proofs.Traced

/-!
# Proofs/Silent — reading and merging print nothing

What the passes over the references have to say they say in notices: a sequence of silent
computations is silent, and so a build leaves the output alone (`silent_build`).
-/

namespace OpcodeTable

variable {α β σ : Type}

/-- **A silent computation** prints nothing, whether it fails or not. -/
def Traced.Silent (traced : Traced α) : Prop := traced.printed = ""

namespace Traced

theorem silent_pure (value : α) : Silent (pure value) := rfl

theorem silent_notify (notice : Notice) : Silent (notify notice) := rfl

theorem silent_fail (cause : Cause) (place : Option String) :
    Silent (fail cause place : Traced α) := rfl

theorem silent_ofExcept (place : Option String) (result : Except Cause α) :
    Silent (ofExcept place result) := by
  cases result <;> rfl

theorem Silent.bind {first : Traced α} {next : α → Traced β} (hfirst : Silent first)
    (hnext : ∀ value, Silent (next value)) : Silent (first >>= next) := by
  cases h : first.outcome with
  | error fault => rwa [bind_of_error h]
  | ok value => rw [bind_of_ok h, Silent, hfirst, hnext value, String.append_empty]

theorem silent_foldlM {step : σ → α → Traced σ} (h : ∀ state item, Silent (step state item)) :
    ∀ (items : List α) (state : σ), Silent (items.foldlM step state) := by
  intro items
  induction items with
  | nil => exact silent_pure
  | cons item rest ih =>
    intro state
    rw [List.foldlM_cons]
    exact (h state item).bind ih

end Traced

open Traced

/-! ## The passes of a build -/

theorem Page.silent_rows (text : String) : Silent (Page.rows text) := by
  rw [Page.rows, Page.rowsOf]
  split
  · refine (silent_notify _).bind fun _ => ?_
    split
    · exact silent_pure _
    · exact silent_fail _ _
  · exact silent_fail _ _

theorem Listing.silent_rowsFrom (number : Nat) (spare : List String) (table : Option String)
    (tables : Nat) (lines : List (List Char)) :
    Silent (Listing.rowsFrom number spare table tables lines) := by
  fun_induction Listing.rowsFrom number spare table tables lines with
  | case1 => exact (silent_notify _).bind fun _ => silent_pure _
  | case2 =>
    exact (silent_notify _).bind fun _ => (silent_notify _).bind fun _ => silent_pure _
  | case3 _ _ _ _ _ _ _ ih => exact ih
  | case4 _ _ _ _ _ _ _ _ ih => exact ih
  | case5 _ _ _ _ _ _ _ _ ih => exact ih.bind fun _ => silent_pure _
  | case6 _ _ _ _ _ _ _ _ ih =>
    exact (silent_notify _).bind fun _ => ih.bind fun _ => silent_pure _
  | case7 => exact silent_fail _ _

theorem Record.silent_ofRow (row : Row) : Silent (Record.ofRow row) := by
  refine (silent_ofExcept _ _).bind fun opcode => (silent_ofExcept _ _).bind fun mode =>
    (silent_ofExcept _ _).bind fun cycles => ?_
  dsimp only
  split
  · exact silent_pure _
  · exact (silent_notify _).bind fun _ => silent_pure _

theorem Draft.silent_add (draft : Draft) (row : Row) : Silent (draft.add row) := by
  refine (Record.silent_ofRow row).bind fun record => ?_
  split
  · exact silent_fail _ _
  · exact silent_pure _

theorem InstructionSet.silent_ofRows (rows : List Row) : Silent (InstructionSet.ofRows rows) :=
  (silent_foldlM Draft.silent_add rows Draft.empty).bind fun _ =>
    (silent_notify _).bind fun _ => silent_pure _

theorem Source.silent_load (source : Source) {fetch : Source → Traced String}
    (h : ∀ source, Silent (fetch source)) : Silent (source.load fetch) := by
  refine (h source).bind fun text => ?_
  have hrows : Silent (source.rows text) := by
    cases source with
    | official => exact Page.silent_rows text
    | unofficial => exact Listing.silent_rowsFrom ..
  exact hrows.bind fun _ => (silent_notify _).bind fun _ => silent_pure _

/-- **A build prints nothing** where fetching the references prints nothing. -/
theorem InstructionSet.silent_build {fetch : Source → Traced String}
    (h : ∀ source, Silent (fetch source)) : Silent (InstructionSet.build fetch) :=
  (Source.silent_load .official h).bind fun _ => (Source.silent_load .unofficial h).bind fun _ =>
    (InstructionSet.silent_ofRows _).bind fun _ => (silent_notify _).bind fun _ => silent_pure _

end OpcodeTable
