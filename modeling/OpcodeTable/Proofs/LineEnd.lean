import Mathlib.Data.List.Basic
import OpcodeTable.Listing
import OpcodeTable.Proofs.Line
import OpcodeTable.Template

/-!
# Proofs/LineEnd — line ends of two characters

A text with a carriage return put in front of each of its line feeds has the same lines
(`lines_withReturns`), so a listing gives the same rows with the same notices, and a template file
the same templates (`read_withReturns`).  Only where a line feed has a carriage return in front
already would the new one stay in the line.
-/

namespace OpcodeTable

namespace Text

/-! ## Carriage returns in front of line feeds -/

/-- **A text with carriage returns**: each line feed has one put in front of it. -/
def withReturns (text : List Char) : List Char :=
  text.flatMap fun c => if c = '\n' then ['\r', '\n'] else [c]

@[simp] theorem withReturns_nil : withReturns [] = [] := rfl

@[simp] theorem withReturns_lineFeed (rest : List Char) :
    withReturns ('\n' :: rest) = '\r' :: '\n' :: withReturns rest := rfl

variable {c : Char} {rest : List Char}

theorem withReturns_cons (h : c ≠ '\n') : withReturns (c :: rest) = c :: withReturns rest := by
  rw [withReturns, List.flatMap_cons, if_neg h, List.singleton_append, ← withReturns]

/-- No line feed comes to the front: one that was there has a carriage return before it. -/
theorem head?_withReturns (text : List Char) : (withReturns text).head? ≠ some '\n' := by
  cases text with
  | nil => simp
  | cons c rest =>
    by_cases hc : c = '\n'
    · simp [hc]
    · simpa [withReturns_cons hc] using hc

/-- **The lines stay**, unless some line feed had its carriage return before. -/
theorem lines_withReturns : ∀ {text : List Char}, ¬ ['\r', '\n'] <:+: text →
    lines (withReturns text) = lines text := by
  intro text
  induction text with
  | nil => intro _; rfl
  | cons c rest ih =>
    intro h
    have hrest : lines (withReturns rest) = lines rest :=
      ih fun hinfix => h (List.infix_cons hinfix)
    by_cases hc : c = '\n'
    · rw [hc, withReturns_lineFeed, lines_returnLineFeed, lines_lineFeed, hrest]
    · have hreturn : c = '\r' → rest.head? ≠ some '\n' := by
        rintro rfl hhead
        obtain ⟨later, rfl⟩ := List.head?_eq_some_iff.1 hhead
        exact h (List.prefix_append ['\r', '\n'] later).isInfix
      rw [withReturns_cons hc, lines_cons hc fun _ => head?_withReturns rest, hrest,
        lines_cons hc hreturn]

/-- A second carriage return in front of a line feed belongs to the line. -/
example : lines "NOP\r\n".toList = ["NOP".toList] ∧
    lines (withReturns "NOP\r\n".toList) = ["NOP\r".toList] := by decide

end Text

/-! ## Listings and template files -/

/-- **Line ends of two characters make no difference.**  If no line feed of a text has a carriage
return in front of it, each of them can be given one: read as a listing, the text gives the same
rows, which name the same lines, or the same fault, with the same notices on the way; read as a
template file, it gives the same templates or the same fault.  Whether the text ends in a line feed
does not matter. -/
theorem read_withReturns {text : String} (h : ¬ ['\r', '\n'] <:+: text.toList) :
    Listing.rows (String.ofList (Text.withReturns text.toList)) = Listing.rows text ∧
      Templates.ofText (String.ofList (Text.withReturns text.toList)) = Templates.ofText text := by
  constructor
  · simp only [Listing.rows, String.toList_ofList, Text.lines_withReturns h]
  · simp only [Templates.ofText, String.toList_ofList, Text.lines_withReturns h]

/-- A listing with one table, a heading that no table is left for, and no line end at its end. -/
def spareHeading : String :=
  "NOP\n===\nAddressing\n---|---\nImplied|NOP|$1A|1|2\n\nKIL\n==="

theorem read_withReturns_spareHeading :
    ¬ ['\r', '\n'] <:+: spareHeading.toList ∧
      ∃ text, text.toList = Text.withReturns spareHeading.toList ∧ text ≠ spareHeading ∧
        (Listing.rows text).outcome = .ok
          [⟨.unofficial, "*NOP", "$1A", "Implied", "1", "2", "unofficial reference line 5"⟩] ∧
        (Listing.rows text).notices = [.tableNamed 5 "NOP", .spareHeadings ["KIL"], .tables 1] ∧
        Templates.ofText text = .error (.strayText 1) := by
  have hplain : ¬ ['\r', '\n'] <:+: spareHeading.toList := by
    rw [← Text.occurs_eq_true]
    decide +kernel
  obtain ⟨hrows, htemplates⟩ := read_withReturns hplain
  refine ⟨hplain, _, String.toList_ofList, by decide +kernel, ?_⟩
  rw [hrows, htemplates]
  decide +kernel

end OpcodeTable
