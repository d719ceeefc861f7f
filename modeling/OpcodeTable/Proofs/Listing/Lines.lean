import Mathlib.Data.List.TakeWhile
import OpcodeTable.Listing
import OpcodeTable.Proofs.Line

/-!
# Proofs/Listing/Lines — the kinds of lines in a listing

Which lines are headers, data, underlines and named lines is said here by their characters alone,
and the tests of the reader are shown to decide it (`isHeader_eq_true`, `isData_eq_true`,
`isUnderline_eq_true`, `headingName?_eq_some`).
-/

namespace OpcodeTable.Listing

/-! ## Headers and data -/

/-- **A header line**: it has the word Addressing in it, or it holds nothing but dashes, bars and
blanks, with at least one dash. -/
def HeaderLine (line : List Char) : Prop :=
  "Addressing".toList <:+: line ∨
    (∀ c ∈ line, c = '-' ∨ c = '|' ∨ Text.isBlank c = true) ∧ '-' ∈ line

/-- **A data line**: no header, with exactly four bars. -/
def DataLine (line : List Char) : Prop := ¬ HeaderLine line ∧ line.count '|' = 4

theorem isHeader_eq_true {line : List Char} : isHeader line = true ↔ HeaderLine line := by
  rw [isHeader, Bool.or_eq_true, Text.occurs_eq_true, HeaderLine]
  refine or_congr_right ?_
  simp only [isRule, Bool.and_eq_true, List.all_eq_true, Bool.or_eq_true, beq_iff_eq,
    List.contains_eq_mem, decide_eq_true_eq, or_assoc]

instance (line : List Char) : Decidable (HeaderLine line) :=
  decidable_of_iff _ isHeader_eq_true

/-- A line has one piece more than it has bars. -/
theorem length_splitOn (c : Char) (line : List Char) :
    (line.splitOn c).length = line.count c + 1 := by
  induction line with
  | nil => simp
  | cons d line ih =>
    rw [List.splitOn_cons_eq_if_modifyHead, List.count_cons]
    split
    · rw [List.length_cons, ih]
    · rw [List.length_modifyHead, ih]

theorem isData_eq_true {line : List Char} : isData line = true ↔ DataLine line := by
  have hlength : (cells line).length = line.count '|' + 1 := by
    rw [cells, List.length_map]
    exact length_splitOn '|' line
  rw [isData, Bool.and_eq_true, Bool.not_eq_true', ← Bool.not_eq_true, isHeader_eq_true,
    beq_iff_eq, hlength, DataLine]
  simp

instance (line : List Char) : Decidable (DataLine line) := decidable_of_iff _ isData_eq_true

/-! ## Fields -/

/-- **The fields of a line** are the given five, with bars between them and none inside. -/
def HasFields (line : List Char) (label sample opcode size cycles : List Char) : Prop :=
  line = ['|'].intercalate [label, sample, opcode, size, cycles] ∧
    ∀ field ∈ [label, sample, opcode, size, cycles], '|' ∉ field

theorem exists_hasFields {line : List Char} (h : DataLine line) :
    ∃ label sample opcode size cycles, HasFields line label sample opcode size cycles := by
  have hlength := length_splitOn '|' line
  rw [h.2] at hlength
  obtain ⟨label, sample, opcode, size, cycles, hsplit⟩ : ∃ label sample opcode size cycles,
      line.splitOn '|' = [label, sample, opcode, size, cycles] := by
    match hfields : line.splitOn '|', hlength with
    | [label, sample, opcode, size, cycles], _ => exact ⟨label, sample, opcode, size, cycles, rfl⟩
  refine ⟨label, sample, opcode, size, cycles, ?_, fun field hfield => ?_⟩
  · rw [← hsplit, List.intercalate_splitOn]
  · exact Text.notMem_of_mem_splitOn (hsplit ▸ hfield)

/-- **A row of the named instruction**, with trimmed fields and the number of its line. -/
def rowOfFields (name : String) (number : Nat) (label opcode size cycles : List Char) : Row where
  source := .unofficial
  mnemonic := "*" ++ name
  opcode := String.ofList (Text.trim opcode)
  label := String.ofList (Text.trim label)
  size := String.ofList (Text.trim size)
  cycles := String.ofList (Text.trim cycles)
  origin := "unofficial reference line " ++ toString number

/-- **The row of a line** keeps its first, third, fourth and fifth field. -/
theorem row?_of_hasFields {line label sample opcode size cycles : List Char}
    (h : HasFields line label sample opcode size cycles) (name : String) (number : Nat) :
    row? name number line = some (rowOfFields name number label opcode size cycles) := by
  have hcells : cells line = [Text.trim label, Text.trim sample, Text.trim opcode, Text.trim size,
      Text.trim cycles] := by
    rw [cells, ← List.splitOn_eq_splitOnP, h.1, List.splitOn_intercalate '|' h.2 (by simp)]
    rfl
  rw [row?, hcells]
  rfl

/-! ## Headings -/

/-- A capital letter or digit of ASCII. -/
def NameChar (c : Char) : Prop := ('A' ≤ c ∧ c ≤ 'Z') ∨ ('0' ≤ c ∧ c ≤ '9')

/-- **A name behind a star** is the canonical form of the two: no star is a capital letter or
digit. -/
theorem canonical_of_nameChars {name : String} (h : ∀ c ∈ name.toList, NameChar c) :
    canonical ("*" ++ name) = name := by
  have hnone : name.toList.dropWhile (· == star) = name.toList := by
    cases hname : name.toList with
    | nil => rfl
    | cons c rest =>
      have hc : NameChar c := h c (hname ▸ List.mem_cons_self)
      refine List.dropWhile_cons_of_neg ?_
      rw [beq_iff_eq]
      rintro rfl
      simp [NameChar, star] at hc
  have hstar : ("*" ++ name).toList = star :: name.toList := String.toList_append
  rw [canonical, hstar, List.dropWhile_cons_of_pos (by simp), hnone, String.ofList_toList]

/-- A letter or digit of ASCII. -/
def AlphanumChar (c : Char) : Prop := NameChar c ∨ ('a' ≤ c ∧ c ≤ 'z')

/-- **A named line** starts with three capital letters or digits, and no further letter or digit
stands behind them. -/
def NamedLine (line : List Char) : Prop :=
  3 ≤ line.length ∧ (∀ c ∈ line.take 3, NameChar c) ∧ ∀ c ∈ (line.drop 3).head?, ¬ AlphanumChar c

/-- **An underline**: three or more equals signs with nothing but blanks behind them. -/
def Underline (line : List Char) : Prop :=
  ∃ n blanks, 3 ≤ n ∧ line = List.replicate n '=' ++ blanks ∧ ∀ c ∈ blanks, Text.isBlank c = true

/-- A test for a range of characters, bound by bound. -/
theorem inRange_eq_true {low c high : Char} :
    (decide (low.val ≤ c.val) && decide (c.val ≤ high.val)) = true ↔ low ≤ c ∧ c ≤ high := by
  rw [Bool.and_eq_true, decide_eq_true_iff, decide_eq_true_iff, Char.le_def, Char.le_def]

theorem isUpper_eq_true {c : Char} : c.isUpper = true ↔ 'A' ≤ c ∧ c ≤ 'Z' :=
  decide_eq_true_iff

theorem isLower_eq_true {c : Char} : c.isLower = true ↔ 'a' ≤ c ∧ c ≤ 'z' :=
  inRange_eq_true

theorem isDigit_eq_true {c : Char} : c.isDigit = true ↔ '0' ≤ c ∧ c ≤ '9' :=
  inRange_eq_true

theorem isNameChar_eq_true {c : Char} : isNameChar c = true ↔ NameChar c := by
  rw [isNameChar, Bool.or_eq_true, isUpper_eq_true, isDigit_eq_true, NameChar]

theorem isAlphanum_eq_true {c : Char} : c.isAlphanum = true ↔ AlphanumChar c := by
  have hparts : c.isAlphanum = (c.isUpper || c.isLower || c.isDigit) := rfl
  rw [hparts, Bool.or_eq_true, Bool.or_eq_true, isUpper_eq_true, isLower_eq_true, isDigit_eq_true]
  exact or_right_comm

/-- **The name of a line** is its first three characters, if the line is a named one. -/
theorem headingName?_eq_some {line : List Char} {name : String} :
    headingName? line = some name ↔ NamedLine line ∧ name = String.ofList (line.take 3) := by
  match line with
  | [] | [_] | [_, _] => simp [headingName?, NamedLine]
  | a :: b :: c :: rest =>
    have hnext : (∀ d ∈ ((a :: b :: c :: rest).drop 3).head?, ¬ AlphanumChar d)
        ↔ (!rest.head?.any Char.isAlphanum) = true := by
      cases rest with
      | nil => simp
      | cons d rest => simp [← isAlphanum_eq_true]
    have hname : NamedLine (a :: b :: c :: rest) ↔ (isNameChar a && isNameChar b && isNameChar c
        && !rest.head?.any Char.isAlphanum) = true := by
      rw [NamedLine, hnext]
      simp [← isNameChar_eq_true, and_assoc]
    rw [headingName?, Option.ite_none_right_eq_some, hname, Option.some.injEq, eq_comm (a := name)]
    rfl

theorem headingName?_isSome {line : List Char} :
    (headingName? line).isSome = true ↔ NamedLine line := by
  rw [Option.isSome_iff_exists]
  simp only [headingName?_eq_some, exists_and_left, exists_eq, and_true]

instance (line : List Char) : Decidable (NamedLine line) := decidable_of_iff _ headingName?_isSome

/-- No blank is an equals sign, so the equals signs of an underline end where its blanks begin. -/
theorem takeWhile_equals_of_isBlank {blanks : List Char}
    (h : ∀ c ∈ blanks, Text.isBlank c = true) :
    blanks.takeWhile (· == '=') = [] ∧ blanks.dropWhile (· == '=') = blanks := by
  cases blanks with
  | nil => exact ⟨rfl, rfl⟩
  | cons c blanks =>
    have hne : ¬ (c == '=') = true := by
      rw [beq_iff_eq]
      rintro rfl
      exact absurd (h '=' List.mem_cons_self) (by decide)
    exact ⟨List.takeWhile_cons_of_neg hne, List.dropWhile_cons_of_neg hne⟩

theorem isUnderline_eq_true {line : List Char} : isUnderline line = true ↔ Underline line := by
  rw [isUnderline, Bool.and_eq_true, decide_eq_true_eq, Text.isAllBlank, List.all_eq_true]
  constructor
  · rintro ⟨hlength, hblank⟩
    have hequals : line.takeWhile (· == '=')
        = List.replicate (line.takeWhile (· == '=')).length '=' :=
      List.eq_replicate_iff.2 ⟨rfl, fun c hc => by simpa using List.mem_takeWhile_imp hc⟩
    refine ⟨_, _, hlength, ?_, hblank⟩
    rw [← hequals, List.takeWhile_append_dropWhile]
  · rintro ⟨n, blanks, hn, rfl, hblank⟩
    have hequals : ∀ c ∈ List.replicate n '=', (c == '=') = true := fun c hc =>
      beq_iff_eq.2 (List.eq_of_mem_replicate hc)
    obtain ⟨htake, hdrop⟩ := takeWhile_equals_of_isBlank hblank
    rw [List.takeWhile_append_of_pos hequals, List.dropWhile_append_of_pos hequals, htake, hdrop,
      List.append_nil, List.length_replicate]
    exact ⟨hn, hblank⟩

instance (line : List Char) : Decidable (Underline line) := decidable_of_iff _ isUnderline_eq_true

end OpcodeTable.Listing
