import Mathlib.Data.List.Chain
import Mathlib.Data.List.Forall2
import Mathlib.Data.List.Infix
import OpcodeTable.Proofs.Cell
import OpcodeTable.Proofs.Listing.Tables
import OpcodeTable.Proofs.Reading

/-!
# Proofs/Listing/Print — listings as they are printed

A listing says for each of its parts how an instruction is named and which opcodes it has.  There
are many ways of printing one: names stand in headings of any wording, cells are written in any of
their notations, and further lines may stand between headings and tables (`Prints`).  What those
lines may not be is data, or a heading of their own (`Filler`).  Line by line the reader can tell
what each of them is, and the headings it finds are the names of the parts
(`Prints.names_eq`).
-/

namespace OpcodeTable.Listing

open Text (Padded Spaced)

/-! ## What is printed -/

/-- **An entry** of a table: an opcode, with its mode and its duration. -/
structure Entry where
  opcode : UInt8
  mode : AddressingMode
  cycles : Cycles
  deriving DecidableEq, Repr

/-- **A part** of a listing: the name of an instruction, and the entries of its table. -/
structure Part where
  name : String
  entries : List Entry
  length_name : name.toList.length = 3
  nameChar : ∀ c ∈ name.toList, NameChar c
  entries_ne_nil : entries ≠ []

/-- The record of an entry of the named instruction. -/
def Entry.record (name : String) (entry : Entry) : Record where
  mnemonic := "*" ++ name
  official := false
  opcode := entry.opcode
  mode := entry.mode
  size := entry.mode.size
  cycles := entry.cycles.base
  adjustment := entry.cycles.adjustment

/-- The records of a part, in order. -/
def Part.records (part : Part) : List Record := part.entries.map (Entry.record part.name)

/-! ## How it is printed -/

/-- **Free text** between bars: it has neither a bar nor the word that marks a header. -/
def FreeText (text : List Char) : Prop := '|' ∉ text ∧ ¬ "Addressing".toList <:+: text

instance (text : List Char) : Decidable (FreeText text) :=
  decidable_of_iff ('|' ∉ text ∧ ¬ Text.occurs "Addressing".toList text = true) <| by
    rw [Text.occurs_eq_true, FreeText]

/-- **The cells of an entry**: its label with blanks anywhere, its opcode and its duration written
in one of their ways, and two free texts. -/
structure Entry.Cells (entry : Entry) (label sample opcode size cycles : List Char) : Prop where
  label : Spaced entry.mode.label.toList label
  sample : FreeText sample
  opcode : ∃ text, Opcode.Written entry.opcode text ∧ Padded text opcode
  size : FreeText size
  cycles : ∃ text, Cycles.Written entry.cycles text ∧ Padded text cycles

/-- **The line of an entry** is its cells, with bars between them. -/
def Entry.Prints (entry : Entry) (line : List Char) : Prop :=
  ∃ label sample opcode size cycles, entry.Cells label sample opcode size cycles ∧
    line = ['|'].intercalate [label, sample, opcode, size, cycles]

/-- **The heading of a part** is its name, alone or with a text behind it that starts with neither a
letter nor a digit and has no further bar. -/
def Part.Heads (part : Part) (line : List Char) : Prop :=
  line = part.name.toList ∨
    ∃ c text, ¬ AlphanumChar c ∧ '|' ∉ text ∧ line = part.name.toList ++ c :: text

/-- **A rule** is made of dashes, bars and blanks, with at least one dash. -/
def Rule (line : List Char) : Prop :=
  (∀ c ∈ line, c = '-' ∨ c = '|' ∨ Text.isBlank c = true) ∧ '-' ∈ line

theorem isRule_eq_true {line : List Char} : isRule line = true ↔ Rule line := by
  simp only [isRule, Rule, Bool.and_eq_true, List.all_eq_true, Bool.or_eq_true, beq_iff_eq,
    List.contains_eq_mem, decide_eq_true_eq, or_assoc]

instance (line : List Char) : Decidable (Rule line) := decidable_of_iff _ isRule_eq_true

/-- **Filler**: no line is data, and none is a heading with its underline below it. -/
structure Filler (lines : List (List Char)) : Prop where
  notData : ∀ line ∈ lines, ¬ DataLine line
  notHeading : lines.IsChain fun line next => ¬ (NamedLine line ∧ Underline next)

/-- **The lines of a part**: a heading with its underline, the two lines of a table header, and a
line for each entry; filler may stand above the heading and above the table. -/
inductive Part.Prints (part : Part) : List (List Char) → Prop
  | mk {above below body : List (List Char)} {heading underline header rule : List Char}
      (habove : Filler above) (hheading : part.Heads heading) (hunderline : Underline underline)
      (hbelow : Filler below) (hheader : "Addressing".toList <:+: header) (hrule : Rule rule)
      (hbody : List.Forall₂ Entry.Prints part.entries body) :
      part.Prints (above ++ heading :: underline :: (below ++ header :: rule :: body))

/-- **The lines of a listing**: those of its parts, and filler below them. -/
inductive Prints : List Part → List (List Char) → Prop
  | filler {lines : List (List Char)} (h : Filler lines) : Prints [] lines
  | part {part : Part} {parts : List Part} {top rest : List (List Char)} (hpart : part.Prints top)
      (hparts : Prints parts rest) : Prints (part :: parts) (top ++ rest)

variable {parts : List Part} {part : Part} {entry : Entry} {line next : List Char}
  {lines rest top : List (List Char)}

/-! ## Words between separators -/

/-- A word without the separator lies on one side of it. -/
theorem infix_of_infix_append_cons {word before after : List Char} {c : Char} (hc : c ∉ word)
    (h : word <:+: before ++ c :: after) : word <:+: before ∨ word <:+: after := by
  have halone : ∀ {front : List Char}, c ∉ front → front <+: c :: after → front = [] := by
    intro front hfront hpre
    rcases List.prefix_cons_iff.1 hpre with hnil | ⟨rest, rfl, -⟩
    · exact hnil
    · exact absurd List.mem_cons_self hfront
  rcases List.infix_append_iff.1 h with hbefore | hafter | ⟨front, back, rfl, hfront, hback⟩
  · exact .inl hbefore
  · rcases List.infix_cons_iff.1 hafter with hpre | hafter
    · rw [halone hc hpre]
      exact .inl List.nil_infix
    · exact .inr hafter
  · rw [halone (fun hmem => hc (List.mem_append_right _ hmem)) hback, List.append_nil]
    exact .inl hfront.isInfix

/-- **A word without the separator lies in one field.** -/
theorem exists_infix_of_infix_intercalate {word : List Char} {c : Char} (hc : c ∉ word)
    (hne : word ≠ []) : ∀ {fields : List (List Char)}, word <:+: [c].intercalate fields →
      ∃ field ∈ fields, word <:+: field := by
  intro fields
  induction fields with
  | nil => intro h; exact absurd (List.infix_nil.1 h) hne
  | cons field fields ih =>
    intro h
    cases fields with
    | nil =>
      rw [List.intercalate_singleton] at h
      exact ⟨field, List.mem_cons_self, h⟩
    | cons next later =>
      rw [List.intercalate_cons_cons, List.append_assoc, List.singleton_append] at h
      rcases infix_of_infix_append_cons hc h with hfield | hlater
      · exact ⟨field, List.mem_cons_self, hfield⟩
      · obtain ⟨other, hother, hword⟩ := ih hlater
        exact ⟨other, List.mem_cons_of_mem _ hother, hword⟩

/-! ## The line of an entry -/

/-- **A padded core is free text** if it has no bar and misses a letter of the word that marks a
header. -/
theorem freeText_of_padded {core text : List Char} (h : Padded core text) (hbar : '|' ∉ core)
    (hg : 'g' ∉ core) : FreeText text :=
  ⟨h.notMem hbar (by decide), fun hword => h.notMem hg (by decide) (hword.subset (by decide))⟩

/-- **A spaced label is free text**: that word has no blanks, so it would stand in the label. -/
theorem freeText_of_spaced {mode : AddressingMode} {text : List Char}
    (h : Spaced mode.label.toList text) : FreeText text := by
  refine ⟨h.notMem (by decide) (by cases mode <;> decide), fun hword => ?_⟩
  have hsqueezed : Text.squeeze "Addressing".toList <:+: Text.squeeze text := hword.filter _
  rw [h.squeeze_eq mode.isBlank_of_mem_label, ← Text.occurs_eq_true] at hsqueezed
  cases mode <;> exact absurd hsqueezed (by decide)

namespace Entry.Cells

variable {label sample opcode size cycles : List Char}

/-- **All cells of an entry are free text.** -/
theorem freeText (h : entry.Cells label sample opcode size cycles) :
    ∀ cell ∈ [label, sample, opcode, size, cycles], FreeText cell := by
  obtain ⟨opcodeText, hopcode, hopcode'⟩ := h.opcode
  obtain ⟨cyclesText, hcycles, hcycles'⟩ := h.cycles
  have hopcode : FreeText opcode := freeText_of_padded hopcode'
    (hopcode.notMem rfl (by decide)) (hopcode.notMem rfl (by decide))
  have hcycles : FreeText cycles := freeText_of_padded hcycles'
    (hcycles.notMem (by decide) (by decide) (by decide))
    (hcycles.notMem (by decide) (by decide) (by decide))
  simp only [List.forall_mem_cons, freeText_of_spaced h.label, h.sample, hopcode, h.size, hcycles,
    true_and]
  exact fun cell hcell => absurd hcell List.not_mem_nil

theorem hasFields (h : entry.Cells label sample opcode size cycles) :
    HasFields (['|'].intercalate [label, sample, opcode, size, cycles]) label sample opcode size
      cycles :=
  ⟨rfl, fun cell hcell => (h.freeText cell hcell).1⟩

end Entry.Cells

/-- No blank is a character of a name. -/
theorem not_nameChar_of_isBlank {c : Char} (h : Text.isBlank c = true) : ¬ NameChar c := by
  have hbounds : NameChar c →
      0x41 ≤ c.toNat ∧ c.toNat ≤ 0x5A ∨ 0x30 ≤ c.toNat ∧ c.toNat ≤ 0x39 := id
  simp only [Text.isBlank, Bool.or_eq_true, Bool.and_eq_true, decide_eq_true_eq, beq_iff_eq] at h
  intro hname
  have hplace := hbounds hname
  omega

/-- A spaced word does not start with two characters of a name unless the word does. -/
theorem exists_not_nameChar_of_spaced {a b : Char} {word text : List Char}
    (h : Spaced (a :: b :: word) text) (hab : ¬ NameChar a ∨ ¬ NameChar b) :
    ∃ c ∈ text.take 2, ¬ NameChar c := by
  cases h with
  | blank hblank _ => exact ⟨_, List.mem_cons_self, not_nameChar_of_isBlank hblank⟩
  | char hlater =>
    rcases hab with ha | hb
    · exact ⟨a, List.mem_cons_self, ha⟩
    cases hlater with
    | blank hblank _ =>
      exact ⟨_, List.mem_cons_of_mem _ List.mem_cons_self, not_nameChar_of_isBlank hblank⟩
    | char _ => exact ⟨b, List.mem_cons_of_mem _ List.mem_cons_self, hb⟩

namespace Entry.Prints

/-- The line of an entry starts with its label. -/
theorem exists_label (h : entry.Prints line) :
    ∃ label rest, Spaced entry.mode.label.toList label ∧ line = label ++ '|' :: rest := by
  obtain ⟨label, sample, opcode, size, cycles, hcells, rfl⟩ := h
  exact ⟨label, _, hcells.label, by rw [List.intercalate_cons_cons, List.append_assoc]; rfl⟩

/-- **The line of an entry is data.**  Its label keeps it from being a rule. -/
theorem dataLine (h : entry.Prints line) : DataLine line := by
  have hletter : ∀ mode : AddressingMode, ∃ c ∈ mode.label.toList,
      ¬ (c = '-' ∨ c = '|' ∨ Text.isBlank c = true) := by
    intro mode
    have hany : mode.label.toList.any
        (fun c => !(c == '-' || (c == '|' || Text.isBlank c))) = true := by
      cases mode <;> decide
    simpa using hany
  obtain ⟨label, rest, hlabel, hline⟩ := h.exists_label
  obtain ⟨_, sample, opcode, size, cycles, hcells, hcells'⟩ := h
  refine ⟨?_, ?_⟩
  · rintro (hword | ⟨hrule, -⟩)
    · rw [hcells'] at hword
      obtain ⟨cell, hcell, hword⟩ :=
        exists_infix_of_infix_intercalate (by decide) (by decide) hword
      exact (hcells.freeText cell hcell).2 hword
    · obtain ⟨c, hc, hnot⟩ := hletter entry.mode
      exact hnot (hrule c (hline ▸ List.mem_append_left _ (hlabel.subset hc)))
  · have hlength := length_splitOn '|' line
    rw [hcells', List.splitOn_intercalate '|' hcells.hasFields.2 (by simp), ← hcells'] at hlength
    exact (Nat.succ.inj hlength).symm

/-- **The line of an entry is no named line**, for no label starts with two capital letters or
digits. -/
theorem not_namedLine (h : entry.Prints line) : ¬ NamedLine line := by
  have hstart : ∀ mode : AddressingMode, ∃ a b word, mode.label.toList = a :: b :: word ∧
      (isNameChar a && isNameChar b) = false := by
    intro mode
    cases mode <;> exact ⟨_, _, _, rfl, by decide⟩
  obtain ⟨label, rest, hlabel, rfl⟩ := h.exists_label
  obtain ⟨a, b, word, hmode, hab⟩ := hstart entry.mode
  rw [Bool.and_eq_false_iff, ← Bool.not_eq_true, ← Bool.not_eq_true, isNameChar_eq_true,
    isNameChar_eq_true] at hab
  obtain ⟨c, hc, hnot⟩ := exists_not_nameChar_of_spaced (hmode ▸ hlabel) hab
  intro hnamed
  have hfirst : c ∈ (label ++ '|' :: rest).take 3 := by
    rw [List.take_append]
    exact List.mem_append_left _ ((List.take_prefix_take_left (by decide)).subset hc)
  exact hnot (hnamed.2.1 c hfirst)

end Entry.Prints

/-- **The row of an entry** reads as its record, in the table of any instruction. -/
theorem Entry.Prints.exists_row (h : entry.Prints line) (name : String) (number : Nat) :
    ∃ row, row? name number line = some row ∧ row.reading = .ok (entry.record name) := by
  obtain ⟨label, sample, opcode, size, cycles, hcells, rfl⟩ := h
  obtain ⟨opcodeText, hopcode, hopcode'⟩ := hcells.opcode
  obtain ⟨cyclesText, hcycles, hcycles'⟩ := hcells.cycles
  refine ⟨_, row?_of_hasFields hcells.hasFields name number, Row.reading_eq_ok.2
    ⟨entry.opcode, entry.mode, entry.cycles, ?_, ?_, ?_, rfl⟩⟩
  · rw [Opcode.read_eq_ok, rowOfFields, String.toList_ofList, hopcode'.trim_eq hopcode.tight]
    exact Opcode.byte?_of_written hopcode
  · rw [AddressingMode.read_eq_ok]
    exact AddressingMode.ofLabel?_of_spaced hcells.label
  · rw [rowOfFields, hcycles'.trim_eq hcycles.tight]
    exact Cycles.read_of_written hcycles

/-! ## The other lines -/

/-- A character of an underline is an equals sign or blank. -/
theorem Underline.mem {c : Char} (h : Underline line) (hc : c ∈ line) :
    c = '=' ∨ Text.isBlank c = true := by
  obtain ⟨n, blanks, -, rfl, hblanks⟩ := h
  rcases List.mem_append.1 hc with hc | hc
  · exact .inl (List.eq_of_mem_replicate hc)
  · exact .inr (hblanks c hc)

/-- A line with a character that no underline has is not one. -/
theorem not_underline_of_mem {c : Char} (hc : c ∈ line) (hequals : c ≠ '=')
    (hblank : Text.isBlank c = false) : ¬ Underline line := by
  intro hunder
  rcases hunder.mem hc with heq | hspace
  · exact hequals heq
  · rw [hspace] at hblank
    cases hblank

/-- A line starts with a character of a name if it is a named line. -/
theorem not_namedLine_of_forall (h : ∀ c ∈ line, ¬ NameChar c) : ¬ NamedLine line := by
  rintro ⟨hlength, hname, -⟩
  obtain ⟨c, rest, rfl⟩ := List.exists_cons_of_length_pos (Nat.zero_lt_of_lt hlength)
  exact h c List.mem_cons_self (hname c List.mem_cons_self)

theorem Underline.not_namedLine (h : Underline line) : ¬ NamedLine line :=
  not_namedLine_of_forall fun c hc => by
    rcases h.mem hc with rfl | hblank
    · simp [NameChar]
    · exact not_nameChar_of_isBlank hblank

theorem Rule.not_namedLine (h : Rule line) : ¬ NamedLine line :=
  not_namedLine_of_forall fun c hc => by
    rcases h.1 c hc with rfl | rfl | hblank
    · simp [NameChar]
    · simp [NameChar]
    · exact not_nameChar_of_isBlank hblank

theorem Rule.not_underline (h : Rule line) : ¬ Underline line :=
  not_underline_of_mem h.2 (by decide) (by decide)

theorem Underline.not_dataLine (h : Underline line) : ¬ DataLine line := by
  have hbar : '|' ∉ line := fun hc => (h.mem hc).elim (by decide) (by decide)
  rintro ⟨-, hcount⟩
  rw [List.count_eq_zero_of_not_mem hbar] at hcount
  cases hcount

namespace Part

theorem bar_notMem_name (part : Part) : '|' ∉ part.name.toList := fun hc => by
  simpa [NameChar] using part.nameChar '|' hc

namespace Heads

/-- A heading has the name in front. -/
theorem exists_eq_append (h : part.Heads line) : ∃ rest, line = part.name.toList ++ rest ∧
    (∀ c ∈ rest.head?, ¬ AlphanumChar c) ∧ rest.count '|' ≤ 1 := by
  rcases h with rfl | ⟨c, text, hc, hbar, rfl⟩
  · exact ⟨[], by simp⟩
  · refine ⟨c :: text, rfl, by simpa using hc, ?_⟩
    rw [List.count_cons, List.count_eq_zero_of_not_mem hbar]
    split <;> decide

theorem take_eq (h : part.Heads line) : line.take 3 = part.name.toList := by
  obtain ⟨rest, rfl, -⟩ := h.exists_eq_append
  exact List.take_left' part.length_name

/-- **A heading is a named line.** -/
theorem namedLine (h : part.Heads line) : NamedLine line := by
  have htake := h.take_eq
  obtain ⟨rest, rfl, hrest, -⟩ := h.exists_eq_append
  refine ⟨?_, ?_, ?_⟩
  · rw [List.length_append, part.length_name]
    exact Nat.le_add_right 3 _
  · rw [htake]
    exact part.nameChar
  · rwa [List.drop_left' part.length_name]

theorem not_underline (h : part.Heads line) : ¬ Underline line :=
  fun hunder => hunder.not_namedLine h.namedLine

theorem not_dataLine (h : part.Heads line) : ¬ DataLine line := by
  obtain ⟨rest, rfl, -, hbars⟩ := h.exists_eq_append
  rintro ⟨-, hcount⟩
  rw [List.count_append, List.count_eq_zero_of_not_mem part.bar_notMem_name] at hcount
  omega

end Heads

end Part

/-- **The table of a part** starts below a rule, and there is no data above that. -/
theorem Part.Prints.exists_table (h : part.Prints top) : ∃ lead rule body,
    top = lead ++ rule :: body ∧ (∀ line ∈ lead, ¬ DataLine line) ∧ Rule rule ∧
      List.Forall₂ Entry.Prints part.entries body := by
  obtain @⟨above, below, body, heading, underline, header, rule, habove, hheading, hunderline,
    hbelow, hheader, hrule, hbody⟩ := h
  refine ⟨above ++ [heading, underline] ++ below ++ [header], rule, body, by simp, ?_, hrule, hbody⟩
  intro line hline
  simp only [List.mem_append, List.mem_cons, List.not_mem_nil, or_false] at hline
  rcases hline with ((hline | rfl | rfl) | hline) | rfl
  · exact habove.notData line hline
  · exact hheading.not_dataLine
  · exact hunderline.not_dataLine
  · exact hbelow.notData line hline
  · exact fun hdata => hdata.1 (.inl hheader)

/-! ## The headings of a listing -/

theorem names_cons_of_not_namedLine (h : ¬ NamedLine line) : names (line :: rest) = names rest := by
  have hnot : ¬ HeadingAt (line :: rest) 0 := by
    rintro ⟨⟨other, hother, hnamed⟩, -⟩
    obtain rfl := Option.some.inj hother
    exact h hnamed
  rw [names_cons, if_neg hnot, List.nil_append]

theorem names_cons_of_not_underline (h : ∀ next ∈ rest.head?, ¬ Underline next) :
    names (line :: rest) = names rest := by
  have hnot : ¬ HeadingAt (line :: rest) 0 := by
    rintro ⟨-, next, hnext, hunder⟩
    rw [List.getElem?_cons_succ, ← List.head?_eq_getElem?] at hnext
    exact h next hnext hunder
  rw [names_cons, if_neg hnot, List.nil_append]

theorem names_heading (hnamed : NamedLine line) (hunder : Underline next) :
    names (line :: next :: rest) = String.ofList (line.take 3) :: names (next :: rest) := by
  rw [names_cons, if_pos (headingAt_zero.2 ⟨hnamed, hunder⟩)]
  rfl

/-- **Filler has no names**, whatever stands below it. -/
theorem names_filler_append : ∀ {lines : List (List Char)}, Filler lines →
    (∀ next ∈ rest.head?, ¬ Underline next) → names (lines ++ rest) = names rest := by
  intro lines
  induction lines with
  | nil => intro _ _; rfl
  | cons line lines ih =>
    intro h hrest
    have hlater : Filler lines :=
      ⟨fun other hother => h.notData other (List.mem_cons_of_mem _ hother), h.notHeading.tail⟩
    rw [List.cons_append, ← ih hlater hrest]
    by_cases hnamed : NamedLine line
    · refine names_cons_of_not_underline fun next hnext hunder => ?_
      cases lines with
      | nil => exact hrest next hnext hunder
      | cons second lines =>
        obtain rfl := Option.some.inj hnext
        exact (List.isChain_cons_cons.1 h.notHeading).1 ⟨hnamed, hunder⟩
    · exact names_cons_of_not_namedLine hnamed

/-- The lines of entries have no names. -/
theorem names_entries_append {entries : List Entry}
    (h : List.Forall₂ Entry.Prints entries lines) : names (lines ++ rest) = names rest := by
  induction h with
  | nil => rfl
  | cons hentry _ ih => rw [List.cons_append, names_cons_of_not_namedLine hentry.not_namedLine, ih]

/-- **A part has one name**, its own. -/
theorem Part.Prints.names_append (h : part.Prints top) :
    names (top ++ rest) = part.name :: names rest := by
  obtain @⟨above, below, body, heading, underline, header, rule, habove, hheading, hunderline,
    hbelow, hheader, hrule, hbody⟩ := h
  have hheader' : ¬ Underline header :=
    not_underline_of_mem (hheader.subset List.mem_cons_self) (by decide) (by decide)
  calc names ((above ++ heading :: underline :: (below ++ header :: rule :: body)) ++ rest)
      = names (heading :: underline :: (below ++ (header :: rule :: (body ++ rest)))) := by
        rw [List.append_assoc, names_filler_append habove (by simpa using hheading.not_underline)]
        simp
    _ = part.name :: names (below ++ (header :: rule :: (body ++ rest))) := by
        rw [names_heading hheading.namedLine hunderline, hheading.take_eq, String.ofList_toList,
          names_cons_of_not_namedLine hunderline.not_namedLine]
    _ = part.name :: names rest := by
        rw [names_filler_append hbelow (by simpa using hheader'),
          names_cons_of_not_underline (by simpa using hrule.not_underline),
          names_cons_of_not_namedLine hrule.not_namedLine, names_entries_append hbody]

/-- **The headings of a listing are the names of its parts.** -/
theorem Prints.names_eq (h : Prints parts lines) : names lines = parts.map Part.name := by
  induction h with
  | @filler lines h =>
    have hnone : names (lines ++ []) = names [] := names_filler_append h (by simp)
    rwa [List.append_nil] at hnone
  | part hpart _ ih => rw [hpart.names_append, ih, List.map_cons]

end OpcodeTable.Listing
