import Mathlib.Data.List.Nodup
import OpcodeTable.Proofs.Blank
import OpcodeTable.Proofs.Line
import OpcodeTable.Proofs.TemplateFile

/-!
# Proofs/TemplateText — template files as they are written

A template file is written section by section: a line that names it, the text of its field, a line
feed (`Writes`).  Reading it back, a field loses the carriage returns at the ends of its lines and
nothing else (`exists_ofText_of_writes`); so the file gives the templates it was written from
exactly if no line of a field heads a section or ends in a carriage return (`ofText_of_writes`).
-/

namespace OpcodeTable.Templates

/-- A section's name, with the field it fills. -/
abbrev Field := String × (Templates → String)

variable {name : String} {line text : List Char} {front : List (List Char)} {field : Field}
  {order : List Field} {source templates : Templates}

/-! ## Headings as they are written -/

/-- **A written heading** of a section: two percent signs, and behind them on the same line the name
in letters of either case, with any blanks around it. -/
def WritesHeading (name : String) (line : List Char) : Prop :=
  ∃ spelled padded, spelled.map Char.toLower = name.toList ∧ Text.Padded spelled padded ∧
    '\n' ∉ padded ∧ line = '%' :: '%' :: padded

theorem WritesHeading.lineFeed_notMem (h : WritesHeading name line) : '\n' ∉ line := by
  obtain ⟨_, padded, -, -, hfeed, rfl⟩ := h
  simpa using hfeed

/-- No blank is a letter. -/
theorem toLower_of_isBlank {c : Char} (h : Text.isBlank c = true) : c.toLower = c := by
  have hletter : ¬ (0x41 ≤ c.toNat ∧ c.toNat ≤ 0x5A) := by
    simp only [Text.isBlank, Bool.or_eq_true, Bool.and_eq_true, decide_eq_true_eq, beq_iff_eq] at h
    omega
  exact dif_neg hletter

/-- A name of a section is a word. -/
theorem Known.tight (h : Known name) {spelled : List Char}
    (hspelled : spelled.map Char.toLower = name.toList) : Text.Tight spelled := by
  have hwords : ∀ known ∈ fields.map (·.1),
      known.toList ≠ [] ∧ known.toList.all (!Text.isBlank ·) = true := by decide
  obtain ⟨hne, hblank⟩ := hwords name h
  simp only [List.all_eq_true, Bool.not_eq_true'] at hblank
  rw [← hspelled] at hne hblank
  refine Text.tight_of_forall (fun hnil => hne (by rw [hnil, List.map_nil])) fun c hc => ?_
  by_contra hc'
  rw [Bool.not_eq_false] at hc'
  have hlower := hblank _ (List.mem_map_of_mem hc)
  rw [toLower_of_isBlank hc', hc'] at hlower
  cases hlower

/-- **A written heading heads its section.** -/
theorem WritesHeading.heads (h : WritesHeading name line) (hname : Known name) :
    Heads line name := by
  obtain ⟨spelled, padded, hspelled, hpadded, -, rfl⟩ := h
  exact ⟨padded, rfl, by rw [hpadded.trim_eq (hname.tight hspelled), hspelled]⟩

/-! ## Carriage returns at the ends of lines -/

theorem trim_withoutReturn (line : List Char) :
    Text.trim (Text.withoutReturn line) = Text.trim line := by
  rcases Text.withoutReturn_cases line with ⟨-, h⟩ | h
  · rw [h]
  · conv_rhs => rw [h, Text.trim_concat (by decide)]

/-- A carriage return at the end of a line has no part in what the line heads. -/
theorem Heads.withoutReturn (h : Heads line name) : Heads (Text.withoutReturn line) name := by
  obtain ⟨rest, rfl, hname⟩ := h
  have hmark : ['%', '%'].getLast? ≠ some '\r' := by decide
  exact ⟨Text.withoutReturn rest, Text.withoutReturn_append hmark rest,
    by rw [trim_withoutReturn, hname]⟩

theorem not_headLine_withoutReturn (h : ¬ HeadLine line) : ¬ HeadLine (Text.withoutReturn line) :=
  fun hhead => h (hhead.trans (Text.withoutReturn_prefix line))

theorem isAllBlank_withoutReturn (h : Text.isAllBlank line = true) :
    Text.isAllBlank (Text.withoutReturn line) = true :=
  List.all_eq_true.2 fun c hc =>
    List.all_eq_true.1 h c ((Text.withoutReturn_prefix line).subset hc)

/-! ## Files as they are written -/

/-- **A written file**: for each section in turn a heading, the text of its field, and a line
feed. -/
inductive Writes (templates : Templates) : List Field → List Char → Prop
  | nil : Writes templates [] []
  | part {field : Field} {order : List Field} {heading text : List Char}
      (hheading : WritesHeading field.1 heading) (hlater : Writes templates order text) :
      Writes templates (field :: order)
        (heading ++ '\n' :: ((field.2 templates).toList ++ '\n' :: text))

/-- The lines of a field, as they are read back. -/
def readLines (body : String) : List (List Char) :=
  (body.toList.splitOn '\n').map Text.withoutReturn

/-- **The section of a field**, as it is read back. -/
def sectionOf (templates : Templates) (field : Field) : Section :=
  ⟨field.1, readLines (field.2 templates)⟩

/-- **No line of a text heads a section.** -/
def Headless (body : String) : Prop := ∀ line ∈ body.toList.splitOn '\n', ¬ HeadLine line

instance (body : String) : Decidable (Headless body) :=
  inferInstanceAs (Decidable (∀ line ∈ body.toList.splitOn '\n', ¬ HeadLine line))

/-- **A written file is split into the sections of its fields**, unless a line of a field heads a
section itself. -/
theorem Writes.split_lines (h : Writes templates order text) (hknown : order ⊆ fields)
    (hheadless : ∀ field ∈ order, Headless (field.2 templates)) :
    split (Text.lines text) = ([], order.map (sectionOf templates)) := by
  induction h with
  | nil => rfl
  | @part field order heading text hheading _ ih =>
    obtain ⟨hfield, hlater⟩ := List.cons_subset.1 hknown
    obtain ⟨hbody, hbodies⟩ := List.forall_mem_cons.1 hheadless
    have hhead := (hheading.heads (List.mem_map_of_mem hfield)).withoutReturn
    have hlines : ∀ line ∈ readLines (field.2 templates), ¬ HeadLine line := by
      intro line hline
      obtain ⟨piece, hpiece, rfl⟩ := List.mem_map.1 hline
      exact not_headLine_withoutReturn (hbody piece hpiece)
    rw [Text.lines_append_lineFeed hheading.lineFeed_notMem, Text.lines_text_append,
      split_of_heads hhead, ← readLines, split_append_of_not_headLine hlines,
      ih hlater hbodies, List.append_nil]
    rfl

/-- **A field as it is read back.** -/
def readBack (body : String) : String := String.ofList (Text.joinLines (readLines body))

/-- **Only carriage returns at the ends of lines are lost.** -/
theorem readBack_eq_self {body : String} :
    readBack body = body ↔ ∀ line ∈ body.toList.splitOn '\n', line.getLast? ≠ some '\r' := by
  have hfeed : ∀ line ∈ readLines body, '\n' ∉ line := by
    intro line hline
    obtain ⟨piece, hpiece, rfl⟩ := List.mem_map.1 hline
    exact fun hmem =>
      Text.notMem_of_mem_splitOn hpiece ((Text.withoutReturn_prefix piece).subset hmem)
  have hne : readLines body ≠ [] := by
    rw [readLines, ne_eq, List.map_eq_nil_iff]
    exact List.splitOn_ne_nil _ _
  have hlines : readBack body = body ↔ readLines body = body.toList.splitOn '\n' := by
    rw [readBack, ← String.toList_inj, String.toList_ofList]
    constructor
    · intro h
      rw [← h, Text.joinLines, List.splitOn_intercalate '\n' hfeed hne]
    · intro h
      rw [h, Text.joinLines_splitOn]
  have hmap : readLines body = (body.toList.splitOn '\n').map id ↔
      ∀ line ∈ body.toList.splitOn '\n', Text.withoutReturn line = line := List.map_inj_left
  rw [hlines, ← List.map_id (body.toList.splitOn '\n'), hmap, List.map_id]
  exact forall₂_congr fun line _ => Text.withoutReturn_eq_self

/-- No two sections have one name. -/
theorem eq_of_name_eq {other : Field} (hfield : field ∈ fields) (hother : other ∈ fields)
    (h : field.1 = other.1) : field = other :=
  List.inj_on_of_nodup_map (by decide : (fields.map (·.1)).Nodup) hfield hother h

/-- Templates are no more than their fields. -/
theorem eq_of_fields (h : ∀ field ∈ fields, field.2 templates = field.2 source) :
    templates = source := by
  obtain ⟨header, record, middle, dispatch, footer⟩ := templates
  obtain ⟨header', record', middle', dispatch', footer'⟩ := source
  simpa [fields] using h

/-- **Sections put in place in turn**: the fields among them are those read back, and so is every
field that was before. -/
theorem exists_setAll_sectionOf (source : Templates) : ∀ {order : List Field}, order ⊆ fields →
    ∀ templates, ∃ changed, setAll templates (order.map (sectionOf source)) = .ok changed ∧
      ∀ field ∈ fields, field ∈ order ∨ field.2 templates = readBack (field.2 source) →
        field.2 changed = readBack (field.2 source) := by
  intro order
  induction order with
  | nil =>
    exact fun _ templates => ⟨templates, rfl, fun field _ h => h.resolve_left List.not_mem_nil⟩
  | cons first order ih =>
    intro hknown templates
    obtain ⟨hfirst, hlater⟩ := List.cons_subset.1 hknown
    obtain ⟨next, hset⟩ :=
      set?_of_known (sectionOf source first) (List.mem_map_of_mem hfirst) templates
    obtain ⟨changed, hrun, hfields⟩ := ih hlater next
    refine ⟨changed, by rw [List.map_cons, setAll, hset]; exact hrun, fun field hfield h => ?_⟩
    have hnext : field.2 next = if field.1 = first.1 then readBack (first.2 source) else
        field.2 templates := field_of_set? hset field hfield
    refine hfields field hfield ?_
    by_cases hname : field.1 = first.1
    · rw [hnext, if_pos hname, eq_of_name_eq hfield hfirst hname]
      exact .inr rfl
    · rw [hnext, if_neg hname]
      exact h.imp_left fun hmem =>
        (List.mem_cons.1 hmem).resolve_left fun heq => hname (congrArg Prod.fst heq)

/-- **A written file is read**, each field with what it loses. -/
theorem exists_ofText_of_writes
    (hfront : ∀ line ∈ front, Text.isAllBlank line = true ∧ '\n' ∉ line)
    (horder : order.Perm fields) (htext : Writes source order text)
    (hheadless : ∀ field ∈ fields, Headless (field.2 source)) :
    ∃ templates, ofText (String.ofList (front.flatMap (· ++ ['\n']) ++ text)) = .ok templates ∧
      ∀ field ∈ fields, field.2 templates = readBack (field.2 source) := by
  obtain ⟨templates, hrun, hfields⟩ := exists_setAll_sectionOf source horder.subset default
  refine ⟨templates, ?_, fun field hfield => hfields field hfield (.inl (horder.mem_iff.2 hfield))⟩
  have hblank : ∀ line ∈ front.map Text.withoutReturn, Text.isAllBlank line = true := by
    intro line hline
    obtain ⟨line, hmem, rfl⟩ := List.mem_map.1 hline
    exact isAllBlank_withoutReturn (hfront line hmem).1
  have hsplit := htext.split_lines horder.subset fun field hfield =>
    hheadless field (horder.subset hfield)
  rw [ofText, String.toList_ofList,
    Text.lines_flatMap_append fun line hline => (hfront line hline).2,
    split_append_of_not_headLine fun line hline hhead => hhead.not_isAllBlank (hblank line hline),
    hsplit, List.append_nil]
  simp only [firstText?_eq_none_iff_forall.2 hblank, hrun]

/-! ## Texts that a file can hold -/

/-- A section of a name that is there at all has a last one. -/
theorem exists_bodyOf : ∀ {lines : List (List Char)}, (∃ line ∈ lines, Heads line name) →
    ∃ body, BodyOf lines name body := by
  intro lines
  induction lines with
  | nil => rintro ⟨line, hline, -⟩; exact absurd hline List.not_mem_nil
  | cons line rest ih =>
    intro h
    by_cases hlater : ∃ later ∈ rest, Heads later name
    · obtain ⟨body, hbody⟩ := ih hlater
      exact ⟨body, (bodyOf_cons line rest).2 (.inr hbody)⟩
    · obtain ⟨first, hfirst, hheads⟩ := h
      rcases List.mem_cons.1 hfirst with rfl | hmem
      · refine ⟨_, (bodyOf_cons first rest).2 (.inl ⟨hheads, fun later hmem hname => ?_, rfl⟩)⟩
        exact hlater ⟨later, hmem, hname⟩
      · exact absurd ⟨first, hmem, hheads⟩ hlater

/-- A written file has a heading for each of its sections. -/
theorem Writes.exists_heads (h : Writes templates order text) (hknown : order ⊆ fields) :
    ∀ field ∈ order, ∃ line ∈ Text.lines text, Heads line field.1 := by
  induction h with
  | nil => exact fun field hfield => absurd hfield List.not_mem_nil
  | @part field order heading text hheading _ ih =>
    obtain ⟨hfield, hlater⟩ := List.cons_subset.1 hknown
    have hhead := (hheading.heads (List.mem_map_of_mem hfield)).withoutReturn
    rw [Text.lines_append_lineFeed hheading.lineFeed_notMem, Text.lines_text_append]
    refine List.forall_mem_cons.2 ⟨⟨_, List.mem_cons_self, hhead⟩, fun other hother => ?_⟩
    obtain ⟨line, hline, hheads⟩ := ih hlater other hother
    exact ⟨line, List.mem_cons_of_mem _ (List.mem_append_right _ hline), hheads⟩

/-- Joined lines that head no section are a text none of whose lines does. -/
theorem headless_joinLines {body : List (List Char)} (hfeed : ∀ line ∈ body, '\n' ∉ line)
    (hhead : ∀ line ∈ body, ¬ HeadLine line) : Headless (String.ofList (Text.joinLines body)) := by
  by_cases hempty : body = []
  · rw [hempty]
    decide
  · rwa [Headless, String.toList_ofList, Text.joinLines, List.splitOn_intercalate '\n' hfeed hempty]

/-- **What a section gives never heads another**: such a line would have ended its text. -/
theorem headless_of_ofText {whole : String} (h : ofText whole = .ok templates)
    (hfield : field ∈ fields) (hheads : ∃ line ∈ Text.lines whole.toList, Heads line field.1) :
    Headless (field.2 templates) := by
  have hstray : ∀ n, ¬ StrayAt (Text.lines whole.toList) n := by
    intro n hn
    rw [ofText_of_strayAt hn] at h
    cases h
  rw [ofText_of_not_strayAt hstray] at h
  obtain ⟨body, hbody⟩ := exists_bodyOf hheads
  rw [(gives_of_setAll h field hfield).of_bodyOf body hbody]
  obtain ⟨above, line, below, hlines, -, -, rfl⟩ := hbody
  refine headless_joinLines (fun other hother => ?_) fun other hother => ?_
  · refine Text.lineFeed_notMem_of_mem_lines whole.toList other ?_
    rw [hlines]
    exact List.mem_append_right _
      (List.mem_cons_of_mem _ ((List.takeWhile_prefix _).subset hother))
  · simpa using List.mem_takeWhile_imp hother

/-- **A file reads back as the templates it was written from** exactly if no line of a field starts
with two percent signs or ends in a carriage return; whatever the order of the sections, the
spelling of their headings and the number of blank lines in front. -/
theorem ofText_of_writes (hfront : ∀ line ∈ front, Text.isAllBlank line = true ∧ '\n' ∉ line)
    (horder : order.Perm fields) (htext : Writes templates order text) :
    ofText (String.ofList (front.flatMap (· ++ ['\n']) ++ text)) = .ok templates ↔
      ∀ field ∈ fields, ∀ line ∈ (field.2 templates).toList.splitOn '\n',
        ¬ ['%', '%'] <+: line ∧ line.getLast? ≠ some '\r' := by
  constructor
  · intro hread field hfield line hline
    have hheadless : ∀ field ∈ fields, Headless (field.2 templates) := by
      intro field hfield
      obtain ⟨line, hline, hheads⟩ :=
        htext.exists_heads horder.subset field (horder.mem_iff.2 hfield)
      refine headless_of_ofText hread hfield ⟨line, ?_, hheads⟩
      rw [String.toList_ofList, Text.lines_flatMap_append fun line hline => (hfront line hline).2]
      exact List.mem_append_right _ hline
    obtain ⟨changed, hchanged, hback⟩ := exists_ofText_of_writes hfront horder htext hheadless
    obtain rfl := Except.ok.inj (hread.symm.trans hchanged)
    exact ⟨hheadless field hfield line hline,
      readBack_eq_self.1 (hback field hfield).symm line hline⟩
  · intro hfields
    have hheadless : ∀ field ∈ fields, Headless (field.2 templates) :=
      fun field hfield line hline => (hfields field hfield line hline).1
    obtain ⟨changed, hchanged, hback⟩ := exists_ofText_of_writes hfront horder htext hheadless
    have hsame : changed = templates := eq_of_fields fun field hfield =>
      (hback field hfield).trans
        (readBack_eq_self.2 fun line hline => (hfields field hfield line hline).2)
    rw [hchanged, hsame]

/-- Templates with an empty field, line feeds at the end, and percent signs and carriage returns in
the middle of lines. -/
def knottyTemplates : Templates where
  header := ""
  record := "one\rline\n\n %% header\n"
  middle := "\n\n"
  dispatch := "50%%"
  footer := "\r%%"

/-- A file with these templates, its sections from the last field to the first. -/
def knottyText : List Char :=
  "%%\t FOOTER \r".toList ++ '\n' :: (knottyTemplates.footer.toList ++ '\n' ::
  ("%%Dispatch".toList ++ '\n' :: (knottyTemplates.dispatch.toList ++ '\n' ::
  ("%%   middle".toList ++ '\n' :: (knottyTemplates.middle.toList ++ '\n' ::
  ("%%reCOrd\r\r".toList ++ '\n' :: (knottyTemplates.record.toList ++ '\n' ::
  ("%% header".toList ++ '\n' :: (knottyTemplates.header.toList ++ ['\n'])))))))))

theorem writes_knottyText : Writes knottyTemplates fields.reverse knottyText := by
  have hfooter : WritesHeading "footer" "%%\t FOOTER \r".toList :=
    ⟨"FOOTER".toList, "\t FOOTER \r".toList, by decide,
      ⟨"\t ".toList, " \r".toList, List.all_eq_true.1 (by decide), List.all_eq_true.1 (by decide),
        by decide⟩, by decide, by decide⟩
  have hdispatch : WritesHeading "dispatch" "%%Dispatch".toList :=
    ⟨"Dispatch".toList, "Dispatch".toList, by decide, Text.padded_self _, by decide, by decide⟩
  have hmiddle : WritesHeading "middle" "%%   middle".toList :=
    ⟨"middle".toList, "   middle".toList, by decide,
      ⟨"   ".toList, [], List.all_eq_true.1 (by decide), List.forall_mem_nil _, by decide⟩,
      by decide, by decide⟩
  have hrecord : WritesHeading "record" "%%reCOrd\r\r".toList :=
    ⟨"reCOrd".toList, "reCOrd\r\r".toList, by decide,
      ⟨[], "\r\r".toList, List.forall_mem_nil _, List.all_eq_true.1 (by decide), by decide⟩,
      by decide, by decide⟩
  have hheader : WritesHeading "header" "%% header".toList :=
    ⟨"header".toList, " header".toList, by decide,
      ⟨[' '], [], List.all_eq_true.1 (by decide), List.forall_mem_nil _, by decide⟩,
      by decide, by decide⟩
  exact .part hfooter (.part hdispatch (.part hmiddle (.part hrecord (.part hheader .nil))))

/-- They are read back as they are, below two blank lines. -/
theorem ofText_knottyText :
    ofText (String.ofList ([[], [' ', '\t']].flatMap (· ++ ['\n']) ++ knottyText))
      = .ok knottyTemplates :=
  (ofText_of_writes (by decide) (List.reverse_perm fields) writes_knottyText).2 (by decide +kernel)

end OpcodeTable.Templates
