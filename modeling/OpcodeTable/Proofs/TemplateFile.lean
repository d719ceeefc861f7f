import Mathlib.Tactic.SplitIfs
import OpcodeTable.Template

/-!
# Proofs/TemplateFile — which templates a template file gives

A line that starts with two percent signs heads a section, and the lines below it up to the next
such line are its body.  What a file gives is said here line by line: the first line of stray text
(`StrayAt`), the first section of an unknown name (`UnknownAt`), and for each field the body of the
last section of its name (`ofText_of_lines`).
-/

namespace OpcodeTable.Templates

/-- **An item of a list and what stands on both sides of it**: the item is the first, or stands
further on. -/
theorem exists_append_cons_iff {α : Type} {item : α} {items : List α}
    {p : List α → α → List α → Prop} :
    (∃ front middle back, item :: items = front ++ middle :: back ∧ p front middle back) ↔
      p [] item items ∨
        ∃ front middle back, items = front ++ middle :: back ∧ p (item :: front) middle back := by
  constructor
  · rintro ⟨front, middle, back, hitems, hp⟩
    cases front with
    | nil =>
      obtain ⟨rfl, rfl⟩ := List.cons.inj hitems
      exact .inl hp
    | cons first front =>
      obtain ⟨rfl, rfl⟩ := List.cons.inj hitems
      exact .inr ⟨front, middle, back, rfl, hp⟩
  · rintro (hp | ⟨front, middle, back, rfl, hp⟩)
    · exact ⟨[], item, items, rfl, hp⟩
    · exact ⟨item :: front, middle, back, rfl, hp⟩

/-! ## Lines that head a section -/

/-- **A line that heads a section** starts with two percent signs. -/
def HeadLine (line : List Char) : Prop := ['%', '%'] <+: line

instance (line : List Char) : Decidable (HeadLine line) :=
  inferInstanceAs (Decidable (['%', '%'] <+: line))

/-- **A line heads the section of this name**: behind the percent signs stands the name, with any
blanks around it and with its ASCII letters in either case. -/
def Heads (line : List Char) (name : String) : Prop :=
  ∃ rest, line = '%' :: '%' :: rest ∧ name.toList = (Text.trim rest).map Char.toLower

variable {line : List Char} {lines : List (List Char)} {name : String} {n : Nat}
  {templates changed : Templates} {cause : Cause}

theorem sectionName?_eq_some : sectionName? line = some name ↔ Heads line name := by
  have hlower : ∀ cs : List Char, (String.ofList cs).toLower.toList = cs.map Char.toLower :=
    fun cs => String.toList_map.trans (congrArg (List.map Char.toLower) String.toList_ofList)
  constructor
  · intro h
    rw [sectionName?.eq_def] at h
    split at h
    · obtain rfl := Option.some.inj h
      exact ⟨_, rfl, hlower _⟩
    · cases h
  · rintro ⟨rest, rfl, hname⟩
    rw [sectionName?, Option.some.injEq, ← String.toList_inj, hlower, hname]

theorem headLine_iff : HeadLine line ↔ ∃ name, Heads line name := by
  constructor
  · rintro ⟨rest, rfl⟩
    exact ⟨_, sectionName?_eq_some.1 rfl⟩
  · rintro ⟨_, rest, rfl, -⟩
    exact ⟨rest, rfl⟩

theorem Heads.headLine (h : Heads line name) : HeadLine line := headLine_iff.2 ⟨name, h⟩

theorem Heads.unique {other : String} (h : Heads line name) (h' : Heads line other) :
    name = other := by
  rw [← sectionName?_eq_some] at h h'
  exact Option.some.inj (h.symm.trans h')

theorem sectionName?_of_not_headLine (h : ¬ HeadLine line) : sectionName? line = none := by
  rw [← Option.not_isSome_iff_eq_none, Option.isSome_iff_exists]
  rintro ⟨name, hname⟩
  exact h (sectionName?_eq_some.1 hname).headLine

/-- A percent sign is no blank. -/
theorem HeadLine.not_isAllBlank (h : HeadLine line) : ¬ Text.isAllBlank line = true := by
  obtain ⟨rest, rfl⟩ := h
  intro hblank
  exact absurd (List.all_eq_true.1 hblank '%' (by simp)) (by decide)

/-! ## Sections -/

theorem split_of_heads (h : Heads line name) (rest : List (List Char)) :
    split (line :: rest) = ([], ⟨name, (split rest).1⟩ :: (split rest).2) := by
  rw [split, sectionName?_eq_some.2 h]

theorem split_of_not_headLine (h : ¬ HeadLine line) (rest : List (List Char)) :
    split (line :: rest) = (line :: (split rest).1, (split rest).2) := by
  rw [split, sectionName?_of_not_headLine h]

/-- **The lines above the first section** are those up to the first that heads one. -/
theorem fst_split (lines : List (List Char)) :
    (split lines).1 = lines.takeWhile (¬ HeadLine ·) := by
  induction lines with
  | nil => rfl
  | cons line rest ih =>
    by_cases hhead : HeadLine line
    · obtain ⟨name, hname⟩ := headLine_iff.1 hhead
      rw [split_of_heads hname, List.takeWhile_cons_of_neg (by simpa using hhead)]
    · rw [split_of_not_headLine hhead, List.takeWhile_cons_of_pos (by simpa using hhead), ih]

theorem split_append_of_not_headLine {front : List (List Char)}
    (h : ∀ line ∈ front, ¬ HeadLine line) (rest : List (List Char)) :
    split (front ++ rest) = (front ++ (split rest).1, (split rest).2) := by
  induction front with
  | nil => rfl
  | cons line front ih =>
    obtain ⟨hline, hfront⟩ := List.forall_mem_cons.1 h
    rw [List.cons_append, split_of_not_headLine hline, ih hfront, List.cons_append]

/-! ## Stray text -/

/-- **The stray text of a file**: the line with this number, counted from one, is neither blank nor
heads a section, and all lines above it are blank. -/
def StrayAt (lines : List (List Char)) (n : Nat) : Prop :=
  ∃ front line rest, lines = front ++ line :: rest ∧ n = front.length + 1 ∧
    (∀ other ∈ front, Text.isAllBlank other = true) ∧ ¬ Text.isAllBlank line = true ∧
    ¬ HeadLine line

theorem strayAt_cons (line : List Char) (rest : List (List Char)) :
    StrayAt (line :: rest) n ↔
      (¬ Text.isAllBlank line = true ∧ ¬ HeadLine line) ∧ n = 1 ∨
        Text.isAllBlank line = true ∧ ∃ m, StrayAt rest m ∧ n = m + 1 := by
  rw [StrayAt, exists_append_cons_iff]
  refine or_congr (by simp [and_comm]) ⟨?_, ?_⟩
  · rintro ⟨front, stray, back, hrest, rfl, hblank, hstray⟩
    obtain ⟨hline, hfront⟩ := List.forall_mem_cons.1 hblank
    exact ⟨hline, _, ⟨front, stray, back, hrest, rfl, hfront, hstray⟩, rfl⟩
  · rintro ⟨hline, _, ⟨front, stray, back, hrest, rfl, hfront, hstray⟩, rfl⟩
    exact ⟨front, stray, back, hrest, rfl, List.forall_mem_cons.2 ⟨hline, hfront⟩, hstray⟩

/-- **The stray text of a file is found** among the lines above its first section. -/
theorem firstText?_eq_some : ∀ {lines : List (List Char)} {n : Nat},
    firstText? (split lines).1 = some n ↔ StrayAt lines n := by
  intro lines
  induction lines with
  | nil => intro n; simp [split, firstText?, StrayAt]
  | cons line rest ih =>
    intro n
    rw [strayAt_cons]
    by_cases hhead : HeadLine line
    · obtain ⟨name, hname⟩ := headLine_iff.1 hhead
      rw [split_of_heads hname]
      simp [firstText?, hhead, hhead.not_isAllBlank]
    rw [split_of_not_headLine hhead, firstText?]
    by_cases hblank : Text.isAllBlank line = true
    · rw [if_pos hblank, Option.map_eq_some_iff]
      simp [hblank, ih, eq_comm]
    · rw [if_neg hblank]
      simp [hblank, hhead, eq_comm]

theorem firstText?_eq_none : firstText? (split lines).1 = none ↔ ∀ n, ¬ StrayAt lines n := by
  rw [Option.eq_none_iff_forall_ne_some]
  exact forall_congr' fun n => not_congr firstText?_eq_some

/-- Lines hold no text exactly if all of them are blank. -/
theorem firstText?_eq_none_iff_forall {above : List (List Char)} :
    firstText? above = none ↔ ∀ line ∈ above, Text.isAllBlank line = true := by
  induction above with
  | nil => simp [firstText?]
  | cons line above ih =>
    rw [firstText?, List.forall_mem_cons, ← ih]
    by_cases hblank : Text.isAllBlank line = true
    · rw [if_pos hblank, Option.map_eq_none_iff]
      exact (and_iff_right hblank).symm
    · rw [if_neg hblank]
      exact iff_of_false (by simp) fun h => hblank h.1

/-- Without stray text all lines above the first section are blank. -/
theorem forall_not_strayAt_iff : (∀ n, ¬ StrayAt lines n) ↔
    ∀ line ∈ lines.takeWhile (¬ HeadLine ·), Text.isAllBlank line = true := by
  rw [← firstText?_eq_none, ← fst_split, firstText?_eq_none_iff_forall]

/-! ## Sections of an unknown name -/

/-- **The five sections**, each with the field it fills. -/
def fields : List (String × (Templates → String)) :=
  [("header", header), ("record", record), ("middle", middle), ("dispatch", dispatch),
   ("footer", footer)]

/-- A known name is that of a field. -/
def Known (name : String) : Prop := name ∈ fields.map (·.1)

instance (name : String) : Decidable (Known name) :=
  inferInstanceAs (Decidable (name ∈ fields.map (·.1)))

/-- **A section fills the field of its name** and leaves the others. -/
theorem field_of_set? {part : Section} (h : templates.set? part = some changed) :
    ∀ field ∈ fields, field.2 changed = if field.1 = part.name then
      String.ofList (Text.joinLines part.body) else field.2 templates := by
  rw [set?] at h
  split_ifs at h with hname hname hname hname hname
  all_goals
    obtain rfl := Option.some.inj h
    rw [hname]
    simp [fields]

theorem set?_of_known (part : Section) (h : Known part.name) (templates : Templates) :
    ∃ changed, templates.set? part = some changed := by
  simp only [Known, fields, List.map_cons, List.map_nil, List.mem_cons, List.not_mem_nil,
    or_false] at h
  rcases h with h | h | h | h | h
  all_goals simp [set?, h]

theorem set?_of_not_known (part : Section) (h : ¬ Known part.name) (templates : Templates) :
    templates.set? part = none := by
  simp only [Known, fields, List.map_cons, List.map_nil, List.mem_cons, List.not_mem_nil,
    or_false, not_or] at h
  rw [set?, if_neg h.1, if_neg h.2.1, if_neg h.2.2.1, if_neg h.2.2.2.1, if_neg h.2.2.2.2]

/-- **A section of an unknown name**: this is its name, and all sections above have known ones. -/
def UnknownAt (lines : List (List Char)) (name : String) : Prop :=
  ∃ front line rest, lines = front ++ line :: rest ∧ Heads line name ∧ ¬ Known name ∧
    ∀ other ∈ front, ∀ known, Heads other known → Known known

theorem unknownAt_cons (line : List Char) (rest : List (List Char)) :
    UnknownAt (line :: rest) name ↔ Heads line name ∧ ¬ Known name ∨
      (∀ known, Heads line known → Known known) ∧ UnknownAt rest name := by
  rw [UnknownAt, exists_append_cons_iff]
  refine or_congr (by simp) ⟨?_, ?_⟩
  · rintro ⟨front, other, back, hrest, hname, hunknown, hknown⟩
    obtain ⟨hline, hfront⟩ := List.forall_mem_cons.1 hknown
    exact ⟨hline, front, other, back, hrest, hname, hunknown, hfront⟩
  · rintro ⟨hline, front, other, back, hrest, hname, hunknown, hfront⟩
    exact ⟨front, other, back, hrest, hname, hunknown, List.forall_mem_cons.2 ⟨hline, hfront⟩⟩

/-- **The first section of an unknown name** is the fault of the sections. -/
theorem setAll_eq_error : ∀ {lines : List (List Char)} {templates : Templates},
    setAll templates (split lines).2 = .error cause ↔
      ∃ name, UnknownAt lines name ∧ cause = .unknownSection name := by
  intro lines
  induction lines with
  | nil => intro templates; simp [split, setAll, UnknownAt]
  | cons line rest ih =>
    intro templates
    simp only [unknownAt_cons]
    by_cases hhead : HeadLine line
    · obtain ⟨name, hname⟩ := headLine_iff.1 hhead
      have hheads : ∀ other, Heads line other ↔ other = name := fun other =>
        ⟨fun hother => hother.unique hname, fun hother => hother ▸ hname⟩
      simp only [split_of_heads hname, setAll, hheads, forall_eq]
      by_cases hknown : Known name
      · obtain ⟨changed, hset⟩ := set?_of_known ⟨name, (split rest).1⟩ hknown templates
        simp only [hset, ih, hknown, true_and]
        refine exists_congr fun other => and_congr_left fun _ => (or_iff_right ?_).symm
        rintro ⟨rfl, hnot⟩
        exact hnot hknown
      · rw [set?_of_not_known ⟨name, (split rest).1⟩ hknown]
        simp only [Except.error.injEq, hknown, false_and, or_false]
        constructor
        · rintro rfl
          exact ⟨name, ⟨rfl, hknown⟩, rfl⟩
        · rintro ⟨_, ⟨rfl, -⟩, rfl⟩
          rfl
    · rw [split_of_not_headLine hhead]
      have hnone : ∀ other, ¬ Heads line other := fun other hother => hhead hother.headLine
      simp [hnone, ih]

/-- Without a section of an unknown name all sections have known ones. -/
theorem forall_not_unknownAt_iff : (∀ name, ¬ UnknownAt lines name) ↔
    ∀ line ∈ lines, ∀ name, Heads line name → Known name := by
  induction lines with
  | nil => simp [UnknownAt]
  | cons line rest ih =>
    rw [List.forall_mem_cons, ← ih]
    simp only [unknownAt_cons, not_or, not_and, Decidable.not_not, forall_and]
    exact and_congr_right fun hline => forall_congr' fun name =>
      ⟨fun h => h hline, fun h _ => h⟩

/-- **Sections are all put in place** exactly if all their names are known. -/
theorem exists_setAll_iff : (∃ changed, setAll templates (split lines).2 = .ok changed) ↔
    ∀ line ∈ lines, ∀ name, Heads line name → Known name := by
  rw [← forall_not_unknownAt_iff]
  cases h : setAll templates (split lines).2 with
  | ok changed =>
    refine iff_of_true ⟨changed, rfl⟩ fun name hname => ?_
    rw [setAll_eq_error.2 ⟨name, hname, rfl⟩] at h
    cases h
  | error cause =>
    obtain ⟨name, hname, -⟩ := setAll_eq_error.1 h
    exact iff_of_false (by rintro ⟨_, ⟨⟩⟩) fun hnone => hnone name hname

/-! ## The field of a section -/

/-- **The body of a section**: the last section of this name has it. -/
def BodyOf (lines : List (List Char)) (name : String) (body : List (List Char)) : Prop :=
  ∃ front line rest, lines = front ++ line :: rest ∧ Heads line name ∧
    (∀ later ∈ rest, ¬ Heads later name) ∧ body = rest.takeWhile (¬ HeadLine ·)

theorem bodyOf_cons {body : List (List Char)} (line : List Char) (rest : List (List Char)) :
    BodyOf (line :: rest) name body ↔
      (Heads line name ∧ (∀ later ∈ rest, ¬ Heads later name) ∧
        body = rest.takeWhile (¬ HeadLine ·)) ∨ BodyOf rest name body := by
  rw [BodyOf, exists_append_cons_iff, BodyOf]

/-- **What a file gives for a field**: the body of the last section of its name, or what stood there
before if no section has this name. -/
structure Gives (lines : List (List Char)) (name before after : String) : Prop where
  of_bodyOf : ∀ body, BodyOf lines name body → after = String.ofList (Text.joinLines body)
  of_none : (∀ line ∈ lines, ¬ Heads line name) → after = before

/-- A section in front gives its own field its body, unless a later one of its name does. -/
theorem Gives.cons {field before after : String} {rest : List (List Char)} (hname : Heads line name)
    (h : Gives rest field
      (if field = name then String.ofList (Text.joinLines (rest.takeWhile (¬ HeadLine ·)))
        else before) after) :
    Gives (line :: rest) field before after := by
  by_cases hfield : field = name
  · rw [if_pos hfield] at h
    refine ⟨fun body hbody => ?_, fun hnone => ?_⟩
    · rcases (bodyOf_cons line rest).1 hbody with ⟨-, hlater, rfl⟩ | hbody
      · exact h.of_none hlater
      · exact h.of_bodyOf body hbody
    · exact absurd (hfield ▸ hname) (hnone line List.mem_cons_self)
  · rw [if_neg hfield] at h
    have hother : ¬ Heads line field := fun hother => hfield (hother.unique hname)
    exact ⟨fun body hbody => h.of_bodyOf body
        (((bodyOf_cons line rest).1 hbody).resolve_left fun hfirst => hother hfirst.1),
      fun hnone => h.of_none (List.forall_mem_cons.1 hnone).2⟩

/-- A line that heads no section adds nothing to those below it. -/
theorem Gives.cons_of_not_headLine {before after : String} {rest : List (List Char)}
    (hhead : ¬ HeadLine line) (h : Gives rest name before after) :
    Gives (line :: rest) name before after :=
  ⟨fun body hbody => h.of_bodyOf body
      (((bodyOf_cons line rest).1 hbody).resolve_left fun hfirst => hhead hfirst.1.headLine),
    fun hnone => h.of_none (List.forall_mem_cons.1 hnone).2⟩

/-- **The last section of a name counts**, whichever way the others stand. -/
theorem gives_of_setAll : ∀ {lines : List (List Char)} {templates : Templates},
    setAll templates (split lines).2 = .ok changed → ∀ field ∈ fields,
      Gives lines field.1 (field.2 templates) (field.2 changed) := by
  intro lines
  induction lines with
  | nil =>
    intro templates h field _
    obtain rfl := Except.ok.inj h
    exact ⟨fun body hbody => by simp [BodyOf] at hbody, fun _ => rfl⟩
  | cons line rest ih =>
    intro templates h field hfield
    by_cases hhead : HeadLine line
    · obtain ⟨name, hname⟩ := headLine_iff.1 hhead
      rw [split_of_heads hname, setAll] at h
      split at h
      · rename_i next hset
        have hlater := ih h field hfield
        rw [field_of_set? hset field hfield, fst_split] at hlater
        exact hlater.cons hname
      · cases h
    · rw [split_of_not_headLine hhead] at h
      exact (ih h field hfield).cons_of_not_headLine hhead

/-! ## The whole file -/

theorem ofText_of_strayAt {text : String} (h : StrayAt (Text.lines text.toList) n) :
    ofText text = .error (.strayText n) := by
  rw [ofText]
  simp only [firstText?_eq_some.2 h]

theorem ofText_of_not_strayAt {text : String} (h : ∀ n, ¬ StrayAt (Text.lines text.toList) n) :
    ofText text = setAll default (split (Text.lines text.toList)).2 := by
  rw [ofText]
  simp only [firstText?_eq_none.2 h]

/-- **The templates of a file.**  A file is read exactly if all lines above its first section are
blank and all its sections have known names; then each field is the body of the last section of its
name, or its default if there is none.  Otherwise stray text is the fault, and without any the first
section of an unknown name. -/
theorem ofText_of_lines (text : String) :
    let lines := Text.lines text.toList
    ((∃ templates, ofText text = .ok templates) ↔
      (∀ line ∈ lines.takeWhile (¬ HeadLine ·), Text.isAllBlank line = true) ∧
        ∀ line ∈ lines, ∀ name, Heads line name → Known name) ∧
    (∀ templates, ofText text = .ok templates → ∀ field ∈ fields,
      (∀ body, BodyOf lines field.1 body →
        field.2 templates = String.ofList (Text.joinLines body)) ∧
      ((∀ line ∈ lines, ¬ Heads line field.1) → field.2 templates = field.2 default)) ∧
    ∀ cause, ofText text = .error cause → cause.kind = .general ∧
      ((∃ n, StrayAt lines n ∧ cause.message = "template line " ++ toString n
          ++ ": text before the first '%% <section>' line") ∨
        (∀ n, ¬ StrayAt lines n) ∧ ∃ name, UnknownAt lines name ∧
          cause.message = "unknown template section \"" ++ name ++ "\"") := by
  intro lines
  by_cases hstray : ∃ n, StrayAt lines n
  · obtain ⟨n, hstray⟩ := hstray
    have hno := mt forall_not_strayAt_iff.2 fun h => h n hstray
    rw [ofText_of_strayAt hstray]
    refine ⟨iff_of_false ?_ fun h => hno h.1, ?_, ?_⟩
    · rintro ⟨_, ⟨⟩⟩
    · rintro _ ⟨⟩
    · rintro _ ⟨⟩
      exact ⟨rfl, .inl ⟨n, hstray, rfl⟩⟩
  · rw [not_exists] at hstray
    rw [ofText_of_not_strayAt hstray]
    refine ⟨?_, fun templates h field hfield => ?_, fun cause h => ?_⟩
    · rw [exists_setAll_iff, and_iff_right (forall_not_strayAt_iff.1 hstray)]
    · have hgives := gives_of_setAll h field hfield
      exact ⟨hgives.of_bodyOf, hgives.of_none⟩
    · obtain ⟨name, hname, rfl⟩ := setAll_eq_error.1 h
      exact ⟨rfl, .inr ⟨hstray, name, hname, rfl⟩⟩

end OpcodeTable.Templates
