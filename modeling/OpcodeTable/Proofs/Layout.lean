import OpcodeTable.Proofs.Blank
import OpcodeTable.Proofs.Page
import OpcodeTable.Proofs.Tree

/-!
# Proofs/Layout — a page as references lay it out

A page opens with an index table, and then has for each instruction a named anchor below a heading,
a table of status flags and an opcode table, with any other markup between them (`Layout`).  Names
and tables are paired by counting, never by place; on such a page each opcode table still gets the
name of the closest anchor before it, and all its rows are read (`rowsOf_of_layout`).  Of a cell only
the words matter (`SameWords.rowsOf_eq`), so that trees that are alike make pages with the same rows
(`sameWords_of_alike`).
-/

namespace OpcodeTable.Page

open Html (Document Element Forest Placed)

/-! ## Landmarks -/

/-- **The name a heading's anchor gives**, as written: the value of the attribute `name` of an `a`
below an `h3`. -/
def anchorValue? (placed : Placed) : Option String :=
  if placed.element.name = "a" ∧ placed.isBelow "h3" = true then
    placed.element.attribute? "name"
  else none

/-- A table. -/
def IsTable (placed : Placed) : Prop := placed.element.name = "table"

instance : DecidablePred IsTable := fun placed =>
  inferInstanceAs (Decidable (placed.element.name = "table"))

/-- **The landmarks of a page** are its tables and its named anchors below headings. -/
def IsLandmark (placed : Placed) : Prop := IsTable placed ∨ (anchorValue? placed).isSome = true

instance : DecidablePred IsLandmark := fun _ => instDecidableOr

/-- A value without the blanks around it. -/
def trimmed (value : String) : String := String.ofList (Text.trim value.toList)

/-- **An instruction of a page**: a named anchor, a table of status flags, and an opcode table whose
rows but the first have at least four cells, the second with an opcode. -/
structure Instruction where
  anchor : Placed
  status : Placed
  opcodes : Placed
  value : String
  anchorValue?_eq : anchorValue? anchor = some value
  not_blank : ¬ Text.isAllBlank value.toList = true
  isTable_status : IsTable status
  isTable_opcodes : IsTable opcodes
  sound : ∀ row ∈ (opcodes.content.named ["tr"]).drop 1, 4 ≤ (cells row).length ∧
    ∃ text ∈ (cells row)[1]?, (Opcode.byte? text.toList).isSome = true

namespace Instruction

/-- The name of an instruction. -/
def name (instruction : Instruction) : String := trimmed instruction.value

/-- Its landmarks in order. -/
def landmarks (instruction : Instruction) : List Placed :=
  [instruction.anchor, instruction.status, instruction.opcodes]

/-- Its data rows. -/
def dataRows (instruction : Instruction) : List DataRow :=
  dataRowsOf instruction.name instruction.opcodes.content

end Instruction

/-- **The layout of a page**: an index table and then its instructions, with any other elements
between these landmarks. -/
structure Layout (page : Document) (index : Placed) (instructions : List Instruction) : Prop where
  isTable_index : IsTable index
  landmarks_eq : page.elements.filter (IsLandmark ·)
    = index :: instructions.flatMap Instruction.landmarks

/-- **The tables of a page, each under the closest anchor before it**, of which the trimmed name is
kept; the name of the closest anchor above all of them is given. -/
def tablesUnder (above : Option String) : List Placed → List (Option String × Forest)
  | [] => []
  | placed :: rest =>
    match anchorValue? placed with
    | some value => tablesUnder (some (trimmed value)) rest
    | none =>
      if IsTable placed then (above, placed.content) :: tablesUnder above rest
      else tablesUnder above rest

variable {page : Document} {index : Placed} {instructions : List Instruction} {placed : Placed}

theorem anchorValue?_of_isTable (h : IsTable placed) : anchorValue? placed = none := by
  refine if_neg ?_
  rw [IsTable] at h
  rw [h]
  simp

/-- What is no landmark is passed over. -/
theorem tablesUnder_filter : ∀ (elements : List Placed) (above : Option String),
    tablesUnder above (elements.filter (IsLandmark ·)) = tablesUnder above elements := by
  intro elements
  induction elements with
  | nil => intro above; rfl
  | cons placed rest ih =>
    intro above
    rw [List.filter_cons]
    by_cases hlandmark : IsLandmark placed
    · rw [if_pos (by simpa using hlandmark), tablesUnder, tablesUnder]
      simp only [ih]
    · obtain ⟨htable, hanchor⟩ := not_or.1 hlandmark
      rw [if_neg (by simpa using hlandmark), ih, tablesUnder]
      rw [Option.not_isSome_iff_eq_none] at hanchor
      simp only [hanchor, if_neg htable]

theorem tablesUnder_of_isTable (h : IsTable placed) (above : Option String) (rest : List Placed) :
    tablesUnder above (placed :: rest) = (above, placed.content) :: tablesUnder above rest := by
  rw [tablesUnder]
  simp only [anchorValue?_of_isTable h, if_pos h]

/-- The tables of instructions stand under their own anchors. -/
theorem tablesUnder_landmarks : ∀ (instructions : List Instruction) (above : Option String),
    tablesUnder above (instructions.flatMap Instruction.landmarks)
      = instructions.flatMap fun instruction =>
        [(some instruction.name, instruction.status.content),
          (some instruction.name, instruction.opcodes.content)] := by
  intro instructions
  induction instructions with
  | nil => intro above; rfl
  | cons instruction rest ih =>
    intro above
    rw [List.flatMap_cons, List.flatMap_cons, ← ih (some instruction.name), Instruction.landmarks,
      List.cons_append, tablesUnder]
    simp only [instruction.anchorValue?_eq]
    rw [List.cons_append, tablesUnder_of_isTable instruction.isTable_status, List.cons_append,
      tablesUnder_of_isTable instruction.isTable_opcodes]
    rfl

/-! ## Names and tables by counting -/

/-- The names of a page are those of its landmarks. -/
theorem anchorNames_eq (page : Document) :
    anchorNames page = ((page.elements.filterMap anchorValue?).map trimmed).filter (· ≠ "") := by
  have hvalues : ((page.named "a").filter (·.isBelow "h3")).filterMap
      (·.element.attribute? "name") = page.elements.filterMap anchorValue? := by
    rw [Document.named, List.filter_filter, List.filterMap_filter]
    refine List.filterMap_congr fun placed _ => ?_
    rw [anchorValue?]
    simp [and_comm]
  rw [anchorNames, hvalues]
  rfl

/-- Tables are the elements of that name. -/
theorem named_table (page : Document) : page.named "table" = page.elements.filter (IsTable ·) := by
  refine List.filter_congr fun placed _ => ?_
  rw [Bool.eq_iff_iff, beq_iff_eq, decide_eq_true_iff]
  exact Iff.rfl

theorem filterMap_landmarks (elements : List Placed) :
    (elements.filter (IsLandmark ·)).filterMap anchorValue? = elements.filterMap anchorValue? := by
  rw [List.filterMap_filter]
  refine List.filterMap_congr fun placed _ => ?_
  by_cases hlandmark : IsLandmark placed
  · exact if_pos (decide_eq_true hlandmark)
  · rw [if_neg (by simpa using hlandmark)]
    exact (Option.not_isSome_iff_eq_none.1 (not_or.1 hlandmark).2).symm

theorem filter_landmarks (elements : List Placed) :
    (elements.filter (IsLandmark ·)).filter (IsTable ·) = elements.filter (IsTable ·) := by
  rw [List.filter_filter]
  refine List.filter_congr fun placed _ => ?_
  by_cases htable : IsTable placed <;> simp [htable, IsLandmark]

/-- A text that is not blank has something left when trimmed. -/
theorem trimmed_ne_empty {value : String} (h : ¬ Text.isAllBlank value.toList = true) :
    trimmed value ≠ "" := fun hempty => h <| by
  have hsqueeze := Text.squeeze_trim value.toList
  rw [String.ofList_eq_empty_iff.1 hempty, Text.squeeze, Text.squeeze, List.filter_nil, eq_comm,
    List.filter_eq_nil_iff] at hsqueeze
  exact List.all_eq_true.2 fun c hc => by simpa using hsqueeze c hc

theorem seconds_flatMap {α β : Type} (first second : α → β) (items : List α) :
    seconds (items.flatMap fun item => [first item, second item]) = items.map second := by
  induction items with
  | nil => rfl
  | cons item items ih => rw [List.flatMap_cons, List.map_cons, ← ih]; rfl

namespace Layout

/-- **The names of a page so laid out** are those of its instructions. -/
theorem anchorNames_eq (h : Layout page index instructions) :
    anchorNames page = instructions.map Instruction.name := by
  have hvalues : page.elements.filterMap anchorValue? = instructions.map (·.value) := by
    rw [← filterMap_landmarks, h.landmarks_eq, List.filterMap_cons,
      anchorValue?_of_isTable h.isTable_index, List.filterMap_flatMap, List.map_eq_flatMap]
    refine List.flatMap_congr fun instruction _ => ?_
    simp [Instruction.landmarks, instruction.anchorValue?_eq,
      anchorValue?_of_isTable instruction.isTable_status,
      anchorValue?_of_isTable instruction.isTable_opcodes]
  rw [Page.anchorNames_eq, hvalues, List.map_map]
  refine List.filter_eq_self.2 fun name hname => ?_
  obtain ⟨instruction, -, rfl⟩ := List.mem_map.1 hname
  exact decide_eq_true (trimmed_ne_empty instruction.not_blank)

/-- **Its tables** are the index and then two for each instruction. -/
theorem named_table (h : Layout page index instructions) :
    page.named "table" = index :: instructions.flatMap
      fun instruction => [instruction.status, instruction.opcodes] := by
  rw [Page.named_table, ← filter_landmarks, h.landmarks_eq,
    List.filter_cons, if_pos (decide_eq_true h.isTable_index), List.filter_flatMap]
  refine congrArg (index :: ·) (List.flatMap_congr fun instruction _ => ?_)
  have hanchor : ¬ IsTable instruction.anchor := fun htable => by
    have hvalue := instruction.anchorValue?_eq
    rw [anchorValue?_of_isTable htable] at hvalue
    cases hvalue
  simp [Instruction.landmarks, hanchor, instruction.isTable_status, instruction.isTable_opcodes]

/-- **Counting finds the opcode tables.** -/
theorem opcodeTables_eq (h : Layout page index instructions) :
    opcodeTables page = instructions.map (·.opcodes.content) := by
  rw [opcodeTables, h.named_table, List.drop_succ_cons, List.drop_zero, seconds_flatMap,
    List.map_map]
  rfl

theorem balanced (h : Layout page index instructions) : Balanced page := by
  rw [Balanced, ← length_opcodeTables, h.anchorNames_eq, h.opcodeTables_eq, List.length_map,
    List.length_map]

/-- **The data rows of the page** are those of its instructions. -/
theorem dataRows_eq (h : Layout page index instructions) :
    dataRows page = instructions.flatMap Instruction.dataRows := by
  rw [dataRows, ← zip_opcodeTables, names_eq_anchorNames, h.anchorNames_eq, h.opcodeTables_eq,
    List.zip_map', List.flatMap_map]
  rfl

end Layout

/-- The data rows of an instruction have no flaw. -/
theorem Instruction.not_flaw (instruction : Instruction) {data : DataRow}
    (hdata : data ∈ instruction.dataRows) (cause : Cause) : ¬ data.Flaw cause := by
  obtain ⟨⟨content, number⟩, hrow, rfl⟩ := List.mem_map.1 hdata
  have hcontent : content ∈ (instruction.opcodes.content.named ["tr"]).drop 1 := by
    cases hrows : instruction.opcodes.content.named ["tr"] with
    | nil => simp [hrows] at hrow
    | cons head rows =>
      rw [hrows, List.zipIdx_cons, List.drop_succ_cons, List.drop_zero] at hrow
      exact List.fst_mem_of_mem_zipIdx hrow
  obtain ⟨hfour, text, htext, hbyte⟩ := instruction.sound content hcontent
  intro hflaw
  cases hflaw with
  | short hshort => exact absurd hfour (Nat.not_le.2 hshort)
  | @opcode other _ hother hnone =>
    obtain rfl : text = other := Option.some.inj (htext.symm.trans hother)
    rw [hnone] at hbyte
    cases hbyte

/-! ## Rows by the words of their cells -/

/-- **Tables with the same words** in each cell of each row. -/
def SameCells (table table' : Forest) : Prop :=
  List.Forall₂ (fun row row' => row.cellWords = row'.cellWords) (table.named ["tr"])
    (table'.named ["tr"])

/-- **Pages with the same words**: their names are the same and their tables have the same words. -/
def SameWords (page page' : Document) : Prop :=
  anchorNames page = anchorNames page' ∧ List.Forall₂ SameCells (tables page) (tables page')

section Congruence

variable {page page' : Document} {row row' table table' : Forest} {name : String} {number : Nat}

theorem cells_eq (row : Forest) :
    cells row = row.cellWords.map fun words => String.ofList ([' '].intercalate words) := by
  rw [cells, Forest.cellWords, List.map_map]
  rfl

/-- **A row is read off the words of its cells.** -/
theorem row_congr (h : row.cellWords = row'.cellWords) :
    Page.row name number row = Page.row name number row' := by
  rw [Page.row, Page.row, cells_eq, cells_eq, h]

theorem rowsFrom_congr {rows rows' : List Forest}
    (h : List.Forall₂ (fun row row' => row.cellWords = row'.cellWords) rows rows') :
    ∀ number, rowsFrom name number rows = rowsFrom name number rows' := by
  induction h with
  | nil => exact fun _ => rfl
  | cons hrow _ ih =>
    intro number
    rw [rowsFrom, rowsFrom, row_congr hrow, ih]

theorem allRows_congr {tables tables' : List Forest} (h : List.Forall₂ SameCells tables tables') :
    ∀ names : List String, allRows (names.zip tables) = allRows (names.zip tables') := by
  induction h with
  | nil => exact fun _ => rfl
  | cons htable _ ih =>
    intro names
    cases names with
    | nil => rfl
    | cons name names =>
      rw [List.zip_cons_cons, List.zip_cons_cons, allRows, allRows, ih, tableRows, tableRows,
        rowsFrom_congr (List.forall₂_drop 1 htable)]

theorem forall₂_seconds {α β : Type} {R : α → β → Prop} : ∀ {items : List α} {others : List β},
    List.Forall₂ R items others → List.Forall₂ R (seconds items) (seconds others)
  | [], [], _ => .nil
  | [_], [_], _ => .nil
  | _ :: _ :: _, _ :: _ :: _, .cons _ (.cons hsecond hrest) => .cons hsecond (forall₂_seconds hrest)

/-- **Only words matter**: pages with the same words have the same rows, or the same fault. -/
theorem SameWords.rowsOf_eq (h : SameWords page page') : rowsOf page = rowsOf page' := by
  have htables : List.Forall₂ SameCells (opcodeTables page) (opcodeTables page') := by
    have hall := h.2
    rw [tables, tables, List.forall₂_map_left_iff, List.forall₂_map_right_iff] at hall
    rw [opcodeTables, opcodeTables, List.forall₂_map_left_iff, List.forall₂_map_right_iff]
    exact forall₂_seconds (List.forall₂_drop 1 hall)
  rw [rowsOf, rowsOf]
  simp only [names_eq_anchorNames, h.1, htables.length_eq, allRows_congr htables]

theorem anchorValue?_of_inline (h : placed.element.Inline) : anchorValue? placed = none := by
  rw [anchorValue?]
  split
  · exact h.2 ‹_ ∧ _›.1
  · rfl

theorem tables_ofTree (tree : Forest) : tables (.ofTree tree) = tree.named ["table"] :=
  (Forest.named_eq_placed "table" tree []).symm

/-- **Trees alike make pages with the same words.** -/
theorem sameWords_of_alike {tree tree' : Forest} (h : tree.Alike tree') :
    SameWords (.ofTree tree) (.ofTree tree') := by
  constructor
  · have hvalues :
        (tree.placed []).filterMap anchorValue? = (tree'.placed []).filterMap anchorValue? :=
      h.filterMap_placed (fun _ => anchorValue?_of_inline) (fun _ _ _ _ => rfl) []
    rw [anchorNames_eq, anchorNames_eq, Document.ofTree, Document.ofTree, hvalues]
  · rw [tables_ofTree, tables_ofTree]
    exact (h.named (by simp)).imp fun _ _ htable =>
      (htable.named (by simp)).imp fun _ _ hrow => hrow.cellWords_eq

end Congruence

/-! ## The rows of a page so laid out -/

/-- **The rows of a page in the layout.**  Each instruction has its two tables under its own anchor,
and each row of its opcode table but the first makes a row with its name, in order.  Pages with the
same words have the same rows, and so do the pages of trees that are alike; and an edit of a cell
leaves a tree alike. -/
theorem rowsOf_of_layout (h : Layout page index instructions) :
    (∃ rows, rowsOf page = ⟨[.anchors instructions.length], "", .ok rows⟩ ∧
      List.Forall₂ DataRow.Makes (instructions.flatMap Instruction.dataRows) rows) ∧
    tablesUnder none page.elements = (none, index.content) :: instructions.flatMap
      (fun instruction => [(some instruction.name, instruction.status.content),
        (some instruction.name, instruction.opcodes.content)]) ∧
    (∀ page', SameWords page page' → rowsOf page' = rowsOf page) ∧
    (∀ tree tree' : Forest, tree.Alike tree' →
      rowsOf (.ofTree tree') = rowsOf (.ofTree tree)) ∧
    (∀ (e : Html.Element) (content content' next : Forest), e.name ∈ ["td", "th"] →
      content.Inline → content.Edit content' →
        (Forest.element e content next).Alike (.element e content' next)) := by
  refine ⟨?_, ?_, fun page' hwords => hwords.rowsOf_eq.symm,
    fun tree tree' halike => (sameWords_of_alike halike).rowsOf_eq.symm,
    fun e content content' next he hinline hedit => hedit.alike he hinline next⟩
  · have hsound : ∀ data ∈ instructions.flatMap Instruction.dataRows, ∀ cause,
        ¬ data.Flaw cause := fun data hdata => by
      obtain ⟨instruction, -, hmem⟩ := List.mem_flatMap.1 hdata
      exact instruction.not_flaw hmem
    obtain ⟨rows, hread, hmakes⟩ := mapM_read_of_sound hsound
    refine ⟨rows, ?_, hmakes⟩
    rw [rowsOf_of_balanced h.balanced, h.dataRows_eq, hread, h.anchorNames_eq, List.length_map]
  · rw [← tablesUnder_filter, h.landmarks_eq, tablesUnder_of_isTable h.isTable_index,
      tablesUnder_landmarks]

/-! ## A page with two instructions -/

/-- An element without attributes. -/
def plain (name : String) : Html.Element := ⟨.html, name, []⟩

/-- A table with an empty row and a row of the given cells. -/
def tableOf (around : List String) (cells : List Forest) : Placed :=
  let row := Forest.element (plain "tr") (cells.foldr (.element (plain "td")) .nil) .nil
  ⟨plain "table", around.map plain,
    .element (plain "tbody") (.element (plain "tr") .nil row) .nil⟩

/-- The first instruction of the page; its tables stand in a paragraph. -/
def increment : Instruction where
  anchor := ⟨⟨.html, "a", [⟨"name", " INX "⟩]⟩, ["h3", "body", "html"].map plain, .text "INX" .nil⟩
  status := ⟨plain "table", ["p", "body", "html"].map plain, .nil⟩
  opcodes := tableOf ["p", "body", "html"]
    [.text "Implied" .nil, .text "$E8" .nil, .text "1" .nil, .text "2" .nil]
  value := " INX "
  anchorValue?_eq := by decide
  not_blank := by decide
  isTable_status := by decide
  isTable_opcodes := by decide
  sound := by decide +kernel

/-- The second; its opcode is marked up. -/
def idle : Instruction where
  anchor := ⟨⟨.html, "a", [⟨"name", "NOP"⟩]⟩, ["h3", "body", "html"].map plain, .nil⟩
  status := ⟨plain "table", ["body", "html"].map plain, .nil⟩
  opcodes := tableOf ["body", "html"] [.text "Implied" .nil,
    .text "$" (.element (plain "b") (.text "EA" .nil) .nil), .text "1" .nil, .text "2" .nil]
  value := "NOP"
  anchorValue?_eq := by decide
  not_blank := by decide
  isTable_status := by decide
  isTable_opcodes := by decide
  sound := by decide +kernel

/-- The page, from the pieces of its text. -/
def twoInstructions : Document := Html.parse ([
  "<table></table>", "<h3><a name=' INX '>INX</a></h3>", "<p>Adds one.", "<table></table>",
  "<table><tr><tr><td>Implied", "<td>$E8<td>1<td>2</table>",
  "<h3><a name=NOP></a></h3>", "<table></table>",
  "<table><tr><tr><td>Implied", "<td>$<b>EA</b><td>1<td>2</table>"].flatMap String.toList)

deriving instance DecidableEq for Html.Placed

theorem layout_twoInstructions : Layout twoInstructions
    ⟨plain "table", ["body", "html"].map plain, .nil⟩ [increment, idle] :=
  ⟨by decide, by decide +kernel⟩

theorem rowsOf_twoInstructions :
    Layout twoInstructions ⟨plain "table", ["body", "html"].map plain, .nil⟩ [increment, idle] ∧
    (∃ rows, rowsOf twoInstructions = ⟨[.anchors 2], "", .ok rows⟩ ∧
      List.Forall₂ DataRow.Makes ([increment, idle].flatMap Instruction.dataRows) rows) ∧
    ([increment, idle].flatMap Instruction.dataRows).map (·.name) = ["INX", "NOP"] :=
  ⟨layout_twoInstructions, (rowsOf_of_layout layout_twoInstructions).1, by decide +kernel⟩

end OpcodeTable.Page
