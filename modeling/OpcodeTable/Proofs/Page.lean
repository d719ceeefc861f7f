import Mathlib.Data.List.Forall2
import OpcodeTable.Page

/-!
# Proofs/Page — which rows a page has

The names of a page and its opcode tables are said here by their positions: the name at position `k`
belongs to the table at position `2k + 2`, nested tables counted.  The data rows of these tables, in
order, are what the reader goes through (`allRows_eq_mapM`): the first of them with a flaw is the
fault of the page, and without one each makes a row (`outcome_rowsOf_eq_error`,
`outcome_rowsOf_eq_ok`).
-/

namespace OpcodeTable.Page

open Html (Document Forest)

/-! ## Reading item by item -/

section Items

variable {α β ε : Type} {f : α → Except ε β} {fault : ε}

theorem mapM_cons_of_error {item : α} (h : f item = .error fault) (items : List α) :
    (item :: items).mapM f = .error fault := by
  rw [List.mapM_cons, h]
  rfl

theorem mapM_cons_of_ok {item : α} {value : β} (h : f item = .ok value) (items : List α) :
    (item :: items).mapM f = (value :: ·) <$> items.mapM f := by
  rw [List.mapM_cons, h, map_eq_pure_bind]
  rfl

/-- **Items are all read** if each is read on its own. -/
theorem mapM_eq_ok : ∀ {items : List α} {values : List β}, items.mapM f = .ok values
    ↔ List.Forall₂ (fun item value => f item = .ok value) items values := by
  intro items
  induction items with
  | nil => intro values; simp [pure, Except.pure, eq_comm]
  | cons item items ih =>
    intro values
    rw [List.forall₂_cons_left_iff]
    simp only [← ih]
    cases hitem : f item with
    | error fault => simp [mapM_cons_of_error hitem]
    | ok value =>
      rw [mapM_cons_of_ok hitem]
      cases items.mapM f with
      | error fault => simp [Functor.map, Except.map]
      | ok later => simp [Functor.map, Except.map, eq_comm]

/-- **The first item that cannot be read** is the fault of them all. -/
theorem mapM_of_first_error {item : α} {after : List α} (hitem : f item = .error fault) :
    ∀ {before : List α}, (∀ other ∈ before, ∃ value, f other = .ok value) →
      (before ++ item :: after).mapM f = .error fault := by
  intro before
  induction before with
  | nil => exact fun _ => mapM_cons_of_error hitem after
  | cons first before ih =>
    intro hbefore
    obtain ⟨⟨value, hfirst⟩, hrest⟩ := List.forall_mem_cons.1 hbefore
    rw [List.cons_append, mapM_cons_of_ok hfirst, ih hrest]
    rfl

theorem exists_first_of_mapM_error : ∀ {items : List α}, items.mapM f = .error fault →
    ∃ before item after, items = before ++ item :: after ∧
      (∀ other ∈ before, ∃ value, f other = .ok value) ∧ f item = .error fault := by
  intro items
  induction items with
  | nil => intro h; cases h
  | cons first items ih =>
    intro h
    cases hfirst : f first with
    | error other =>
      rw [mapM_cons_of_error hfirst] at h
      obtain rfl := Except.error.inj h
      exact ⟨[], first, items, rfl, by simp, hfirst⟩
    | ok value =>
      have hitems : items.mapM f = .error fault := by
        rw [mapM_cons_of_ok hfirst] at h
        cases hrest : items.mapM f with
        | error other => rwa [hrest] at h
        | ok later =>
          rw [hrest] at h
          cases h
      obtain ⟨before, item, after, rfl, hbefore, hitem⟩ := ih hitems
      exact ⟨first :: before, item, after, rfl,
        List.forall_mem_cons.2 ⟨⟨value, hfirst⟩, hbefore⟩, hitem⟩

end Items

/-! ## Names and their tables -/

/-- **The names of a page**: the values of the attribute `name` of the anchors below an `h3`,
trimmed, without the empty ones. -/
def anchorNames (page : Document) : List String :=
  ((((page.named "a").filter (·.isBelow "h3")).filterMap (·.element.attribute? "name")).map
    fun name => String.ofList (Text.trim name.toList)).filter (· ≠ "")

/-- **The tables of a page** by their contents, nested ones included. -/
def tables (page : Document) : List Forest := (page.named "table").map (·.content)

/-- **The tables that have a name**: the one at position `2k + 2` has the name at position `k`. -/
def namedTables (page : Document) : List (String × Forest) :=
  (anchorNames page).zipIdx.filterMap fun (name, k) =>
    (tables page)[2 * k + 2]?.map fun table => (name, table)

theorem names_eq_anchorNames (page : Document) : names page = anchorNames page := by
  rw [names, anchorNames]
  generalize ((page.named "a").filter (·.isBelow "h3")).filterMap
    (·.element.attribute? "name") = values
  rw [← List.filterMap_eq_filter, List.filterMap_map]
  refine List.filterMap_congr fun value _ => ?_
  have hempty : String.ofList (Text.trim value.toList) = ""
      ↔ (Text.trim value.toList).isEmpty = true := by
    rw [List.isEmpty_iff, String.ofList_eq_empty_iff]
  simp only [Function.comp_apply, Option.guard, ne_eq, hempty, decide_not, Bool.decide_eq_true]
  cases (Text.trim value.toList).isEmpty <;> rfl

theorem length_seconds {α : Type} : ∀ items : List α, (seconds items).length = items.length / 2
  | [] => by simp [seconds]
  | [_] => by simp [seconds]
  | _ :: second :: rest => by
    rw [seconds, List.length_cons, length_seconds rest, List.length_cons, List.length_cons]
    omega

theorem getElem?_seconds {α : Type} : ∀ (items : List α) (k : Nat),
    (seconds items)[k]? = items[2 * k + 1]?
  | [], _ => rfl
  | [_], _ => rfl
  | _ :: second :: rest, 0 => rfl
  | _ :: second :: rest, k + 1 => by
    rw [seconds, List.getElem?_cons_succ, getElem?_seconds rest k, Nat.mul_succ]
    rfl

/-- A page of `count` tables has an opcode table for every second one behind the first. -/
theorem length_opcodeTables (page : Document) :
    (opcodeTables page).length = ((page.named "table").length - 1) / 2 := by
  rw [opcodeTables, List.length_map, length_seconds, List.length_drop]

theorem getElem?_opcodeTables (page : Document) (k : Nat) :
    (opcodeTables page)[k]? = (tables page)[2 * k + 2]? := by
  rw [opcodeTables, tables, List.getElem?_map, List.getElem?_map, getElem?_seconds,
    List.getElem?_drop, Nat.add_comm 1]

/-- Neighbours of a list and the positions from `n` on of another. -/
theorem zip_drop_eq_filterMap {α β : Type} (others : List β) : ∀ (items : List α) (n : Nat),
    items.zip (others.drop n)
      = (items.zipIdx n).filterMap fun (item, k) => others[k]?.map fun other => (item, other) := by
  intro items
  induction items with
  | nil => intro n; rfl
  | cons item items ih =>
    intro n
    by_cases hn : n < others.length
    · have hhere : others[n]? = some others[n] := List.getElem?_eq_getElem hn
      rw [List.drop_eq_getElem_cons hn, List.zip_cons_cons, ih (n + 1), List.zipIdx_cons]
      simp only [List.filterMap_cons, hhere, Option.map_some]
    · have hbeyond : ∀ k, n ≤ k → others[k]? = none := fun k hk =>
        List.getElem?_eq_none (by omega)
      rw [List.drop_eq_nil_of_le (Nat.not_lt.1 hn), List.zip_nil_right, eq_comm,
        List.filterMap_eq_nil_iff]
      rintro ⟨other, k⟩ hmem
      simp only [hbeyond k (List.le_snd_of_mem_zipIdx hmem), Option.map_none]

/-- **Names and opcode tables are paired by position.** -/
theorem zip_opcodeTables (page : Document) :
    (names page).zip (opcodeTables page) = namedTables page := by
  have hzip := zip_drop_eq_filterMap (opcodeTables page) (names page) 0
  rw [List.drop_zero] at hzip
  rw [hzip, namedTables, names_eq_anchorNames]
  simp only [getElem?_opcodeTables]

/-! ## Data rows -/

/-- **A data row**: a row of an opcode table, with the name of the table and its number there. -/
structure DataRow where
  name : String
  number : Nat
  content : Forest

/-- **The data rows of a table**: its rows but the first, which still counts as number one. -/
def dataRowsOf (name : String) (table : Forest) : List DataRow :=
  (((table.named ["tr"]).zipIdx 1).drop 1).map fun (content, number) => ⟨name, number, content⟩

/-- **The data rows of a page**, table by table. -/
def dataRows (page : Document) : List DataRow :=
  (namedTables page).flatMap fun (name, table) => dataRowsOf name table

namespace DataRow

/-- The texts of its cells. -/
def texts (data : DataRow) : List String := cells data.content

/-- **What is wrong with a data row**: it has fewer than four cells, or its second one is no
opcode. -/
inductive Flaw (data : DataRow) : Cause → Prop
  | short (h : data.texts.length < 4) : Flaw data (.shortRow data.texts.length)
  | opcode {text : String} (hlength : 4 ≤ data.texts.length) (htext : data.texts[1]? = some text)
      (h : Opcode.byte? text.toList = none) : Flaw data (.malformedOpcode text)

/-- **The row a data row makes**: its first four cells, of which the second is an opcode. -/
def Makes (data : DataRow) (row : Row) : Prop :=
  ∃ label opcode size cycles more byte, data.texts = label :: opcode :: size :: cycles :: more ∧
    Opcode.byte? opcode.toList = some byte ∧
    row = ⟨.official, data.name, opcode, label, size, cycles,
      "official reference table " ++ data.name ++ " row " ++ toString data.number⟩

/-- A data row as the reader takes it. -/
def read (data : DataRow) : Except Fault Row := row data.name data.number data.content

/-- **A data row has a flaw or makes a row.** -/
theorem flaw_or_makes (data : DataRow) :
    (∃ cause, data.Flaw cause) ∨ ∃ row, data.Makes row := by
  by_cases hlength : data.texts.length < 4
  · exact .inl ⟨_, .short hlength⟩
  have hfour : 4 ≤ data.texts.length := Nat.not_lt.1 hlength
  obtain ⟨label, opcode, size, cycles, more, htexts⟩ : ∃ label opcode size cycles more,
      data.texts = label :: opcode :: size :: cycles :: more := by
    match data.texts, hfour with
    | label :: opcode :: size :: cycles :: more, _ => exact ⟨label, opcode, size, cycles, more, rfl⟩
  cases hbyte : Opcode.byte? opcode.toList with
  | none => exact .inl ⟨_, .opcode hfour (by rw [htexts]; rfl) hbyte⟩
  | some byte => exact .inr ⟨_, label, opcode, size, cycles, more, byte, htexts, hbyte, rfl⟩

theorem read_of_flaw {data : DataRow} {cause : Cause} (h : data.Flaw cause) :
    data.read = .error ⟨cause, some (origin data.name data.number)⟩ := by
  rw [read, row]
  cases h with
  | short hlength =>
    rw [texts] at hlength ⊢
    match cells data.content, hlength with
    | [], _ | [_], _ | [_, _], _ | [_, _, _], _ => rfl
  | @opcode text hfour htext hbyte =>
    rw [texts] at hfour htext
    match cells data.content, hfour, htext with
    | _ :: opcode :: _ :: _ :: _, _, htext =>
      obtain rfl : opcode = text := Option.some.inj htext
      simp only [Opcode.read_eq_error.2 ⟨hbyte, rfl⟩]

theorem read_of_makes {data : DataRow} {row : Row} (h : data.Makes row) : data.read = .ok row := by
  obtain ⟨label, opcode, size, cycles, more, byte, htexts, hbyte, rfl⟩ := h
  rw [texts] at htexts
  rw [read, Page.row, htexts]
  simp only [Opcode.read_eq_ok.2 hbyte]
  rfl

/-- **A data row is refused** for its flaw, at its place. -/
theorem read_eq_error {data : DataRow} {fault : Fault} : data.read = .error fault
    ↔ ∃ cause, data.Flaw cause ∧ fault = ⟨cause, some (origin data.name data.number)⟩ := by
  constructor
  · intro hread
    rcases data.flaw_or_makes with ⟨cause, hflaw⟩ | ⟨row, hmakes⟩
    · exact ⟨cause, hflaw, Except.error.inj (hread.symm.trans (read_of_flaw hflaw))⟩
    · rw [read_of_makes hmakes] at hread
      cases hread
  · rintro ⟨cause, hflaw, rfl⟩
    exact read_of_flaw hflaw

theorem read_eq_ok {data : DataRow} {row : Row} : data.read = .ok row ↔ data.Makes row := by
  refine ⟨fun hread => ?_, read_of_makes⟩
  rcases data.flaw_or_makes with ⟨cause, hflaw⟩ | ⟨other, hmakes⟩
  · rw [read_of_flaw hflaw] at hread
    cases hread
  · rwa [Except.ok.inj (hread.symm.trans (read_of_makes hmakes))]

/-- A data row without a flaw makes a row. -/
theorem exists_read_iff {data : DataRow} :
    (∃ row, data.read = .ok row) ↔ ∀ cause, ¬ data.Flaw cause := by
  constructor
  · rintro ⟨row, hread⟩ cause hflaw
    rw [read_of_flaw hflaw] at hread
    cases hread
  · intro hsound
    obtain ⟨cause, hflaw⟩ | ⟨row, hmakes⟩ := data.flaw_or_makes
    · exact absurd hflaw (hsound cause)
    · exact ⟨row, read_of_makes hmakes⟩

end DataRow

/-! ## The reader goes through the data rows -/

/-- **The first data row with a flaw** is the fault of them all. -/
theorem mapM_read_of_flaw {before after : List DataRow} {data : DataRow} {cause : Cause}
    (hbefore : ∀ other ∈ before, ∀ cause, ¬ other.Flaw cause) (hflaw : data.Flaw cause) :
    (before ++ data :: after).mapM DataRow.read
      = .error ⟨cause, some (origin data.name data.number)⟩ :=
  mapM_of_first_error (DataRow.read_of_flaw hflaw)
    fun other hother => DataRow.exists_read_iff.2 (hbefore other hother)

/-- **Data rows without a flaw** make a row each. -/
theorem mapM_read_of_sound {items : List DataRow}
    (hsound : ∀ data ∈ items, ∀ cause, ¬ data.Flaw cause) :
    ∃ rows, items.mapM DataRow.read = .ok rows ∧ List.Forall₂ DataRow.Makes items rows := by
  cases hread : items.mapM DataRow.read with
  | error fault =>
    obtain ⟨before, data, after, rfl, -, hdata⟩ := exists_first_of_mapM_error hread
    obtain ⟨cause, hflaw, -⟩ := DataRow.read_eq_error.1 hdata
    exact absurd hflaw (hsound data (by simp) cause)
  | ok rows => exact ⟨rows, rfl, (mapM_eq_ok.1 hread).imp fun _ _ => DataRow.read_eq_ok.1⟩

theorem rowsFrom_eq_mapM (name : String) : ∀ (contents : List Forest) (number : Nat),
    rowsFrom name number contents = ((contents.zipIdx number).map fun (content, number) =>
      (⟨name, number, content⟩ : DataRow)).mapM DataRow.read := by
  intro contents
  induction contents with
  | nil => intro number; rfl
  | cons content contents ih =>
    intro number
    rw [rowsFrom, List.zipIdx_cons, List.map_cons, ih (number + 1)]
    have hread : row name number content = DataRow.read ⟨name, number, content⟩ := rfl
    rw [hread]
    cases hfirst : DataRow.read ⟨name, number, content⟩ with
    | error fault => rw [mapM_cons_of_error hfirst]
    | ok first =>
      rw [mapM_cons_of_ok hfirst]
      split <;> simp_all [Functor.map, Except.map]

theorem tableRows_eq_mapM (name : String) (table : Forest) :
    tableRows name table = (dataRowsOf name table).mapM DataRow.read := by
  rw [tableRows, dataRowsOf, rowsFrom_eq_mapM]
  cases table.named ["tr"] <;> rfl

theorem allRows_eq_mapM : ∀ tables : List (String × Forest), allRows tables
    = (tables.flatMap fun (name, table) => dataRowsOf name table).mapM DataRow.read := by
  intro tables
  induction tables with
  | nil => rfl
  | cons table tables ih =>
    rw [allRows, tableRows_eq_mapM, ih, List.flatMap_cons, List.mapM_append]
    split <;> simp_all [bind, Except.bind, pure, Except.pure]

/-! ## The whole page -/

/-- A page has as many names as its opcode tables. -/
def Balanced (page : Document) : Prop :=
  (anchorNames page).length = ((page.named "table").length - 1) / 2

theorem rowsOf_of_not_balanced {page : Document} (h : ¬ Balanced page) :
    rowsOf page = ⟨[], "", .error ⟨.anchorsAndTables (anchorNames page).length
      (((page.named "table").length - 1) / 2), some context⟩⟩ := by
  rw [rowsOf]
  simp only [names_eq_anchorNames, length_opcodeTables]
  exact if_neg h

theorem rowsOf_of_balanced {page : Document} (h : Balanced page) :
    rowsOf page
      = ⟨[.anchors (anchorNames page).length], "", (dataRows page).mapM DataRow.read⟩ := by
  rw [rowsOf]
  simp only [names_eq_anchorNames, length_opcodeTables]
  refine (if_pos h).trans ?_
  rw [← names_eq_anchorNames, zip_opcodeTables, allRows_eq_mapM, ← dataRows]
  cases (dataRows page).mapM DataRow.read <;> rfl

/-- **The fault of a page**: its names and opcode tables do not match, or it is that of the first
data row with a flaw. -/
inductive HasFault (page : Document) : Fault → Prop
  | counts (h : ¬ Balanced page) : HasFault page ⟨.anchorsAndTables (anchorNames page).length
      (((page.named "table").length - 1) / 2), some context⟩
  | row {before after : List DataRow} {data : DataRow} {cause : Cause} (h : Balanced page)
      (hrows : dataRows page = before ++ data :: after)
      (hbefore : ∀ other ∈ before, ∀ cause, ¬ other.Flaw cause) (hflaw : data.Flaw cause) :
      HasFault page ⟨cause, some (origin data.name data.number)⟩

theorem outcome_rowsOf_eq_error {page : Document} {fault : Fault} :
    (rowsOf page).outcome = .error fault ↔ HasFault page fault := by
  by_cases hbalanced : Balanced page
  · rw [rowsOf_of_balanced hbalanced]
    constructor
    · intro hrun
      obtain ⟨before, data, after, hrows, hbefore, hread⟩ := exists_first_of_mapM_error hrun
      obtain ⟨cause, hflaw, rfl⟩ := DataRow.read_eq_error.1 hread
      exact .row hbalanced hrows
        (fun other hother => DataRow.exists_read_iff.1 (hbefore other hother)) hflaw
    · intro hfault
      cases hfault with
      | counts hnot => exact absurd hbalanced hnot
      | row _ hrows hbefore hflaw =>
        rw [hrows]
        exact mapM_read_of_flaw hbefore hflaw
  · rw [rowsOf_of_not_balanced hbalanced, Except.error.injEq, eq_comm]
    constructor
    · rintro rfl
      exact .counts hbalanced
    · intro hfault
      cases hfault with
      | counts => rfl
      | row hyes => exact absurd hyes hbalanced

/-- **The page has the rows**: its names and opcode tables match, and each data row makes one. -/
def HasRows (page : Document) (rows : List Row) : Prop :=
  Balanced page ∧ List.Forall₂ DataRow.Makes (dataRows page) rows

theorem outcome_rowsOf_eq_ok {page : Document} {rows : List Row} :
    (rowsOf page).outcome = .ok rows ↔ HasRows page rows := by
  by_cases hbalanced : Balanced page
  · rw [rowsOf_of_balanced hbalanced, mapM_eq_ok]
    simp only [HasRows, hbalanced, true_and, DataRow.read_eq_ok]
  · simp [rowsOf_of_not_balanced hbalanced, HasRows, hbalanced]

/-- **The opcodes of a page** can all be read. -/
theorem HasRows.exists_byte {page : Document} {rows : List Row} (h : HasRows page rows) :
    ∀ row ∈ rows, ∃ byte, Opcode.byte? row.opcode.toList = some byte := by
  have hbytes : List.Forall₂ (fun row data =>
      (∃ byte, Opcode.byte? row.opcode.toList = some byte) ∧ data.Makes row) rows
      (dataRows page) := by
    refine h.2.flip.imp fun row data hmakes => ⟨?_, hmakes⟩
    obtain ⟨_, _, _, _, _, byte, -, hbyte, rfl⟩ := hmakes
    exact ⟨byte, hbyte⟩
  exact ((List.forall₂_and_left _ _).1 hbytes).1

end OpcodeTable.Page
