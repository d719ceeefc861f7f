import OpcodeTable.Html.Reader
import OpcodeTable.Html.Select
import OpcodeTable.Opcode
import OpcodeTable.Traced

/-!
# Page — the tables of the documented instructions

The page opens with an index table.  Each instruction then has a heading with a named anchor, a
table of status flags and an opcode table, whose first row holds the column headers.  Names and
opcode tables are paired by their order.
-/

namespace OpcodeTable.Page

open Html (Document Forest)

/-- The place of a fault that concerns the page as a whole. -/
def context : String := "official reference"

/-- **The names of the headings' anchors**, trimmed, blank ones left out. -/
def names (page : Document) : List String :=
  let anchors := (page.named "a").filter (·.isBelow "h3")
  (anchors.filterMap fun anchor => anchor.element.attribute? "name").filterMap fun name =>
    let trimmed := Text.trim name.toList
    if trimmed.isEmpty then none else some (String.ofList trimmed)

/-- Every second item, from the second on. -/
def seconds {α : Type} : List α → List α
  | _ :: second :: rest => second :: seconds rest
  | _ => []

/-- **The contents of the opcode tables**: after the index table every second one. -/
def opcodeTables (page : Document) : List Forest :=
  (seconds ((page.named "table").drop 1)).map (·.content)

/-- The words of a cell, one space between neighbours. -/
def cellText (cell : Forest) : String := String.ofList (Text.unwrap cell.textContent)

/-- The texts of a row's cells. -/
def cells (row : Forest) : List String := (row.named ["td", "th"]).map cellText

/-- Where a row stands, in words; rows are counted from one. -/
def origin (name : String) (number : Nat) : String :=
  s!"official reference table {name} row {number}"

/-- **The row of a table row**: at least four cells, of which the second is an opcode. -/
def row (name : String) (number : Nat) (tableRow : Forest) : Except Fault Row :=
  let place := origin name number
  let texts := cells tableRow
  match texts with
  | label :: opcode :: size :: cycles :: _ =>
    match Opcode.read opcode with
    | .ok _ => .ok ⟨.official, name, opcode, label, size, cycles, place⟩
    | .error cause => .error ⟨cause, place⟩
  | _ => .error ⟨.shortRow texts.length, place⟩

/-- The rows of table rows, counted from `number` on. -/
def rowsFrom (name : String) (number : Nat) : List Forest → Except Fault (List Row)
  | [] => .ok []
  | tableRow :: rest =>
    match row name number tableRow, rowsFrom name (number + 1) rest with
    | .error fault, _ => .error fault
    | .ok _, .error fault => .error fault
    | .ok first, .ok later => .ok (first :: later)

/-- The rows of an opcode table, without its first. -/
def tableRows (name : String) (table : Forest) : Except Fault (List Row) :=
  rowsFrom name 2 ((table.named ["tr"]).drop 1)

/-- The rows of opcode tables, each under its name. -/
def allRows : List (String × Forest) → Except Fault (List Row)
  | [] => .ok []
  | (name, table) :: rest =>
    match tableRows name table, allRows rest with
    | .error fault, _ => .error fault
    | .ok _, .error fault => .error fault
    | .ok first, .ok later => .ok (first ++ later)

/-- **The rows of a page**: there are as many names as opcode tables, and the first row that is
short or has no opcode is the fault of the page. -/
def rowsOf (page : Document) : Traced (List Row) := do
  let names := names page
  let tables := opcodeTables page
  if names.length = tables.length then
    Traced.notify (.anchors names.length)
    match allRows (names.zip tables) with
    | .ok rows => return rows
    | .error fault => Traced.fail fault.cause fault.place
  else Traced.fail (.anchorsAndTables names.length tables.length) context

/-- The rows of a page, from its text. -/
def rows (text : String) : Traced (List Row) := rowsOf (Html.parse text.toList)

end OpcodeTable.Page
