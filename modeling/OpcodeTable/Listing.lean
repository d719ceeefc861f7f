import OpcodeTable.Text.Line
import OpcodeTable.Text.Substitute
import OpcodeTable.Traced

/-!
# Listing — the tables of the undocumented opcodes

The listing is plain text: underlined headings name the instructions, and tables with five columns
follow below their column headers.  Nothing ties a table to its heading but their order, so the
headings of the whole text are collected first and each table takes the next name as it starts.
-/

namespace OpcodeTable.Listing

/-! ## Kinds of lines -/

/-- **A heading's underline**: three or more equals signs and nothing else but blanks after them. -/
def isUnderline (line : List Char) : Bool :=
  3 ≤ (line.takeWhile (· == '=')).length && Text.isAllBlank (line.dropWhile (· == '='))

/-- A character of an instruction's name. -/
def isNameChar (c : Char) : Bool := c.isUpper || c.isDigit

/-- **The name a heading starts with**: three capital letters or digits that no further ASCII letter
or digit extends. -/
def headingName? : List Char → Option String
  | a :: b :: c :: rest =>
    if isNameChar a && isNameChar b && isNameChar c && !rest.head?.any Char.isAlphanum then
      some (String.ofList [a, b, c])
    else none
  | _ => none

/-- **The names of all underlined headings**, in order. -/
def names : List (List Char) → List String
  | first :: second :: rest =>
    let later := names (second :: rest)
    if isUnderline second then (headingName? first).toList ++ later else later
  | _ => []

/-- **A rule** below column headers: dashes, bars and blanks, with at least one dash. -/
def isRule (line : List Char) : Bool :=
  line.all (fun c => c == '-' || c == '|' || Text.isBlank c) && line.contains '-'

/-- **A header line**, which ends the table above it. -/
def isHeader (line : List Char) : Bool := Text.occurs "Addressing".toList line || isRule line

/-- **The cells of a line**, trimmed; bars stand between them. -/
def cells (line : List Char) : List (List Char) := (line.splitOnP (· == '|')).map Text.trim

/-! ## Rows -/

/-- Where a line stands, in words. -/
def origin (number : Nat) : String := s!"unofficial reference line {number}"

/-- **The row of a line** with five cells, in the table of the named instruction; the second cell is
a sample of assembly and is not kept. -/
def row? (name : String) (number : Nat) (line : List Char) : Option Row :=
  match cells line with
  | [label, _, opcode, size, cycles] => some {
      source := .unofficial
      mnemonic := String.ofList [star] ++ name
      opcode := String.ofList opcode
      label := String.ofList label
      size := String.ofList size
      cycles := String.ofList cycles
      origin := origin number }
  | _ => none

/-- **A data line**: not a header, and of five cells. -/
def isData (line : List Char) : Bool := !isHeader line && (cells line).length == 5

/-- The rows of the lines from `number` on.  `spare` are the headings no table has taken, `table` is
the name of the table that is open, and `tables` have started so far. -/
def rowsFrom (number : Nat) (spare : List String) (table : Option String) (tables : Nat) :
    List (List Char) → Traced (List Row)
  | [] => do
    unless spare.isEmpty do
      Traced.notify (.spareHeadings spare)
    Traced.notify (.tables tables)
    return []
  | line :: rest =>
    if isHeader line then rowsFrom (number + 1) spare none tables rest
    else if !isData line then rowsFrom (number + 1) spare table tables rest
    else
      match table, spare with
      | some name, _ => do
        let rows ← rowsFrom (number + 1) spare table tables rest
        return (row? name number line).toList ++ rows
      | none, name :: spare => do
        Traced.notify (.tableNamed number name)
        let rows ← rowsFrom (number + 1) spare (some name) (tables + 1) rest
        return (row? name number line).toList ++ rows
      | none, [] => Traced.fail (.headingsExhausted (tables + 1)) (origin number)

/-- **The rows of a listing**, or the fault of the first table that no heading is left for. -/
def rows (text : String) : Traced (List Row) :=
  let lines := Text.lines text.toList
  rowsFrom 1 (names lines) none 0 lines

end OpcodeTable.Listing
