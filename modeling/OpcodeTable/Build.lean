import OpcodeTable.InstructionSet
import OpcodeTable.Listing
import OpcodeTable.Page

/-!
# Build — from the two references to the instruction set
-/

namespace OpcodeTable

/-- The rows of a reference, by the layout that its source has. -/
def Source.rows (source : Source) (text : String) : Traced (List Row) :=
  match source with
  | .official => Page.rows text
  | .unofficial => Listing.rows text

/-- The rows of a reference that is fetched first. -/
def Source.load (source : Source) (fetch : Source → Traced String) : Traced (List Row) := do
  let text ← fetch source
  let rows ← source.rows text
  Traced.notify (.rows source rows.length)
  return rows

/-- **The instruction set of both references**: the official one is fetched and read in full before
the other, and then all rows are merged. -/
def InstructionSet.build (fetch : Source → Traced String) : Traced InstructionSet := do
  let official ← Source.official.load fetch
  let unofficial ← Source.unofficial.load fetch
  let set ← InstructionSet.ofRows (official ++ unofficial)
  Traced.notify (.totals set.records.length set.dispatch.length)
  return set

end OpcodeTable
