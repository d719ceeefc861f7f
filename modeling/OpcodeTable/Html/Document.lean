import OpcodeTable.Html.Forest

/-!
# Html/Document — a page as the list of its elements

The elements of a page count in the order in which they were opened, wherever they came to stand: a
heading that belongs in no table is put in front of the table it was written in, and still counts
after the elements written before it.
-/

namespace OpcodeTable.Html

/-- **An element of a page**, with where it stands and what it holds. -/
structure Placed where
  element : Element
  /-- the elements around it, innermost first; nothing is around what a template holds -/
  around : List Element
  content : Forest
  deriving Repr

/-- Whether an element stands below one of this name. -/
def Placed.isBelow (name : String) (placed : Placed) : Bool := placed.around.any (·.name == name)

/-- **A page**: its elements in the order in which they were opened. -/
structure Document where
  elements : List Placed
  deriving Repr

/-- The elements of this name. -/
def Document.named (name : String) (page : Document) : List Placed :=
  page.elements.filter (·.element.name == name)

end OpcodeTable.Html
