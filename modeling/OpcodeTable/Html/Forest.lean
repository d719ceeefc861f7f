/-!
# Html/Forest — a parsed page as a tree

A forest is a list of sibling nodes with everything below them, so that one induction goes down and
along at once.
-/

namespace OpcodeTable.Html

/-- An attribute of a tag. -/
structure Attribute where
  name : String
  value : String
  deriving DecidableEq, Repr

/-- The vocabulary an element's name is taken from. -/
inductive Space where
  | html
  | svg
  | mathML
  deriving DecidableEq, Repr

/-- **An element** without its content. -/
structure Element where
  space : Space
  name : String
  attributes : List Attribute
  deriving DecidableEq, Repr

/-- The value of an attribute. -/
def Element.attribute? (element : Element) (name : String) : Option String :=
  (element.attributes.find? (·.name == name)).map (·.value)

/-- **A forest**: a node with its content, then its later siblings. -/
inductive Forest where
  | nil
  | text (content : String) (next : Forest)
  | comment (content : String) (next : Forest)
  | element (element : Element) (content next : Forest)
  /-- the content of a template, which is no element itself -/
  | fragment (content next : Forest)
  deriving DecidableEq, Repr

end OpcodeTable.Html
