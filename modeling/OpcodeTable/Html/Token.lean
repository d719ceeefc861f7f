import OpcodeTable.Html.Forest

/-!
# Html/Token — what the markup of a page is made of
-/

namespace OpcodeTable.Html

/-- **A tag**, opening or closing, with its name in lower case and each attribute once. -/
structure Tag where
  name : String
  attributes : List Attribute := []
  selfClosing : Bool := false
  deriving DecidableEq, Repr

/-- The value of an attribute of a tag. -/
def Tag.attribute? (tag : Tag) (name : String) : Option String :=
  (tag.attributes.find? (·.name == name)).map (·.value)

/-- A document type declaration. -/
structure Doctype where
  name : Option String := none
  publicId : Option String := none
  systemId : Option String := none
  /-- the declaration is broken off or malformed -/
  broken : Bool := false
  deriving DecidableEq, Repr

/-- **A token** of a page; text comes one character at a time. -/
inductive Token where
  | char (c : Char)
  | startTag (tag : Tag)
  | endTag (tag : Tag)
  | comment (text : String)
  | doctype (doctype : Doctype)
  /-- an error in the markup: it makes nothing, but what comes after it does not come right after
  the token before it -/
  | flaw
  | endOfFile
  deriving DecidableEq, Repr

/-- A character that separates attributes: a tab, a line feed, a form feed, a carriage return or a
space. -/
def isSpace (c : Char) : Bool := c == ' ' || c == '\t' || c == '\n' || c == '\r' || c == '\x0c'

end OpcodeTable.Html
