import OpcodeTable.Html.Forest

/-!
# Html/Select — what a forest holds, in the order of the tree
-/

namespace OpcodeTable.Html.Forest

/-- **The contents of all elements with one of the names**, at any depth; an element comes before
those it holds. -/
def named (names : List String) : Forest → List Forest
  | nil => []
  | text _ next | comment _ next => next.named names
  | fragment content next => content.named names ++ next.named names
  | element e content next =>
    let below := content.named names ++ next.named names
    if names.contains e.name then content :: below else below

/-- **The text of a forest**: all its texts, without comments. -/
def textContent : Forest → List Char
  | nil => []
  | text content next => content.toList ++ next.textContent
  | comment _ next => next.textContent
  | fragment content next | element _ content next =>
    content.textContent ++ next.textContent

end OpcodeTable.Html.Forest
