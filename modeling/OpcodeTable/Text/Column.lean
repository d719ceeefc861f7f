/-!
# Text/Column — fields padded to the width of a column

Width counts characters; a field wider than its column is written in full.
-/

namespace OpcodeTable.Text

/-- **A field at the left** of its column. -/
def padRight (width : Nat) (field : List Char) : List Char :=
  field ++ List.replicate (width - field.length) ' '

/-- **A field at the right** of its column. -/
def padLeft (width : Nat) (field : List Char) : List Char :=
  List.replicate (width - field.length) ' ' ++ field

theorem length_padRight (width : Nat) (field : List Char) :
    (padRight width field).length = max width field.length := by
  simp only [padRight, List.length_append, List.length_replicate]; omega

end OpcodeTable.Text
