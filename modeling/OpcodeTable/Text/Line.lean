/-!
# Text/Line — the lines of a text, and lines joined into a text
-/

namespace OpcodeTable.Text

/-- The lines with `c` put in front of the first one. -/
def consLine (c : Char) : List (List Char) → List (List Char)
  | [] => [[c]]
  | line :: lines => (c :: line) :: lines

@[simp] theorem consLine_nil (c : Char) : consLine c [] = [[c]] := rfl

@[simp] theorem consLine_cons (c : Char) (line : List Char) (lines : List (List Char)) :
    consLine c (line :: lines) = (c :: line) :: lines := rfl

/-- **The lines of a text**: a line ends at a line feed, and a carriage return right before that
line feed belongs to the line end.  Any other carriage return is part of its line, and a line end
that closes the text starts no further line. -/
def lines : List Char → List (List Char)
  | [] => []
  | '\n' :: rest => [] :: lines rest
  | '\r' :: '\n' :: rest => [] :: lines rest
  | c :: rest => consLine c (lines rest)

@[simp] theorem lines_nil : lines [] = [] := rfl

@[simp] theorem lines_lineFeed (rest : List Char) : lines ('\n' :: rest) = [] :: lines rest := by
  simp [lines]

/-- **The joined lines**, a line feed between neighbours and none after the last. -/
def joinLines (ls : List (List Char)) : List Char := ['\n'].intercalate ls

end OpcodeTable.Text
