/-!
# Text/Blank — blank characters, and text without its blanks

Blank means the White_Space property, so no-break and ideographic spaces count while the zero-width
space and the byte order mark do not.  Text is read as a list of characters throughout.
-/

namespace OpcodeTable.Text

/-- **A blank character**: one of the twenty-five with the White_Space property. -/
def isBlank (c : Char) : Bool :=
  let n := c.toNat
  (0x09 ≤ n && n ≤ 0x0D) || n == 0x20 || n == 0x85 || n == 0xA0 || n == 0x1680
    || (0x2000 ≤ n && n ≤ 0x200A) || n == 0x2028 || n == 0x2029 || n == 0x202F || n == 0x205F
    || n == 0x3000

/-! ## Margins -/

/-- The text without the longest run of `p` characters at its end. -/
def trimEndWhile (p : Char → Bool) (cs : List Char) : List Char :=
  (cs.reverse.dropWhile p).reverse

/-- **The trimmed text**: the blanks at both ends go, those inside stay. -/
def trim (cs : List Char) : List Char := trimEndWhile isBlank (cs.dropWhile isBlank)

/-- Whether the text holds nothing but blanks. -/
def isAllBlank (cs : List Char) : Bool := cs.all isBlank

/-- The text with every blank deleted, inside as well as at the ends. -/
def squeeze (cs : List Char) : List Char := cs.filter (!isBlank ·)

/-! ## Words -/

/-- **The words of a text**: its maximal runs of characters that are not blank. -/
def words (cs : List Char) : List (List Char) := (cs.splitOnP isBlank).filter (!·.isEmpty)

/-- The words of a text with one space between neighbours. -/
def unwrap (cs : List Char) : List Char := [' '].intercalate (words cs)

end OpcodeTable.Text
