/-!
# Text/Style — coloured text for a terminal
-/

namespace OpcodeTable.Text

/-- The bright colours a terminal is asked for. -/
inductive Colour where
  | red
  | yellow
  | blue
  deriving DecidableEq, Repr

namespace Colour

/-- The terminal's number for the colour. -/
def code : Colour → String
  | red => "91"
  | yellow => "93"
  | blue => "94"

/-- **Painted text**: the colour is switched on before it and off after it. -/
def paint (colour : Colour) (text : String) : String :=
  "\x1b[" ++ colour.code ++ "m" ++ text ++ "\x1b[0m"

end Colour

end OpcodeTable.Text
