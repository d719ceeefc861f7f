/-!
# Text/Digit — decimal digits of every script, and numbers in ASCII digits

A run of decimal digits may belong to any script; only ASCII digits carry a value here.
-/

namespace OpcodeTable.Text

/-! ## Digits of every script

Every script encodes its ten digits next to each other, zero first, so the property Decimal_Number
is the table of the zeros. -/

/-- The code points of all the digits zero. -/
def zeroDigits : List Nat :=
  [0x0030, 0x0660, 0x06F0, 0x07C0, 0x0966, 0x09E6, 0x0A66, 0x0AE6, 0x0B66, 0x0BE6, 0x0C66, 0x0CE6,
   0x0D66, 0x0DE6, 0x0E50, 0x0ED0, 0x0F20, 0x1040, 0x1090, 0x17E0, 0x1810, 0x1946, 0x19D0, 0x1A80,
   0x1A90, 0x1B50, 0x1BB0, 0x1C40, 0x1C50, 0xA620, 0xA8D0, 0xA900, 0xA9D0, 0xA9F0, 0xAA50, 0xABF0,
   0xFF10, 0x104A0, 0x10D30, 0x10D40, 0x11066, 0x110F0, 0x11136, 0x111D0, 0x112F0, 0x11450,
   0x114D0, 0x11650, 0x116C0, 0x116D0, 0x116DA, 0x11730, 0x118E0, 0x11950, 0x11BF0, 0x11C50,
   0x11D50, 0x11DA0, 0x11F50, 0x16130, 0x16A60, 0x16AC0, 0x16B50, 0x16D70, 0x1CCF0, 0x1D7CE,
   0x1D7D8, 0x1D7E2, 0x1D7EC, 0x1D7F6, 0x1E140, 0x1E2F0, 0x1E4F0, 0x1E5F1, 0x1E950, 0x1FBF0]

/-- **A decimal digit** of any script. -/
def isDecimalDigit (c : Char) : Bool :=
  zeroDigits.any fun z => z ≤ c.toNat && c.toNat < z + 10

/-! ## Values -/

/-- The value of an ASCII digit in a radix up to thirty-six, letters of either case counting on
from ten. -/
def digitValue? (radix : Nat) (c : Char) : Option Nat :=
  let n := c.toNat
  let value :=
    if 0x30 ≤ n ∧ n ≤ 0x39 then n - 0x30
    else if 0x41 ≤ n ∧ n ≤ 0x5A then n - 0x41 + 10
    else if 0x61 ≤ n ∧ n ≤ 0x7A then n - 0x61 + 10
    else radix
  if value < radix then some value else none

/-- The value of a run of digits read after others that were worth `above`. -/
def digitsValue? (radix : Nat) (above : Nat) : List Char → Option Nat
  | [] => some above
  | c :: rest => (digitValue? radix c).bind fun d => digitsValue? radix (above * radix + d) rest

/-- **A number written in digits only**: at least one digit, any number of leading zeros. -/
def natural? (radix : Nat) (cs : List Char) : Option Nat :=
  if cs.isEmpty then none else digitsValue? radix 0 cs

/-- **An unsigned byte**: digits, after an optional plus sign, worth at most 255. -/
def byte? (radix : Nat) (cs : List Char) : Option UInt8 :=
  let digits := match cs with
    | '+' :: rest => rest
    | _ => cs
  (natural? radix digits).bind fun n => if n < 256 then some n.toUInt8 else none

/-- One hexadecimal digit, in upper case. -/
def hexDigit (n : Nat) : Char :=
  Char.ofNat (if n < 10 then 0x30 + n else 0x41 + (n - 10))

/-- **A byte in two hexadecimal digits**, in upper case. -/
def hexByte (b : UInt8) : List Char := [hexDigit (b.toNat / 16), hexDigit (b.toNat % 16)]

end OpcodeTable.Text
