import OpcodeTable.Html.ReferenceTable
import OpcodeTable.Text.Digit
import Std.Data.HashMap

/-!
# Html/Reference — character references

A reference starts with an ampersand and stands for one or two characters, given by name or by
number.  What does not spell a reference stands for itself.
-/

namespace OpcodeTable.Html.Reference

/-! ## By name -/

/-- The characters at the code points `plus` signs join. -/
def charactersOf (points : String) : String :=
  String.ofList <| (points.splitOn "+").filterMap fun point =>
    (Text.natural? 16 point.toList).map Char.ofNat

/-- **The named references**: a name, with its semicolon if it has one, and its characters. -/
def named : Std.HashMap String String :=
  Std.HashMap.ofList <| (referenceTable.flatMap (·.splitOn " ")).filterMap fun entry =>
    match entry.splitOn "=" with
    | [name, points] => some (name, charactersOf points)
    | _ => none

/-- No name is longer than this. -/
def longestName : Nat := 32

/-- **The longest name** among the first `length` characters of a text, with what it stands for and
the text after it. -/
def longest? (text : List Char) : Nat → Option (List Char × List Char × List Char)
  | 0 => none
  | length + 1 =>
    let name := text.take (length + 1)
    match named[String.ofList name]? with
    | some characters => some (name, characters.toList, text.drop (length + 1))
    | none => longest? text length

/-- The text a named reference makes.  In an attribute, a name without its semicolon is no reference
if a letter, a digit or an equals sign follows it. -/
def resolveName (inAttribute : Bool) (text : List Char) (next : Option Char) : List Char :=
  match longest? text (min longestName text.length) with
  | none => '&' :: text
  | some (name, characters, rest) =>
    let extended := (rest.head? <|> next).any fun c => c == '=' || c.isAlphanum
    if inAttribute && name.getLast? != some ';' && extended then '&' :: text
    else characters ++ rest

/-! ## By number -/

/-- The characters that the numbers 128 to 159 stand for, where they are not the number's own. -/
def windows1252 : List Nat :=
  [0x20AC, 0x81, 0x201A, 0x0192, 0x201E, 0x2026, 0x2020, 0x2021, 0x02C6, 0x2030, 0x0160, 0x2039,
   0x0152, 0x8D, 0x017D, 0x8F, 0x90, 0x2018, 0x2019, 0x201C, 0x201D, 0x2022, 0x2013, 0x2014,
   0x02DC, 0x2122, 0x0161, 0x203A, 0x0153, 0x9D, 0x017E, 0x0178]

/-- The character that stands for what is no character. -/
def replacement : Char := Char.ofNat 0xFFFD

/-- **The character of a number**; a number that names none is replaced. -/
def ofNumber (n : Nat) : Char :=
  if n = 0 ∨ 0xD800 ≤ n ∧ n ≤ 0xDFFF ∨ 0x10FFFF < n then replacement
  else if 0x80 ≤ n ∧ n ≤ 0x9F then Char.ofNat (windows1252.getD (n - 0x80) n)
  else Char.ofNat n

/-! ## Collecting a reference -/

/-- What has been read since the ampersand. -/
inductive Form where
  /-- nothing yet -/
  | start
  /-- letters and digits of a name -/
  | name
  /-- the number sign -/
  | number
  /-- the number sign and decimal digits -/
  | decimal
  /-- the number sign and the letter x -/
  | hexMark
  /-- the same and hexadecimal digits -/
  | hex
  deriving DecidableEq, Repr

/-- The form after one more character, if that character still belongs to the reference. -/
def Form.extend? (form : Form) (c : Char) : Option Form :=
  match form with
  | .start => if c = '#' then some .number else if c.isAlphanum then some .name else none
  | .name => if c.isAlphanum then some .name else none
  | .number =>
    if c.isDigit then some .decimal else if c = 'x' ∨ c = 'X' then some .hexMark else none
  | .decimal => if c.isDigit then some .decimal else none
  | .hexMark | .hex => if (Text.digitValue? 16 c).isSome then some .hex else none

/-- Whether a reference of this form gives a number. -/
def Form.isNumber : Form → Bool
  | .decimal | .hex => true
  | .start | .name | .number | .hexMark => false

/-- Whether a semicolon closes a reference of this form. -/
def Form.closable (form : Form) : Bool := form == .name || form.isNumber

/-- **The text a finished reference makes**, from what stands after its ampersand and the character
that follows; a semicolon after a number is part of the reference. -/
def resolve (inAttribute : Bool) (form : Form) (text : List Char) (next : Option Char) :
    List Char :=
  let digits := text.filter (· != ';')
  match form with
  | .decimal => [ofNumber ((Text.natural? 10 (digits.drop 1)).getD 0)]
  | .hex => [ofNumber ((Text.natural? 16 (digits.drop 2)).getD 0)]
  | .name => resolveName inAttribute text next
  | .start | .number | .hexMark => '&' :: text

end OpcodeTable.Html.Reference
