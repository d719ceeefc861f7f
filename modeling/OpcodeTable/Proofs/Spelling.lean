import OpcodeTable.Proofs.Cell

/-!
# Proofs/Spelling — which cells spell an opcode

A cell spells an opcode in one or two hexadecimal digits, with at most one mark right in front of
them.  These are the cells that are read, blanks around them aside, and as the number of their
digits; every other cell is refused (`read_of_spelling`).  Once there are known to be one or two
digits, a conversion that also takes signs and longer numbers gives the same byte and cannot fail
(`ShortHex.byte?_eq`).
-/

namespace OpcodeTable

variable {n : Nat} {digits : List Char}

/-! ## Numbers in one or two digits -/

namespace Text

/-- **A number in one or two hexadecimal digits**, of either case. -/
inductive ShortHex : Nat → List Char → Prop
  | one {low : Fin 16} {digit : Char} (hdigit : IsHex low digit) : ShortHex low [digit]
  | two {high low : Fin 16} {first second : Char} (hfirst : IsHex high first)
      (hsecond : IsHex low second) : ShortHex (16 * high + low) [first, second]

theorem ShortHex.lt (h : ShortHex n digits) : n < 256 := by
  cases h <;> omega

theorem ShortHex.isHex (h : ShortHex n digits) : ∀ c ∈ digits, ∃ value, IsHex value c := by
  cases h with
  | one hdigit => simpa using ⟨_, hdigit⟩
  | two hfirst hsecond => simpa using ⟨⟨_, hfirst⟩, _, hsecond⟩

theorem ShortHex.natural?_eq (h : ShortHex n digits) : natural? 16 digits = some n := by
  cases h with
  | one hdigit => exact natural?_of_isHex_singleton hdigit
  | two hfirst hsecond => exact natural?_of_isHex hfirst hsecond

theorem ShortHex.length_le (h : ShortHex n digits) : digits.length ≤ 2 := by
  cases h <;> simp

/-- One or two digits always make a number. -/
theorem exists_shortHex (hne : digits ≠ []) (hlength : digits.length ≤ 2)
    (hhex : ∀ c ∈ digits, ∃ value, IsHex value c) : ∃ n, ShortHex n digits := by
  match digits, hlength with
  | [], _ => exact absurd rfl hne
  | [c], _ =>
    obtain ⟨low, hlow⟩ := hhex c List.mem_cons_self
    exact ⟨_, .one hlow⟩
  | [c, d], _ =>
    obtain ⟨high, hhigh⟩ := hhex c List.mem_cons_self
    obtain ⟨low, hlow⟩ := hhex d (List.mem_cons_of_mem _ List.mem_cons_self)
    exact ⟨_, .two hhigh hlow⟩

/-- **These are the short texts that are read** as a number. -/
theorem shortHex_iff : ShortHex n digits ↔ digits.length ≤ 2 ∧ natural? 16 digits = some n := by
  refine ⟨fun h => ⟨h.length_le, h.natural?_eq⟩, fun ⟨hlength, hread⟩ => ?_⟩
  have hne : digits ≠ [] := by
    rintro rfl
    cases hread
  obtain ⟨m, h⟩ := exists_shortHex hne hlength (exists_isHex_of_natural? hread)
  obtain rfl := Option.some.inj (h.natural?_eq.symm.trans hread)
  exact h

/-- **The general conversion** gives their number as well. -/
theorem ShortHex.byte?_eq (h : ShortHex n digits) : byte? 16 digits = some n.toUInt8 :=
  byte?_of_natural? h.natural?_eq h.lt

/-- **The test of the digits**: there are some, they take no more than two bytes, and all of them
are hexadecimal. -/
structure AreShortHex (digits : List Char) : Prop where
  ne_nil : digits ≠ []
  size_le_two : (String.ofList digits).utf8ByteSize ≤ 2
  isHex : ∀ c ∈ digits, ∃ value, IsHex value c

theorem utf8Size_of_isHex {value : Fin 16} {c : Char} (h : IsHex value c) : c.utf8Size = 1 := by
  rcases h with rfl | rfl <;> revert value <;> decide

/-- Hexadecimal digits take one byte each. -/
theorem utf8ByteSize_of_isHex : ∀ {digits : List Char}, (∀ c ∈ digits, ∃ value, IsHex value c) →
    (String.ofList digits).utf8ByteSize = digits.length := by
  intro digits
  induction digits with
  | nil => intro _; rfl
  | cons c digits ih =>
    intro h
    obtain ⟨⟨value, hc⟩, hdigits⟩ := List.forall_mem_cons.1 h
    rw [String.ofList_cons, String.utf8ByteSize_append, String.utf8ByteSize_singleton,
      utf8Size_of_isHex hc, ih hdigits, Nat.add_comm, List.length_cons]

/-- **The test passes** one and two hexadecimal digits, and nothing else. -/
theorem areShortHex_iff : AreShortHex digits ↔ ∃ n, ShortHex n digits := by
  constructor
  · rintro ⟨hne, hsize, hhex⟩
    exact exists_shortHex hne (utf8ByteSize_of_isHex hhex ▸ hsize) hhex
  · rintro ⟨n, h⟩
    refine ⟨fun hnil => ?_, ?_, h.isHex⟩
    · rw [hnil] at h
      cases h
    · rw [utf8ByteSize_of_isHex h.isHex]
      exact h.length_le

end Text

/-! ## Spellings -/

namespace Opcode

variable {opcode : UInt8} {cell text : List Char}

/-- **A spelling of an opcode**: its number in one or two digits, right behind one of the marks. -/
def Spells (opcode : UInt8) (cell : List Char) : Prop :=
  ∃ mark ∈ marks, ∃ digits, Text.ShortHex opcode.toNat digits ∧ cell = mark ++ digits

/-- A mark that goes is one of the marks. -/
theorem exists_mark_append (cell : List Char) :
    ∃ mark ∈ marks, cell = mark ++ withoutMark cell := by
  unfold withoutMark
  split
  · exact ⟨['$'], by decide, rfl⟩
  · exact ⟨['0', 'x'], by decide, rfl⟩
  · exact ⟨['0', 'X'], by decide, rfl⟩
  · exact ⟨[], by decide, rfl⟩

/-- **No digit is taken for a mark**: what is left without the mark are the digits. -/
theorem spells_iff : Spells opcode cell ↔ Text.ShortHex opcode.toNat (withoutMark cell) := by
  constructor
  · rintro ⟨mark, hmark, digits, hdigits, rfl⟩
    rwa [withoutMark_append hmark hdigits.isHex]
  · intro h
    obtain ⟨mark, hmark, hcell⟩ := exists_mark_append cell
    exact ⟨mark, hmark, _, h, hcell⟩

theorem byte?_eq_some : byte? text = some opcode ↔ Spells opcode (Text.trim text) := by
  rw [spells_iff, byte?, Option.ite_none_right_eq_some, Option.map_eq_some_iff]
  constructor
  · rintro ⟨hlength, n, hn, rfl⟩
    have h := Text.shortHex_iff.2 ⟨hlength, hn⟩
    rwa [Nat.toUInt8, UInt8.toNat_ofNat_of_lt' h.lt]
  · intro h
    obtain ⟨hlength, hn⟩ := Text.shortHex_iff.1 h
    exact ⟨hlength, _, hn, UInt8.ofNat_toNat⟩

/-- **The opcode of a cell.**  A cell is read exactly if, trimmed, it spells an opcode, and then as
that opcode.  Any other cell fails with a message that quotes it untrimmed.  What is left of the
trimmed cell without its mark either passes the test of the digits, and then the general conversion
gives the byte that is read, or the cell is refused. -/
theorem read_of_spelling (text : String) :
    let cell := Text.trim text.toList
    (∀ opcode, read text = .ok opcode ↔ Spells opcode cell) ∧
    (∀ cause, read text = .error cause ↔
      (∀ opcode, ¬ Spells opcode cell) ∧ cause = .malformedOpcode text) ∧
    (∀ cause, read text = .error cause → cause.kind = .malformedOpcode ∧
      cause.message = "opcode \"" ++ text ++ "\" is not a byte") ∧
    (Text.AreShortHex (withoutMark cell) →
      ∃ opcode, Text.byte? 16 (withoutMark cell) = some opcode ∧ read text = .ok opcode) ∧
    (¬ Text.AreShortHex (withoutMark cell) → read text = .error (.malformedOpcode text)) := by
  intro cell
  have hok : ∀ opcode, read text = .ok opcode ↔ Spells opcode cell := fun opcode =>
    read_eq_ok.trans byte?_eq_some
  have herror : ∀ cause, read text = .error cause ↔
      (∀ opcode, ¬ Spells opcode cell) ∧ cause = .malformedOpcode text := fun cause => by
    rw [read_eq_error, Option.eq_none_iff_forall_ne_some]
    exact and_congr_left' (forall_congr' fun opcode => not_congr byte?_eq_some)
  refine ⟨hok, herror, fun cause hcause => ?_, fun htest => ?_, fun htest => ?_⟩
  · rw [((herror cause).1 hcause).2]
    exact ⟨rfl, rfl⟩
  · obtain ⟨n, hn⟩ := Text.areShortHex_iff.1 htest
    refine ⟨n.toUInt8, hn.byte?_eq, (hok _).2 (spells_iff.2 ?_)⟩
    rwa [Nat.toUInt8, UInt8.toNat_ofNat_of_lt' hn.lt]
  · refine (herror _).2 ⟨fun opcode hspells => htest ?_, rfl⟩
    exact Text.areShortHex_iff.2 ⟨_, spells_iff.1 hspells⟩

/-- Signs, second marks, third digits, blanks inside, digits of other scripts, and marks alone. -/
example : ∀ text ∈ ["$+F", "-1", "$$1", "0x$1", "00F", "$ 1", "F\u0663", "\uff11", "$", "0x"],
    read text = .error (.malformedOpcode text) := by decide

end Opcode

end OpcodeTable
