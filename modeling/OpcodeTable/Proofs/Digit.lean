import OpcodeTable.Text.Digit

/-!
# Proofs/Digit — numbers in decimal digits, and bytes in hexadecimal ones

What is read as a byte is a decimal number below 256 (`byte?_eq_some`).  A number is read as it is
written (`natural?_toString`), so two numbers are never written alike.
-/

namespace OpcodeTable.Text

/-! ## Decimal digits -/

theorem digitValue?_of_isDigit {c : Char} (h : c.isDigit = true) :
    digitValue? 10 c = some (c.toNat - '0'.toNat) := by
  have hbounds : 0x30 ≤ c.toNat ∧ c.toNat ≤ 0x39 := by
    rw [Char.isDigit, Bool.and_eq_true, decide_eq_true_iff, decide_eq_true_iff] at h
    exact h
  have hvalue : c.toNat - 0x30 < 10 := by omega
  simp only [digitValue?, if_pos hbounds]
  exact if_pos hvalue

theorem digitsValue?_of_isDigit : ∀ {cs : List Char}, (∀ c ∈ cs, c.isDigit = true) →
    ∀ above, digitsValue? 10 above cs = some (Nat.ofDigitChars 10 cs above) := by
  intro cs
  induction cs with
  | nil => intro _ above; rfl
  | cons c cs ih =>
    intro h above
    obtain ⟨hc, hcs⟩ := List.forall_mem_cons.1 h
    rw [digitsValue?, digitValue?_of_isDigit hc, Option.bind_some, ih hcs, Nat.mul_comm above]
    rfl

theorem digitValue?_of_not_isDigit {c : Char} (h : c.isDigit = false) :
    digitValue? 10 c = none := by
  have hbounds : ¬ (0x30 ≤ c.toNat ∧ c.toNat ≤ 0x39) := by
    rintro ⟨hlow, hhigh⟩
    rw [Char.isDigit, Bool.and_eq_false_iff, decide_eq_false_iff_not,
      decide_eq_false_iff_not] at h
    exact h.elim (fun hnot => hnot hlow) fun hnot => hnot hhigh
  simp only [digitValue?, if_neg hbounds]
  refine if_neg ?_
  split
  · omega
  · split <;> omega

/-- **A digit of another script has no value here**, wherever it stands in the run. -/
theorem digitsValue?_of_not_isDigit : ∀ {cs : List Char}, (∃ c ∈ cs, c.isDigit = false) →
    ∀ above, digitsValue? 10 above cs = none := by
  intro cs
  induction cs with
  | nil => simp
  | cons c cs ih =>
    intro h above
    rw [digitsValue?]
    by_cases hc : c.isDigit = true
    · obtain ⟨d, hd, hnot⟩ := h
      rcases List.mem_cons.1 hd with rfl | hd
      · rw [hc] at hnot
        cases hnot
      · rw [digitValue?_of_isDigit hc, Option.bind_some, ih ⟨d, hd, hnot⟩]
    · rw [digitValue?_of_not_isDigit (Bool.not_eq_true _ ▸ hc), Option.bind_none]

/-- **A number is read** from ASCII digits, at least one, and it is what they are worth. -/
theorem natural?_eq_some {cs : List Char} {n : Nat} : natural? 10 cs = some n ↔
    cs ≠ [] ∧ (∀ c ∈ cs, c.isDigit = true) ∧ Nat.ofDigitChars 10 cs 0 = n := by
  rw [natural?]
  by_cases hempty : cs = []
  · simp [hempty]
  rw [if_neg (by simpa using hempty), and_iff_right hempty]
  by_cases hdigits : ∀ c ∈ cs, c.isDigit = true
  · rw [digitsValue?_of_isDigit hdigits, Option.some.injEq, and_iff_right hdigits]
  · have hother : ∃ c ∈ cs, c.isDigit = false := by simpa using hdigits
    rw [digitsValue?_of_not_isDigit hother]
    exact iff_of_false (Option.some_ne_none n).symm fun h => hdigits h.1

/-- **A decimal number**: ASCII digits, at least one, perhaps with a plus sign in front. -/
def Decimal (text : List Char) (value : Nat) : Prop :=
  ∃ digits, (text = digits ∨ text = '+' :: digits) ∧ digits ≠ [] ∧
    (∀ c ∈ digits, c.isDigit = true) ∧ Nat.ofDigitChars 10 digits 0 = value

theorem toList_toString (n : Nat) : (toString n).toList = Nat.toDigits 10 n := Nat.toList_repr

/-- A number is written in ASCII digits. -/
theorem isDigit_of_mem_toString {n : Nat} {c : Char} (h : c ∈ (toString n).toList) :
    c.isDigit = true :=
  Nat.isDigit_of_mem_toDigits (by decide) (by decide) (toList_toString n ▸ h)

/-- No other character stands in it. -/
theorem notMem_toString {c : Char} (hc : c.isDigit = false) (n : Nat) : c ∉ (toString n).toList :=
  fun hmem => Bool.false_ne_true (hc.symm.trans (isDigit_of_mem_toString hmem))

/-- A number has at least one digit. -/
theorem toList_toString_ne_nil (n : Nat) : (toString n).toList ≠ [] := by
  rw [toList_toString]
  exact List.ne_nil_of_length_pos Nat.length_toDigits_pos

/-- **A number is read as it is written** in decimal digits. -/
theorem natural?_toString (n : Nat) : natural? 10 (toString n).toList = some n := by
  refine natural?_eq_some.2 ⟨toList_toString_ne_nil n, fun c => isDigit_of_mem_toString, ?_⟩
  rw [toList_toString, Nat.ofDigitChars_toDigits (by decide) (by decide)]

/-- A plus sign is no digit, so digits on their own are read as a byte if they are worth one. -/
theorem byte?_of_natural? {radix n : Nat} {cs : List Char} (h : natural? radix cs = some n)
    (hn : n < 256) : byte? radix cs = some n.toUInt8 := by
  have hplus : ∀ rest, cs ≠ '+' :: rest := by
    rintro rest rfl
    simp [natural?, digitsValue?, digitValue?] at h
  rw [byte?, h, Option.bind_some, if_pos hn]
  exact hplus

/-- A byte is read from the digits behind its sign, if it has one. -/
theorem exists_byte?_eq (radix : Nat) (cs : List Char) :
    ∃ digits, (cs = digits ∨ cs = '+' :: digits) ∧ byte? radix cs
      = (natural? radix digits).bind fun n => if n < 256 then some n.toUInt8 else none := by
  unfold byte?
  split
  · exact ⟨_, .inr rfl, rfl⟩
  · exact ⟨_, .inl rfl, rfl⟩

/-- **A byte is read** from a decimal number below 256. -/
theorem byte?_eq_some {cs : List Char} {byte : UInt8} :
    byte? 10 cs = some byte ↔ Decimal cs byte.toNat := by
  constructor
  · intro h
    obtain ⟨digits, hcs, hbyte⟩ := exists_byte?_eq 10 cs
    rw [hbyte, Option.bind_eq_some_iff] at h
    obtain ⟨n, hn, hvalue⟩ := h
    obtain ⟨hne, hdigits, rfl⟩ := natural?_eq_some.1 hn
    refine ⟨digits, hcs, hne, hdigits, ?_⟩
    by_cases hsmall : Nat.ofDigitChars 10 digits 0 < 256
    · rw [if_pos hsmall] at hvalue
      rw [← Option.some.inj hvalue, Nat.toUInt8, UInt8.toNat_ofNat_of_lt' hsmall]
    · rw [if_neg hsmall] at hvalue
      cases hvalue
  · rintro ⟨digits, hcs, hne, hdigits, hvalue⟩
    have hn := natural?_eq_some.2 ⟨hne, hdigits, hvalue⟩
    have hbyte : byte.toNat.toUInt8 = byte := UInt8.ofNat_toNat
    rcases hcs with rfl | rfl
    · rw [byte?_of_natural? hn byte.toNat_lt, hbyte]
    · rw [byte?, hn, Option.bind_some, if_pos byte.toNat_lt, hbyte]

theorem toString_injective {m n : Nat} (h : toString m = toString n) : m = n := by
  have hm := natural?_toString m
  rw [h, natural?_toString] at hm
  exact (Option.some.inj hm).symm

/-! ## Hexadecimal digits -/

/-- A hexadecimal digit in upper case, by its value. -/
def upperHex (value : Fin 16) : Char :=
  ['0', '1', '2', '3', '4', '5', '6', '7', '8', '9', 'A', 'B', 'C', 'D', 'E', 'F'].get value

theorem hexDigit_eq_upperHex : ∀ value : Fin 16, hexDigit value = upperHex value := by decide

/-- A hexadecimal digit in lower case, by its value. -/
def lowerHex (value : Fin 16) : Char :=
  ['0', '1', '2', '3', '4', '5', '6', '7', '8', '9', 'a', 'b', 'c', 'd', 'e', 'f'].get value

theorem lowerHex_eq_ofNat : ∀ value : Fin 16, 10 ≤ value.val →
    lowerHex value = Char.ofNat (0x61 + (value.val - 10)) := by decide

/-- **A hexadecimal digit** of the value, in either case. -/
def IsHex (value : Fin 16) (c : Char) : Prop := c = upperHex value ∨ c = lowerHex value

theorem digitValue?_of_isHex {value : Fin 16} {c : Char} (h : IsHex value c) :
    digitValue? 16 c = some value.val := by
  rcases h with rfl | rfl <;> revert value <;> decide

theorem IsHex.ne {value : Fin 16} {c other : Char} (h : IsHex value c)
    (hother : digitValue? 16 other = none) : c ≠ other := by
  rintro rfl
  rw [digitValue?_of_isHex h] at hother
  cases hother

/-- **No other character has a value** in radix sixteen. -/
theorem exists_isHex_of_digitValue? {c : Char} {n : Nat} (h : digitValue? 16 c = some n) :
    ∃ value, IsHex value c := by
  simp only [digitValue?, Option.ite_none_right_eq_some, Option.some.injEq] at h
  obtain ⟨hsmall, hn⟩ := h
  obtain ⟨value, rfl⟩ : ∃ value : Fin 16, n = value := ⟨⟨n, hn ▸ hsmall⟩, rfl⟩
  have hchar : ∀ {m}, c.toNat = m → c = Char.ofNat m := fun hm => by rw [← hm, Char.ofNat_toNat]
  refine ⟨value, ?_⟩
  rw [IsHex, ← hexDigit_eq_upperHex, hexDigit]
  split at hn
  · rw [if_pos (by omega)]
    exact .inl (hchar (by omega))
  split at hn
  · rw [if_neg (by omega)]
    exact .inl (hchar (by omega))
  split at hn
  · rw [lowerHex_eq_ofNat value (by omega)]
    exact .inr (hchar (by omega))
  · omega

theorem exists_isHex_of_digitsValue? : ∀ {cs : List Char} {above n : Nat},
    digitsValue? 16 above cs = some n → ∀ c ∈ cs, ∃ value, IsHex value c := by
  intro cs
  induction cs with
  | nil => exact fun _ c hc => absurd hc List.not_mem_nil
  | cons d cs ih =>
    intro above n h
    obtain ⟨m, hm, hrest⟩ := Option.bind_eq_some_iff.1 h
    exact List.forall_mem_cons.2 ⟨exists_isHex_of_digitValue? hm, ih hrest⟩

/-- **A number in radix sixteen** is read from hexadecimal digits only. -/
theorem exists_isHex_of_natural? {cs : List Char} {n : Nat} (h : natural? 16 cs = some n) :
    ∀ c ∈ cs, ∃ value, IsHex value c := by
  rw [natural?, Option.ite_none_left_eq_some] at h
  exact exists_isHex_of_digitsValue? h.2

/-- One hexadecimal digit is read as its value. -/
theorem natural?_of_isHex_singleton {value : Fin 16} {c : Char} (h : IsHex value c) :
    natural? 16 [c] = some value.val := by
  rw [natural?, if_neg (by simp), digitsValue?, digitValue?_of_isHex h, Option.bind_some,
    digitsValue?, Nat.zero_mul, Nat.zero_add]

/-- **Two hexadecimal digits are read** as the number they are written for. -/
theorem natural?_of_isHex {high low : Fin 16} {first second : Char} (hfirst : IsHex high first)
    (hsecond : IsHex low second) :
    natural? 16 [first, second] = some (16 * high.val + low.val) := by
  rw [natural?, if_neg (by simp), digitsValue?, digitValue?_of_isHex hfirst, Option.bind_some,
    digitsValue?, digitValue?_of_isHex hsecond, Option.bind_some, digitsValue?, Nat.zero_mul,
    Nat.zero_add, Nat.mul_comm]

/-- **A byte is written in its two hexadecimal digits**, the high one first. -/
theorem exists_hexByte_eq (b : UInt8) : ∃ high low : Fin 16,
    b.toNat = 16 * high + low ∧ hexByte b = [upperHex high, upperHex low] := by
  have hb : b.toNat < 256 := b.toNat_lt
  refine ⟨⟨b.toNat / 16, by omega⟩, ⟨b.toNat % 16, by omega⟩, (Nat.div_add_mod _ _).symm, ?_⟩
  rw [hexByte, ← hexDigit_eq_upperHex, ← hexDigit_eq_upperHex]

/-- **A byte is read as it is written** in hexadecimal digits. -/
theorem natural?_hexByte (b : UInt8) : natural? 16 (hexByte b) = some b.toNat := by
  obtain ⟨high, low, hvalue, hdigits⟩ := exists_hexByte_eq b
  rw [hdigits, natural?_of_isHex (.inl rfl) (.inl rfl), hvalue]

theorem hexByte_injective : Function.Injective hexByte := by
  intro b b' h
  have hvalue := natural?_hexByte b
  rw [h, natural?_hexByte] at hvalue
  exact UInt8.toNat_inj.1 (Option.some.inj hvalue.symm)

end OpcodeTable.Text
