import Mathlib.Data.List.Find
import OpcodeTable.Proofs.Digit
import OpcodeTable.Proofs.Mnemonic
import OpcodeTable.Template

/-!
# Proofs/Template — a template is filled in as if in one pass

Filling in goes over the text once for each key and sees what earlier keys put there, so a value
could bring a placeholder with it, or make one with the braces around it.  A value without braces
can do neither on its own, and one with a character that no key has cannot stand inside a
placeholder.  So the passes come to the same as one pass over the template that reads no value
(`toList_fill`), and the table of a set is its templates instantiated (`render_eq_instantiate`).
-/

namespace OpcodeTable

namespace Templates

open Text (substitute)

/-! ## One pass over a template -/

/-- The brace a placeholder opens with. -/
def openBrace : Char := '\x7b'

/-- The brace a placeholder ends with. -/
def closeBrace : Char := '\x7d'

theorem placeholder_eq (key : String) :
    placeholder key = openBrace :: (key.toList ++ [closeBrace]) := rfl

theorem placeholder_ne_nil (key : String) : placeholder key ≠ [] := List.cons_ne_nil _ _

/-- The first pair whose placeholder a text starts with. -/
def opening? (values : List (String × String)) (text : List Char) : Option (String × String) :=
  values.find? fun pair => (placeholder pair.1).isPrefixOf text

/-- **The instantiated template**: one pass from left to right, in which a placeholder of any key
becomes its value, unread, and every other character stays. -/
def instantiate (values : List (String × String)) : List Char → List Char
  | [] => []
  | c :: rest =>
    match opening? values (c :: rest) with
    | some (key, value) => value.toList ++ instantiate values (rest.drop (key.toList.length + 1))
    | none => c :: instantiate values rest
termination_by text => text.length
decreasing_by all_goals simp only [List.length_drop, List.length_cons]; omega

variable {values : List (String × String)} {key value : String} {text rest : List Char} {c : Char}

@[simp] theorem instantiate_nil : instantiate values [] = [] := by rw [instantiate]

theorem instantiate_of_some (h : opening? values (c :: rest) = some (key, value)) :
    instantiate values (c :: rest)
      = value.toList ++ instantiate values (rest.drop (key.toList.length + 1)) := by
  rw [instantiate, h]

theorem instantiate_of_none (h : opening? values (c :: rest) = none) :
    instantiate values (c :: rest) = c :: instantiate values rest := by
  rw [instantiate, h]

/-- Without values every character stays. -/
theorem instantiate_no_values (text : List Char) : instantiate [] text = text := by
  induction text with
  | nil => rw [instantiate_nil]
  | cons c rest ih => rw [instantiate_of_none rfl, ih]

theorem opening?_of_ne (h : c ≠ openBrace) : opening? values (c :: rest) = none := by
  refine List.find?_eq_none.2 fun pair _ hprefix => ?_
  rw [List.isPrefixOf_iff_prefix, placeholder_eq, List.cons_prefix_cons] at hprefix
  exact h hprefix.1.symm

/-- **A text without opening braces** is copied. -/
theorem instantiate_append_of_notMem : ∀ {text : List Char}, openBrace ∉ text → ∀ rest,
    instantiate values (text ++ rest) = text ++ instantiate values rest := by
  intro text
  induction text with
  | nil => intro _ rest; rfl
  | cons c text ih =>
    intro h rest
    obtain ⟨hne, htext⟩ := List.ne_and_not_mem_of_not_mem_cons h
    rw [List.cons_append, instantiate_of_none (opening?_of_ne hne.symm), ih htext,
      List.cons_append]

/-! ## Values that make no placeholder -/

/-- **A plain text**: it has no braces, and some character that no key has, for keys are written in
lower-case letters. -/
structure Plain (text : String) : Prop where
  open_notMem : openBrace ∉ text.toList
  close_notMem : closeBrace ∉ text.toList
  exists_not_lower : ∃ c ∈ text.toList, c.isLower = false

/-- **A key**: lower-case letters. -/
def IsKey (key : String) : Prop := ∀ c ∈ key.toList, c.isLower = true

instance (key : String) : Decidable (IsKey key) :=
  decidable_of_iff (key.toList.all Char.isLower = true) List.all_eq_true

theorem IsKey.open_notMem (h : IsKey key) : openBrace ∉ key.toList :=
  fun hmem => absurd (h _ hmem) (by decide)

theorem IsKey.close_notMem (h : IsKey key) : closeBrace ∉ key.toList :=
  fun hmem => absurd (h _ hmem) (by decide)

/-- A placeholder has no second opening brace. -/
theorem IsKey.open_notMem_append (h : IsKey key) : openBrace ∉ key.toList ++ [closeBrace] := by
  rw [List.mem_append, not_or]
  exact ⟨h.open_notMem, by decide⟩

/-- A plain value does not carry the rest of a placeholder. -/
theorem not_prefix_append_of_plain (hvalue : Plain value) {name : List Char}
    (hname : ∀ c ∈ name, c.isLower = true) (rest : List Char) :
    ¬ name ++ [closeBrace] <+: value.toList ++ rest := by
  intro hprefix
  rcases List.prefix_or_prefix_of_prefix hprefix (List.prefix_append _ _) with hinside | hacross
  · exact hvalue.close_notMem (hinside.subset (by simp))
  · obtain ⟨c, hc, hnot⟩ := hvalue.exists_not_lower
    rcases List.mem_append.1 (hacross.subset hc) with hmem | hmem
    · rw [hname c hmem] at hnot
      cases hnot
    · exact hvalue.close_notMem (List.mem_singleton.1 hmem ▸ hc)

/-- What follows the opening brace of a placeholder starts with no opening brace. -/
theorem not_prefix_placeholder {name : List Char} (hname : ∀ c ∈ name, c.isLower = true)
    (rest : List Char) : ¬ name ++ [closeBrace] <+: placeholder key ++ rest := by
  intro hprefix
  cases name with
  | nil => exact absurd (List.cons_prefix_cons.1 hprefix).1 (by decide)
  | cons first name =>
    have hfirst : first = openBrace := (List.cons_prefix_cons.1 hprefix).1
    exact absurd (hname first List.mem_cons_self) (by rw [hfirst]; decide)

/-- **No placeholder is made and none is lost** behind an opening brace that stays: what follows it
is the rest of a placeholder after the substitution exactly if it was before. -/
theorem prefix_substitute_iff (hvalue : Plain value) :
    ∀ {text name : List Char}, (∀ c ∈ name, c.isLower = true) →
      (name ++ [closeBrace] <+: substitute (placeholder key) value.toList text
        ↔ name ++ [closeBrace] <+: text) := by
  intro text
  induction text with
  | nil => intro name _; rw [Text.substitute_nil]
  | cons c rest ih =>
    intro name hname
    by_cases hprefix : placeholder key <+: c :: rest
    · obtain ⟨later, hlater⟩ := hprefix
      rw [← hlater, Text.substitute_append_self (placeholder_ne_nil key)]
      exact iff_of_false (not_prefix_append_of_plain hvalue hname _)
        (not_prefix_placeholder hname later)
    · rw [Text.substitute_cons_of_not_prefix hprefix]
      cases name with
      | nil => simp only [List.nil_append, List.cons_prefix_cons, List.nil_prefix]
      | cons first name =>
        rw [List.cons_append, List.cons_prefix_cons, List.cons_prefix_cons,
          ih fun c hc => hname c (List.mem_cons_of_mem _ hc)]

/-- **Substituting a plain value opens no placeholder** and closes none. -/
theorem opening?_substitute (hvalue : Plain value) (hkeys : ∀ pair ∈ values, IsKey pair.1) :
    opening? values (c :: substitute (placeholder key) value.toList rest)
      = opening? values (c :: rest) := by
  refine List.find?_congr fun pair hpair => ?_
  rw [Bool.eq_iff_iff, List.isPrefixOf_iff_prefix, List.isPrefixOf_iff_prefix, placeholder_eq,
    List.cons_prefix_cons, List.cons_prefix_cons, prefix_substitute_iff hvalue (hkeys pair hpair)]

theorem exists_eq_append_of_opening? {pair : String × String}
    (h : opening? values (c :: rest) = some pair) :
    pair ∈ values ∧ ∃ later, rest = pair.1.toList ++ [closeBrace] ++ later := by
  refine ⟨List.mem_of_find?_eq_some h, ?_⟩
  have hprefix := List.find?_some h
  rw [List.isPrefixOf_iff_prefix, placeholder_eq, List.cons_prefix_cons] at hprefix
  obtain ⟨later, hlater⟩ := hprefix.2
  exact ⟨later, hlater.symm⟩

/-- The pair in front is found where its own placeholder stands, and the others elsewhere. -/
theorem opening?_cons (values : List (String × String)) (text : List Char) :
    opening? ((key, value) :: values) text
      = if placeholder key <+: text then some (key, value) else opening? values text := by
  rw [opening?, List.find?_cons]
  by_cases h : placeholder key <+: text
  · rw [if_pos h, List.isPrefixOf_iff_prefix.2 h]
  · rw [if_neg h, Bool.eq_false_iff.2 (mt List.isPrefixOf_iff_prefix.1 h)]
    rfl

/-- What stands behind a placeholder. -/
theorem drop_of_placeholder {later : List Char} (h : c :: rest = placeholder key ++ later) :
    rest.drop (key.toList.length + 1) = later := by
  rw [placeholder_eq, List.cons_append] at h
  rw [(List.cons.inj h).2, List.drop_left' (by simp)]

/-- **One pass less**: to put in a plain value first is to put it in along with the others. -/
theorem instantiate_substitute (hvalue : Plain value) (hkeys : ∀ pair ∈ values, IsKey pair.1)
    (text : List Char) : instantiate values (substitute (placeholder key) value.toList text)
      = instantiate ((key, value) :: values) text := by
  fun_induction instantiate ((key, value) :: values) text with
  | case1 => rw [Text.substitute_nil, instantiate_nil]
  | case2 c rest key' value' hopening ih =>
    rw [opening?_cons] at hopening
    by_cases hprefix : placeholder key <+: c :: rest
    · rw [if_pos hprefix] at hopening
      obtain ⟨rfl, rfl⟩ := Prod.mk.inj (Option.some.inj hopening)
      obtain ⟨later, hlater⟩ := hprefix
      rw [drop_of_placeholder hlater.symm] at ih ⊢
      rw [← hlater, Text.substitute_append_self (placeholder_ne_nil key),
        instantiate_append_of_notMem hvalue.open_notMem, ih]
    · rw [if_neg hprefix] at hopening
      obtain ⟨hmem, later, rfl⟩ := exists_eq_append_of_opening? hopening
      have hdrop : ∀ later : List Char,
          (key'.toList ++ [closeBrace] ++ later).drop (key'.toList.length + 1) = later :=
        fun later => List.drop_left' (by simp)
      rw [Text.substitute_cons_of_not_prefix hprefix,
        instantiate_of_some ((opening?_substitute hvalue hkeys).trans hopening), placeholder_eq,
        Text.substitute_append_of_notMem (hkeys _ hmem).open_notMem_append, ← placeholder_eq, hdrop,
        ← ih, hdrop]
  | case3 c rest hopening ih =>
    rw [opening?_cons] at hopening
    by_cases hprefix : placeholder key <+: c :: rest
    · rw [if_pos hprefix] at hopening
      cases hopening
    · rw [if_neg hprefix] at hopening
      rw [Text.substitute_cons_of_not_prefix hprefix,
        instantiate_of_none ((opening?_substitute hvalue hkeys).trans hopening), ih]

/-- One key alone is a substitution, whatever its value. -/
theorem instantiate_singleton (text : List Char) :
    instantiate [(key, value)] text = substitute (placeholder key) value.toList text := by
  fun_induction instantiate [(key, value)] text with
  | case1 => rw [Text.substitute_nil]
  | case2 c rest key' value' hopening ih =>
    rw [opening?_cons] at hopening
    by_cases hprefix : placeholder key <+: c :: rest
    · rw [if_pos hprefix] at hopening
      obtain ⟨rfl, rfl⟩ := Prod.mk.inj (Option.some.inj hopening)
      obtain ⟨later, hlater⟩ := hprefix
      rw [ih, drop_of_placeholder hlater.symm, ← hlater,
        Text.substitute_append_self (placeholder_ne_nil key)]
    · rw [if_neg hprefix] at hopening
      cases hopening
  | case3 c rest hopening ih =>
    have hprefix : ¬ placeholder key <+: c :: rest := fun hprefix => by
      rw [opening?_cons, if_pos hprefix] at hopening
      cases hopening
    rw [Text.substitute_cons_of_not_prefix hprefix, ih]

/-- **Filling in is one pass** if all values but the last are plain: behind the last there is no
further pass. -/
theorem toList_fill (template : String) (hkeys : ∀ pair ∈ values, IsKey pair.1)
    (hvalues : ∀ pair ∈ values.dropLast, Plain pair.2) :
    (fill template values).toList = instantiate values template.toList := by
  rw [fill, String.toList_ofList]
  generalize template.toList = text
  induction values generalizing text with
  | nil => exact (instantiate_no_values text).symm
  | cons pair values ih =>
    obtain ⟨key, value⟩ := pair
    rw [List.foldl_cons]
    cases values with
    | nil => exact (instantiate_singleton text).symm
    | cons next values =>
      obtain ⟨hvalue, hvalues⟩ := List.forall_mem_cons.1 hvalues
      have hkeys' := (List.forall_mem_cons.1 hkeys).2
      rw [ih hkeys' hvalues, instantiate_substitute hvalue hkeys']

/-! ## Plain values -/

instance (text : String) : Decidable (Plain text) :=
  decidable_of_iff (openBrace ∉ text.toList ∧ closeBrace ∉ text.toList ∧
      (text.toList.any fun c => !c.isLower) = true) (by
    simp only [List.any_eq_true, Bool.not_eq_true']
    exact ⟨fun h => ⟨h.1, h.2.1, h.2.2⟩, fun h => ⟨h.1, h.2, h.3⟩⟩)

theorem isLower_of_nameChar (h : Listing.NameChar c) : c.isLower = false := by
  refine Bool.eq_false_iff.2 fun hlower => ?_
  have hc := (Listing.isLower_eq_true.1 hlower).1
  rcases h with ⟨-, hle⟩ | ⟨-, hle⟩
  · exact absurd (Char.le_trans hc hle) (by decide)
  · exact absurd (Char.le_trans hc hle) (by decide)

/-- A text of capital letters and digits is plain. -/
theorem plain_of_nameChars {text : String} (hne : text.toList ≠ [])
    (h : ∀ c ∈ text.toList, Listing.NameChar c) : Plain text := by
  obtain ⟨c, rest, hc⟩ := List.exists_cons_of_ne_nil hne
  have hmem : c ∈ text.toList := hc ▸ List.mem_cons_self
  exact ⟨fun hopen => by simpa [Listing.NameChar, openBrace] using h _ hopen,
    fun hclose => by simpa [Listing.NameChar, closeBrace] using h _ hclose,
    c, hmem, isLower_of_nameChar (h c hmem)⟩

/-- Stars in front of a plain text change nothing. -/
theorem Plain.of_canonical {mnemonic : String} (h : Plain (canonical mnemonic)) :
    Plain mnemonic := by
  have hbrace : ∀ brace, brace ≠ star → brace ∉ (canonical mnemonic).toList →
      brace ∉ mnemonic.toList := by
    intro brace hne hnot
    rw [← stars_append_canonical, List.mem_append, not_or]
    exact ⟨fun hmem => hne (eq_star_of_mem_takeWhile hmem), hnot⟩
  obtain ⟨c, hc, hlower⟩ := h.exists_not_lower
  exact ⟨hbrace _ (by decide) h.open_notMem, hbrace _ (by decide) h.close_notMem, c,
    stars_append_canonical mnemonic ▸ List.mem_append_right _ hc, hlower⟩

theorem plain_toString (n : Nat) : Plain (toString n) :=
  plain_of_nameChars (Text.toList_toString_ne_nil n) fun _ hc =>
    .inr (Listing.isDigit_eq_true.1 (Text.isDigit_of_mem_toString hc))

theorem plain_hexByte (opcode : UInt8) : Plain ("0x" ++ String.ofList (Text.hexByte opcode)) := by
  have hdigits : ∀ high low : Fin 16,
      Plain ("0x" ++ String.ofList [Text.upperHex high, Text.upperHex low]) := by decide +kernel
  obtain ⟨high, low, -, hbyte⟩ := Text.exists_hexByte_eq opcode
  rw [hbyte]
  exact hdigits high low

theorem plain_modeName (mode : AddressingMode) : Plain mode.name := by cases mode <;> decide

theorem plain_adjustmentName (adjustment : Adjustment) : Plain adjustment.name := by
  cases adjustment <;> decide

/-! ## The lines of a table -/

theorem isKey_recordValues (record : Record) : ∀ pair ∈ recordValues record, IsKey pair.1 := by
  have hkeys : ∀ key ∈ ["code", "name", "bytes", "cycles", "mode", "adjust", "official"],
      IsKey key := by decide
  exact List.forall_mem_map.1 hkeys

theorem isKey_entryValues (entry : DispatchEntry) : ∀ pair ∈ entryValues entry, IsKey pair.1 := by
  have hkeys : ∀ key ∈ ["name", "canonical", "handler"], IsKey key := by decide
  exact List.forall_mem_map.1 hkeys

/-- The line of a record with a plain name: only its last value, which tells the reference, is made
of lower-case letters. -/
theorem toList_fill_recordValues (template : String) {record : Record}
    (h : Plain record.canonical) : (fill template (recordValues record)).toList
      = instantiate (recordValues record) template.toList := by
  refine toList_fill template (isKey_recordValues record) ?_
  simp only [recordValues, List.dropLast_cons_cons, List.dropLast_singleton, List.forall_mem_cons]
  exact ⟨plain_hexByte record.opcode, h.of_canonical, plain_toString record.size,
    plain_toString record.cycles.toNat, plain_modeName record.mode,
    plain_adjustmentName record.adjustment, by simp⟩

/-- The arm of an entry with a plain name: only its last value is in lower case. -/
theorem toList_fill_entryValues (template : String) {entry : DispatchEntry}
    (hmnemonic : Plain entry.mnemonic) (hcanonical : Plain entry.canonical) :
    (fill template (entryValues entry)).toList
      = instantiate (entryValues entry) template.toList := by
  refine toList_fill template (isKey_entryValues entry) ?_
  simp only [entryValues, List.dropLast_cons_cons, List.dropLast_singleton, List.forall_mem_cons]
  exact ⟨hmnemonic, hcanonical, by simp⟩

/-- The names of an entry are those of the record that introduced it. -/
theorem plain_of_mem_dispatch {rows : List Row} {set : InstructionSet}
    (h : (InstructionSet.ofRows rows).outcome = .ok set)
    (hnames : ∀ record ∈ set.records, Plain record.canonical) {entry : DispatchEntry}
    (hentry : entry ∈ set.dispatch) : Plain entry.mnemonic ∧ Plain entry.canonical := by
  obtain ⟨record, hrecord, rfl⟩ := InstructionSet.exists_record_of_mem_dispatch h hentry
  have hplain := hnames record hrecord
  exact ⟨hplain.of_canonical, hplain⟩

/-- **A table is its templates instantiated.**  If the canonical names of a set are plain, its table
is the header, a line for each record, the middle part, an arm for each entry and the footer, each
of them ending its line, and a line or arm is its template instantiated in one pass.  The names of a
listing are all plain. -/
theorem render_eq_instantiate {rows : List Row} {set : InstructionSet}
    (h : (InstructionSet.ofRows rows).outcome = .ok set)
    (hnames : ∀ record ∈ set.records, Plain record.canonical) (templates : Templates) :
    (templates.render set).toList =
      (templates.header.toList
        :: set.records.map (fun record =>
          instantiate (recordValues record) templates.record.toList)
        ++ templates.middle.toList
        :: set.dispatch.map (fun entry =>
          instantiate (entryValues entry) templates.dispatch.toList)
        ++ [templates.footer.toList]).flatMap (· ++ ['\n']) ∧
    ∀ text listed, (Listing.rows text).outcome = .ok listed →
      ∀ row ∈ listed, Plain (canonical row.mnemonic) := by
  refine ⟨?_, fun text listed hlisted row hrow => ?_⟩
  · have hlines : set.records.map (fun record =>
          instantiate (recordValues record) templates.record.toList)
        = set.records.map fun record => (fill templates.record (recordValues record)).toList :=
      List.map_congr_left fun record hrecord =>
        (toList_fill_recordValues templates.record (hnames record hrecord)).symm
    have harms : set.dispatch.map (fun entry =>
          instantiate (entryValues entry) templates.dispatch.toList)
        = set.dispatch.map fun entry => (fill templates.dispatch (entryValues entry)).toList :=
      List.map_congr_left fun entry hentry =>
        have hplain := plain_of_mem_dispatch h hnames hentry
        (toList_fill_entryValues templates.dispatch hplain.1 hplain.2).symm
    rw [hlines, harms, render, String.toList_join, parts]
    simp [List.flatMap_map, Function.comp_def]
  · obtain ⟨hne, hchars⟩ := (Listing.outcome_rows_eq_ok.1 hlisted).nameChar_canonical row hrow
    exact plain_of_nameChars hne hchars

/-- Templates whose braces invite a second reading: doubled ones, a key around a placeholder, and a
placeholder in front of a key. -/
def bracedTemplates : Templates where
  header := ""
  record := "\x7b\x7bname\x7d\x7d \x7bby\x7bname\x7dtes\x7d \x7b\x7bcode\x7dmode\x7d"
  middle := "\x7bname\x7d"
  dispatch := "\x7bhand\x7bcanonical\x7dler\x7d\x7bhandler\x7d"
  footer := "\x7b"

/-- One row of each reference. -/
def twoRows : List Row := [
  ⟨.official, "LDA", "$A9", "Immediate", "2", "2", "page 1"⟩,
  ⟨.unofficial, "*NOP", "$1A", "Implied", "1", "2", "listing 1"⟩]

theorem render_bracedTemplates : ∃ set, (InstructionSet.ofRows twoRows).outcome = .ok set ∧
    (∀ record ∈ set.records, Plain record.canonical) ∧
    bracedTemplates.render set = "\n"
      ++ "\x7bLDA\x7d \x7bbyLDAtes\x7d \x7b0xA9mode\x7d\n"
      ++ "\x7b*NOP\x7d \x7bby*NOPtes\x7d \x7b0x1Amode\x7d\n"
      ++ "\x7bname\x7d\n"
      ++ "\x7bhandLDAler\x7dlda\n"
      ++ "\x7bhandNOPler\x7dnop\n"
      ++ "\x7b\n" := by
  have hset : (InstructionSet.ofRows twoRows).outcome.toOption.map
      (fun set => (set.records, set.dispatch))
        = some ([⟨"LDA", true, 0xA9, .immediate, 2, 2, .none⟩,
            ⟨"*NOP", false, 0x1A, .implied, 1, 2, .none⟩],
          [⟨"LDA", "LDA", "lda", true⟩, ⟨"*NOP", "NOP", "nop", false⟩]) := by decide +kernel
  cases h : (InstructionSet.ofRows twoRows).outcome with
  | error fault =>
    rw [h] at hset
    cases hset
  | ok set =>
    rw [h] at hset
    obtain ⟨hrecords, hdispatch⟩ := Prod.mk.inj (Option.some.inj hset)
    have hnames : ∀ record ∈ set.records, Plain record.canonical := by
      rw [hrecords]
      decide
    refine ⟨set, rfl, hnames, ?_⟩
    rw [← String.toList_inj, (render_eq_instantiate h hnames bracedTemplates).1, hrecords,
      hdispatch]
    decide +kernel

end Templates
end OpcodeTable
