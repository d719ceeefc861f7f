import OpcodeTable.Page
import OpcodeTable.Proofs.Listing.Rows
import OpcodeTable.Proofs.RowOrder

/-!
# Proofs/Mnemonic — mnemonics without their stars

The dispatch list drops the stars a mnemonic starts with, while the choice of a handler in the
default templates drops every star of the name it is given.  The two agree on a mnemonic exactly if
its canonical form has no star (`withoutStars_eq_canonical_iff`), and then the record comes to the
arm of its own entry (`armFor?_of_ofRows`).  No mnemonic of the listing has a star inside; an anchor
of the page may, and its record comes to no arm at all (`armFor?_innerStarRow`).
-/

namespace OpcodeTable

/-! ## Two ways to drop stars -/

variable {mnemonic : String}

/-- A mnemonic is its canonical form behind the stars it starts with. -/
theorem stars_append_canonical (mnemonic : String) :
    mnemonic.toList.takeWhile (· == star) ++ (canonical mnemonic).toList = mnemonic.toList := by
  rw [canonical, String.toList_ofList, List.takeWhile_append_dropWhile]

theorem canonical_subset (mnemonic : String) : (canonical mnemonic).toList ⊆ mnemonic.toList := by
  rw [canonical, String.toList_ofList]
  exact (List.dropWhile_suffix _).subset

theorem eq_star_of_mem_takeWhile {c : Char} (h : c ∈ mnemonic.toList.takeWhile (· == star)) :
    c = star := by
  simpa using List.mem_takeWhile_imp h

/-- **The mnemonic without any star**: what the choice of a handler compares with its arms. -/
def withoutStars (mnemonic : String) : String :=
  String.ofList (mnemonic.toList.filter (· != star))

/-- The stars a mnemonic starts with go either way. -/
theorem withoutStars_eq_filter_canonical (mnemonic : String) :
    withoutStars mnemonic = String.ofList ((canonical mnemonic).toList.filter (· != star)) := by
  have hnone : (mnemonic.toList.takeWhile (· == star)).filter (· != star) = [] := by
    refine List.filter_eq_nil_iff.2 fun c hc => ?_
    rw [eq_star_of_mem_takeWhile hc]
    decide
  rw [withoutStars, ← stars_append_canonical, List.filter_append, hnone, List.nil_append]

/-- **The two ways agree** exactly if no star is left behind the first ones. -/
theorem withoutStars_eq_canonical_iff :
    withoutStars mnemonic = canonical mnemonic ↔ star ∉ (canonical mnemonic).toList := by
  rw [withoutStars_eq_filter_canonical, ← String.toList_inj, String.toList_ofList,
    List.filter_eq_self]
  constructor
  · exact fun h hstar => absurd (h star hstar) (by decide)
  · intro h c hc
    rw [bne_iff_ne]
    rintro rfl
    exact h hc

/-! ## The mnemonics of a listing -/

namespace Listing

theorem nameChar_of_mem_headings {lines : List (List Char)} {name : String}
    (h : name ∈ headings lines) : name.toList ≠ [] ∧ ∀ c ∈ name.toList, NameChar c := by
  obtain ⟨i, hi, rfl⟩ := List.mem_map.1 h
  obtain ⟨-, hheading⟩ := List.mem_filter.1 hi
  obtain ⟨⟨line, hline, hlength, hname, -⟩, -⟩ := of_decide_eq_true hheading
  rw [nameAt, Option.mem_def.1 hline, Option.getD_some, String.toList_ofList]
  refine ⟨fun hnil => ?_, hname⟩
  have hthree := congrArg List.length hnil
  rw [List.length_take, List.length_nil] at hthree
  omega

/-- **The canonical name of a listing's row** is the one its heading starts with, in capital letters
and digits. -/
theorem HasRows.nameChar_canonical {text : String} {rows : List Row} (h : HasRows text rows) :
    ∀ row ∈ rows, (canonical row.mnemonic).toList ≠ [] ∧
      ∀ c ∈ (canonical row.mnemonic).toList, NameChar c := by
  refine ((List.forall₂_and_left _ _).1 (h.2.flip.imp fun row i hrow => ⟨?_, hrow⟩)).1
  obtain ⟨_, _, _, _, _, _, -, -, k, name, -, hname, rfl⟩ := hrow
  obtain ⟨hne, hchars⟩ := nameChar_of_mem_headings (List.mem_of_getElem? hname)
  rw [rowOfFields, canonical_of_nameChars hchars]
  exact ⟨hne, hchars⟩

/-- A mnemonic of a listing is stars, capital letters and digits. -/
theorem HasRows.nameChar_of_mem_mnemonic {text : String} {rows : List Row} (h : HasRows text rows) :
    ∀ row ∈ rows, ∀ c ∈ row.mnemonic.toList, c = star ∨ NameChar c := by
  intro row hrow c hc
  rw [← stars_append_canonical, List.mem_append] at hc
  exact hc.imp eq_star_of_mem_takeWhile ((h.nameChar_canonical row hrow).2 c)

theorem star_notMem_of_nameChars {cs : List Char} (h : ∀ c ∈ cs, NameChar c) : star ∉ cs :=
  fun hstar => by simpa [NameChar, star] using h star hstar

end Listing

/-! ## The arm of a record -/

namespace DispatchEntry

/-- **The arm a name comes to** in the generated choice of a handler: the first whose canonical name
is the given one without stars, and none if only the last arm is left, which has no handler. -/
def armFor? (dispatch : List DispatchEntry) (name : String) : Option DispatchEntry :=
  dispatch.find? (·.canonical == withoutStars name)

/-- No canonical name has two entries, so the first arm of a name is its only one. -/
theorem armFor?_eq_some {records : List Record} {dispatch : List DispatchEntry}
    (h : IsDispatchOf records dispatch) {name : String} {entry : DispatchEntry}
    (hentry : entry ∈ dispatch) :
    armFor? dispatch name = some entry ↔ withoutStars name = entry.canonical := by
  constructor
  · intro harm
    have hname := List.find?_some harm
    exact (eq_of_beq hname).symm
  · intro hname
    cases harm : armFor? dispatch name with
    | none => exact absurd (beq_iff_eq.2 hname.symm) (List.find?_eq_none.1 harm entry hentry)
    | some arm =>
      have harmName := List.find?_some harm
      rw [h.entry_eq h (List.mem_of_find?_eq_some harm) hentry ((eq_of_beq harmName).trans hname)]

end DispatchEntry

namespace InstructionSet

open DispatchEntry (armFor?)

/-- **The arm of a record.**  A record of a set has one entry of its canonical name.  Its mnemonic
without any star is that name, and comes to the arm of that entry, exactly if the name has no star
left; this is so for every mnemonic of a listing. -/
theorem armFor?_of_ofRows {rows : List Row} {set : InstructionSet}
    (h : (ofRows rows).outcome = .ok set) {record : Record} (hrecord : record ∈ set.records) :
    (∃ entry ∈ set.dispatch, entry.canonical = record.canonical ∧
      (∀ other ∈ set.dispatch, other.canonical = record.canonical → other = entry) ∧
      (withoutStars record.mnemonic = entry.canonical ↔ star ∉ record.canonical.toList) ∧
      (armFor? set.dispatch record.mnemonic = some entry ↔ star ∉ record.canonical.toList)) ∧
    ∀ text listed, (Listing.rows text).outcome = .ok listed →
      ∀ row ∈ listed, star ∉ (canonical row.mnemonic).toList := by
  have hdispatch := isDispatchOf_of_ofRows h
  have hname := (hdispatch.mem_iff record.canonical).2 (List.mem_map_of_mem hrecord)
  obtain ⟨entry, hentry, hcanonical⟩ := List.mem_map.1 hname
  have hagree : withoutStars record.mnemonic = entry.canonical
      ↔ star ∉ record.canonical.toList := by
    rw [hcanonical]
    exact withoutStars_eq_canonical_iff
  refine ⟨⟨entry, hentry, hcanonical, fun other hother hsame => ?_, hagree, ?_⟩,
    fun text listed hlisted row hrow => ?_⟩
  · exact hdispatch.entry_eq hdispatch hother hentry (hsame.trans hcanonical.symm)
  · exact (DispatchEntry.armFor?_eq_some hdispatch hentry).trans hagree
  · exact Listing.star_notMem_of_nameChars
      ((Listing.outcome_rows_eq_ok.1 hlisted).nameChar_canonical row hrow).2

/-- Stars in front are no obstacle: the record with one star comes to the arm that the record with
two stars introduced. -/
theorem armFor?_interleavedRows : ∃ set record, (ofRows interleavedRows).outcome = .ok set ∧
    record ∈ set.records ∧ record.mnemonic = "*LAX" ∧
      ∃ entry, armFor? set.dispatch record.mnemonic = some entry ∧ entry.handler = "lax" := by
  have hsome : (ofRows interleavedRows).outcome.toOption.map
      (fun set => set.records[4]?.map (·.mnemonic)) = some (some "*LAX") := by decide +kernel
  cases h : (ofRows interleavedRows).outcome with
  | error fault =>
    rw [h] at hsome
    cases hsome
  | ok set =>
    rw [h] at hsome
    obtain ⟨record, hrecord, hmnemonic⟩ := Option.map_eq_some_iff.1 (Option.some.inj hsome)
    have hmem := List.mem_of_getElem? hrecord
    have hcanonical : record.canonical = "LAX" := by
      rw [Record.canonical, hmnemonic]
      decide
    obtain ⟨⟨entry, hentry, hname, -, -, harm⟩, -⟩ := armFor?_of_ofRows h hmem
    refine ⟨set, record, rfl, hmem, hmnemonic, entry, harm.2 (by rw [hcanonical]; decide), ?_⟩
    rw [← String.toList_inj, (isDispatchOf_of_ofRows h).handler_eq entry hentry, hname, hcanonical]
    decide

/-- A page with a star inside the name of its only instruction. -/
def innerStarPage : String :=
  "<table></table><h3><a name=A*B></a></h3><table></table>"
    ++ "<table><tr><tr><td>Implied<td>$EA<td>1<td>2</table>"

/-- Its row. -/
def innerStarRow : Row :=
  ⟨.official, "A*B", "$EA", "Implied", "1", "2", "official reference table A*B row 2"⟩

/-- **A star inside a name leads past all arms**: the page is read and its row makes a set, but the
name without any star is that of no entry. -/
theorem armFor?_innerStarRow : (Page.rows innerStarPage).outcome = .ok [innerStarRow] ∧
    ∃ set record, (ofRows [innerStarRow]).outcome = .ok set ∧ set.records = [record] ∧
      record.mnemonic = "A*B" ∧ withoutStars record.mnemonic = "AB" ∧
      (∀ entry ∈ set.dispatch, entry.canonical ≠ "AB") ∧
      armFor? set.dispatch record.mnemonic = none := by
  refine ⟨by decide +kernel, ?_⟩
  have hset : (ofRows [innerStarRow]).outcome.toOption.map
      (fun set => (set.records, set.dispatch.map (·.canonical), armFor? set.dispatch "A*B"))
        = some ([⟨"A*B", true, 0xEA, .implied, 1, 2, .none⟩], ["A*B"], none) := by decide +kernel
  cases h : (ofRows [innerStarRow]).outcome with
  | error fault =>
    rw [h] at hset
    cases hset
  | ok set =>
    rw [h] at hset
    obtain ⟨hrecords, hrest⟩ := Prod.mk.inj (Option.some.inj hset)
    obtain ⟨hnames, harm⟩ := Prod.mk.inj hrest
    refine ⟨set, _, rfl, hrecords, rfl, by decide, fun entry hentry hname => ?_, harm⟩
    have hmem : entry.canonical ∈ set.dispatch.map (·.canonical) := List.mem_map_of_mem hentry
    rw [hnames, List.mem_singleton, hname] at hmem
    exact absurd hmem (by decide)

end InstructionSet

end OpcodeTable
