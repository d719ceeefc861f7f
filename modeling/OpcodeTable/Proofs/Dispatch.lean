import Mathlib.Data.List.Basic
import OpcodeTable.Proofs.InstructionSet

/-!
# Proofs/Dispatch — the dispatch list, read off the records

Dispatch is decided on groups, official ones first.  The groups are uniform and keep the order of
their records, so the list is that of the records that are first to bring their canonical name,
official ones first (`ofGroups_eq`), however the records fell into groups.  `IsDispatchOf` says what
that list is, and `dispatch_ofRows` that it is the list of every set.
-/

namespace OpcodeTable

/-! ## The records that introduce an entry -/

namespace Record

/-- The records of one reference, in order. -/
def ofReference (official : Bool) (records : List Record) : List Record :=
  records.filter (·.official == official)

/-- The records in the order in which dispatch asks them: the official ones first. -/
def asked (records : List Record) : List Record :=
  ofReference true records ++ ofReference false records

/-- The records whose canonical name is neither among `seen` nor that of an earlier record. -/
def introducing (seen : List String) : List Record → List Record
  | [] => []
  | record :: records =>
    if record.canonical ∈ seen then introducing seen records
    else record :: introducing (record.canonical :: seen) records

theorem mem_ofReference {official : Bool} {records : List Record} {record : Record} :
    record ∈ ofReference official records ↔ record ∈ records ∧ record.official = official := by
  rw [ofReference, List.mem_filter, beq_iff_eq]

theorem mem_asked {records : List Record} {record : Record} :
    record ∈ asked records ↔ record ∈ records := by
  rw [asked, List.mem_append, mem_ofReference, mem_ofReference]
  cases record.official <;> simp

variable {seen : List String} {records : List Record} {record : Record}

theorem introducing_of_mem (h : record.canonical ∈ seen) :
    introducing seen (record :: records) = introducing seen records := if_pos h

theorem introducing_of_notMem (h : record.canonical ∉ seen) :
    introducing seen (record :: records)
      = record :: introducing (record.canonical :: seen) records := if_neg h

/-- Records of one name that has been seen introduce nothing. -/
theorem introducing_append_of_seen (later : List Record) :
    ∀ records : List Record, (∀ record ∈ records, record.canonical ∈ seen) →
      introducing seen (records ++ later) = introducing seen later := by
  intro records
  induction records with
  | nil => intro _; rfl
  | cons record records ih =>
    intro h
    rw [List.cons_append, introducing_of_mem (h record List.mem_cons_self)]
    exact ih fun other hother => h other (List.mem_cons_of_mem _ hother)

/-- **A name is introduced** if a record has it and it was not seen before. -/
theorem mem_canonical_introducing (name : String) :
    ∀ (records : List Record) (seen : List String),
      name ∈ (introducing seen records).map canonical
        ↔ name ∈ records.map canonical ∧ name ∉ seen := by
  intro records
  induction records with
  | nil => intro seen; simp [introducing]
  | cons record records ih =>
    intro seen
    by_cases h : record.canonical ∈ seen
    · rw [introducing_of_mem h, ih, List.map_cons, List.mem_cons]
      constructor
      · exact fun hname => ⟨.inr hname.1, hname.2⟩
      · rintro ⟨rfl | hname, hnew⟩
        · exact absurd h hnew
        · exact ⟨hname, hnew⟩
    · rw [introducing_of_notMem h, List.map_cons, List.map_cons, List.mem_cons, List.mem_cons, ih,
        List.mem_cons, not_or]
      by_cases hname : name = record.canonical
      · subst hname
        simp [h]
      · simp [hname]

/-- No record introduces a name that has been seen. -/
theorem canonical_notMem_of_mem_introducing (h : record ∈ introducing seen records) :
    record.canonical ∉ seen :=
  ((mem_canonical_introducing _ _ _).1 (List.mem_map_of_mem h)).2

/-- **Each name is introduced once.** -/
theorem nodup_introducing : ∀ (records : List Record) (seen : List String),
    ((introducing seen records).map canonical).Nodup := by
  intro records
  induction records with
  | nil => intro seen; exact List.nodup_nil
  | cons record records ih =>
    intro seen
    by_cases h : record.canonical ∈ seen
    · rw [introducing_of_mem h]
      exact ih seen
    · rw [introducing_of_notMem h, List.map_cons, List.nodup_cons, mem_canonical_introducing]
      exact ⟨fun hmem => hmem.2 List.mem_cons_self, ih _⟩

/-- **A name is introduced by the first record that has it.** -/
theorem find?_of_mem_introducing : ∀ (records : List Record) (seen : List String),
    record ∈ introducing seen records →
      records.find? (·.canonical == record.canonical) = some record := by
  intro records
  induction records with
  | nil => intro seen h; simp [introducing] at h
  | cons first records ih =>
    intro seen h
    have hnew := canonical_notMem_of_mem_introducing h
    by_cases hfirst : first.canonical ∈ seen
    · rw [introducing_of_mem hfirst] at h
      have hne : first.canonical ≠ record.canonical := fun heq => hnew (heq ▸ hfirst)
      rw [List.find?_cons_of_neg (by simpa using hne)]
      exact ih seen h
    · rw [introducing_of_notMem hfirst, List.mem_cons] at h
      rcases h with rfl | h
      · exact List.find?_cons_of_pos (by simp)
      · have hlater := canonical_notMem_of_mem_introducing h
        have hne : first.canonical ≠ record.canonical := fun heq => hlater (by simp [heq])
        rw [List.find?_cons_of_neg (by simpa using hne)]
        exact ih _ h

/-- **Names are introduced in the order of their first occurrences.** -/
theorem pairwise_introducing : ∀ (records : List Record) (seen : List String),
    (introducing seen records).Pairwise fun first second =>
      (records.map canonical).idxOf first.canonical
        < (records.map canonical).idxOf second.canonical := by
  intro records
  induction records with
  | nil => intro seen; exact List.Pairwise.nil
  | cons record records ih =>
    intro seen
    -- a name other than that of the first record is found one place later than among the rest
    have hshift : ∀ seen' : List String, record.canonical ∈ seen' →
        (introducing seen' records).Pairwise fun first second =>
          ((record :: records).map canonical).idxOf first.canonical
            < ((record :: records).map canonical).idxOf second.canonical := by
      intro seen' hseen
      refine (ih seen').imp_of_mem fun {first second} hfirst hsecond hlt => ?_
      have hne : ∀ other ∈ introducing seen' records, record.canonical ≠ other.canonical :=
        fun other hother heq => canonical_notMem_of_mem_introducing hother (heq ▸ hseen)
      rw [List.map_cons, List.idxOf_cons_ne _ (hne first hfirst),
        List.idxOf_cons_ne _ (hne second hsecond)]
      exact Nat.succ_lt_succ hlt
    by_cases h : record.canonical ∈ seen
    · rw [introducing_of_mem h]
      exact hshift seen h
    · rw [introducing_of_notMem h, List.pairwise_cons]
      refine ⟨fun other hother => ?_, hshift _ List.mem_cons_self⟩
      have hne : record.canonical ≠ other.canonical := fun heq =>
        canonical_notMem_of_mem_introducing hother (by simp [heq])
      rw [List.map_cons, List.idxOf_cons_self, List.idxOf_cons_ne _ hne]
      exact Nat.succ_pos _

end Record

/-! ## From groups to records -/

namespace Group

theorem canonical_of_mem {group : Group} {record : Record} (h : record ∈ group.records) :
    record.canonical = OpcodeTable.canonical group.mnemonic := by
  rw [Record.canonical, (group.uniform record h).1]

/-- Choosing groups by their reference is choosing records by it. -/
theorem flatten_filter (p : Bool → Bool) (groups : List Group) :
    flatten (groups.filter fun group => p group.official)
      = (flatten groups).filter fun record => p record.official := by
  induction groups with
  | nil => rfl
  | cons group groups ih =>
    rw [flatten_cons, List.filter_append, ← ih]
    by_cases h : p group.official = true
    · have hall : group.records.filter (fun record => p record.official) = group.records :=
        List.filter_eq_self.2 fun record hrecord => by rw [(group.uniform record hrecord).2, h]
      rw [List.filter_cons, if_pos h, flatten_cons, hall]
    · have hnone : group.records.filter (fun record => p record.official) = [] :=
        List.filter_eq_nil_iff.2 fun record hrecord => by rwa [(group.uniform record hrecord).2]
      rw [List.filter_cons, if_neg h, hnone, List.nil_append]

end Group

namespace DispatchEntry

/-- The entry a record introduces. -/
def ofRecord (record : Record) : DispatchEntry where
  mnemonic := record.mnemonic
  canonical := record.canonical
  handler := record.canonical.toLower
  official := record.official

theorem ofGroup_eq {group : Group} {record : Record} (h : record ∈ group.records) :
    ofGroup group = ofRecord record := by
  rw [ofGroup, ofRecord, Record.canonical, (group.uniform record h).1, (group.uniform record h).2]

/-- **A group introduces what its first record introduces**: its other records bring nothing new. -/
theorem firsts_eq : ∀ (groups : List Group) (seen : List String),
    firsts seen groups = (Record.introducing seen (Group.flatten groups)).map ofRecord := by
  intro groups
  induction groups with
  | nil => intro seen; rfl
  | cons group groups ih =>
    intro seen
    obtain ⟨first, others, hrecords⟩ := List.exists_cons_of_ne_nil group.records_ne_nil
    have hname : ∀ record ∈ first :: others,
        record.canonical = OpcodeTable.canonical group.mnemonic := by
      rw [← hrecords]
      exact fun record => Group.canonical_of_mem
    rw [firsts, Group.flatten_cons, hrecords]
    by_cases h : OpcodeTable.canonical group.mnemonic ∈ seen
    · have hseen : ∀ record ∈ first :: others, record.canonical ∈ seen :=
        fun record hrecord => hname record hrecord ▸ h
      rw [if_pos h, ih, Record.introducing_append_of_seen _ _ hseen]
    · have hfirst := hname first List.mem_cons_self
      rw [if_neg h, ih, List.cons_append, Record.introducing_of_notMem (hfirst ▸ h),
        Record.introducing_append_of_seen, List.map_cons, hfirst]
      · rw [ofGroup_eq (hrecords ▸ List.mem_cons_self : first ∈ group.records)]
      · intro record hrecord
        rw [hname record (List.mem_cons_of_mem _ hrecord), hfirst]
        exact List.mem_cons_self

/-- **The dispatch list of groups is that of their records**, official ones first. -/
theorem ofGroups_eq (groups : List Group) :
    ofGroups groups
      = (Record.introducing [] (Record.asked (Group.flatten groups))).map ofRecord := by
  rw [ofGroups, firsts_eq, Group.flatten_append, Group.flatten_filter (fun b => b),
    Group.flatten_filter (fun b => !b), Record.asked, Record.ofReference, Record.ofReference]
  simp

end DispatchEntry

/-! ## The list, said without groups -/

namespace Record

/-- The canonical names of one reference, in order. -/
def names (official : Bool) (records : List Record) : List String :=
  (ofReference official records).map canonical

/-- The first record of a canonical name, the official ones asked before the others. -/
def firstNamed? (name : String) (records : List Record) : Option Record :=
  ((ofReference true records).find? (·.canonical == name)).or
    ((ofReference false records).find? (·.canonical == name))

theorem map_canonical_asked (records : List Record) :
    (asked records).map canonical = names true records ++ names false records := List.map_append

variable {records : List Record} {record : Record}

theorem firstNamed?_of_introducing (h : record ∈ introducing [] (asked records)) :
    firstNamed? record.canonical records = some record := by
  rw [firstNamed?, ← List.find?_append]
  exact find?_of_mem_introducing _ _ h

/-- **An official record outranks the others**: a name is introduced officially whenever it can
be. -/
theorem official_iff_of_introducing (h : record ∈ introducing [] (asked records)) :
    record.official = true ↔ record.canonical ∈ names true records := by
  have hfirst := firstNamed?_of_introducing h
  constructor
  · intro hofficial
    have hmem : record ∈ asked records :=
      List.mem_of_find?_eq_some (find?_of_mem_introducing _ _ h)
    exact List.mem_map_of_mem (mem_ofReference.2 ⟨mem_asked.1 hmem, hofficial⟩)
  · intro hname
    obtain ⟨other, hother, hsame⟩ := List.mem_map.1 hname
    cases hfind : (ofReference true records).find? (·.canonical == record.canonical) with
    | none =>
      have hnone := List.find?_eq_none.1 hfind other hother
      exact absurd (by simpa using hsame) hnone
    | some first =>
      rw [firstNamed?, hfind, Option.some_or] at hfirst
      obtain rfl := Option.some.inj hfirst
      exact (mem_ofReference.1 (List.mem_of_find?_eq_some hfind)).2

/-- The place of an official name among all names asked for. -/
theorem idxOf_asked_of_mem {name : String} (h : name ∈ names true records) :
    ((asked records).map canonical).idxOf name = (names true records).idxOf name := by
  rw [map_canonical_asked, List.idxOf_append_of_mem h]

/-- The place of any other name: all official names stand in front of it. -/
theorem idxOf_asked_of_notMem {name : String} (h : name ∉ names true records) :
    ((asked records).map canonical).idxOf name
      = (names true records).length + (names false records).idxOf name := by
  rw [map_canonical_asked, List.idxOf_append_of_notMem h]

end Record

/-- **What a dispatch list of records is**, said without groups. -/
structure IsDispatchOf (records : List Record) (dispatch : List DispatchEntry) : Prop where
  /-- no canonical name has two entries -/
  nodup : (dispatch.map (·.canonical)).Nodup
  /-- the canonical names are those of the records -/
  mem_iff : ∀ name, name ∈ dispatch.map (·.canonical) ↔ name ∈ records.map Record.canonical
  /-- an entry is official if any official record has its name -/
  official_iff : ∀ entry ∈ dispatch, entry.official = true
    ↔ ∃ record ∈ records, record.official = true ∧ record.canonical = entry.canonical
  /-- an entry has the mnemonic of the first record of its name, official ones asked first -/
  mnemonic_eq : ∀ entry ∈ dispatch, ∃ record,
    Record.firstNamed? entry.canonical records = some record ∧ entry.mnemonic = record.mnemonic
  /-- the handler is the canonical name in lower case -/
  handler_eq : ∀ entry ∈ dispatch, entry.handler.toList = entry.canonical.toList.map Char.toLower
  /-- no other entry stands in front of an official one -/
  official_first : dispatch.Pairwise fun first second =>
    second.official = true → first.official = true
  /-- entries from one reference follow the first occurrences of their names in it -/
  ordered : dispatch.Pairwise fun first second => first.official = second.official →
    (Record.names first.official records).idxOf first.canonical
      < (Record.names first.official records).idxOf second.canonical

namespace DispatchEntry

variable {records : List Record}

/-- **The order of two entries**: behind an official name stand other ones and later official ones,
behind another name only later ones of its reference. -/
theorem order_of_introducing {first second : Record}
    (hfirst : first ∈ Record.introducing [] (Record.asked records))
    (hsecond : second ∈ Record.introducing [] (Record.asked records))
    (hlt : ((Record.asked records).map Record.canonical).idxOf first.canonical
      < ((Record.asked records).map Record.canonical).idxOf second.canonical) :
    (second.official = true → first.official = true) ∧
    (first.official = second.official →
      (Record.names first.official records).idxOf first.canonical
        < (Record.names first.official records).idxOf second.canonical) := by
  have hofficial := Record.official_iff_of_introducing hfirst
  have hofficial' := Record.official_iff_of_introducing hsecond
  by_cases hname : first.canonical ∈ Record.names true records
  · have hfirst : first.official = true := hofficial.2 hname
    refine ⟨fun _ => hfirst, fun hsame => ?_⟩
    have hname' := hofficial'.1 (hsame ▸ hfirst)
    rw [Record.idxOf_asked_of_mem hname, Record.idxOf_asked_of_mem hname'] at hlt
    rwa [hfirst]
  · have hfirst : first.official = false := Bool.eq_false_iff.2 (mt hofficial.1 hname)
    rw [Record.idxOf_asked_of_notMem hname] at hlt
    constructor
    · intro hsecond
      have hbound := List.idxOf_lt_length_of_mem (hofficial'.1 hsecond)
      rw [Record.idxOf_asked_of_mem (hofficial'.1 hsecond)] at hlt
      omega
    · intro hsame
      have hname' : second.canonical ∉ Record.names true records := by
        rw [← hofficial', ← hsame, hfirst]
        exact Bool.false_ne_true
      rw [Record.idxOf_asked_of_notMem hname'] at hlt
      rw [hfirst]
      omega

/-- **Groups make the dispatch list of their records.** -/
theorem isDispatchOf_ofGroups (groups : List Group) :
    IsDispatchOf (Group.flatten groups) (ofGroups groups) := by
  rw [ofGroups_eq]
  generalize Group.flatten groups = records
  have hnames : ((Record.introducing [] (Record.asked records)).map ofRecord).map (·.canonical)
      = (Record.introducing [] (Record.asked records)).map Record.canonical := by
    rw [List.map_map]
    rfl
  have horder := (Record.pairwise_introducing (Record.asked records) []).imp_of_mem
    fun hfirst hsecond hlt => order_of_introducing hfirst hsecond hlt
  refine
    { nodup := hnames ▸ Record.nodup_introducing _ _
      mem_iff := fun name => ?_
      official_iff := fun entry hentry => ?_
      mnemonic_eq := fun entry hentry => ?_
      handler_eq := fun entry hentry => ?_
      official_first := List.pairwise_map.2 (horder.imp fun h => h.1)
      ordered := List.pairwise_map.2 (horder.imp fun h => h.2) }
  · rw [hnames, Record.mem_canonical_introducing, List.mem_map, List.mem_map]
    simp only [Record.mem_asked, List.not_mem_nil, not_false_eq_true, and_true]
  · obtain ⟨record, hrecord, rfl⟩ := List.mem_map.1 hentry
    refine (Record.official_iff_of_introducing hrecord).trans (List.mem_map.trans ?_)
    simp only [Record.mem_ofReference, and_assoc]
    rfl
  · obtain ⟨record, hrecord, rfl⟩ := List.mem_map.1 hentry
    exact ⟨record, Record.firstNamed?_of_introducing hrecord, rfl⟩
  · obtain ⟨record, -, rfl⟩ := List.mem_map.1 hentry
    exact String.toList_map

end DispatchEntry

/-! ## There is one such list -/

namespace IsDispatchOf

variable {records records' : List Record} {dispatch dispatch' : List DispatchEntry}

/-- **Whether an entry is official** depends on the records there are and not on their order. -/
theorem official_eq (hperm : records.Perm records') (h : IsDispatchOf records dispatch)
    (h' : IsDispatchOf records' dispatch') {entry entry' : DispatchEntry}
    (hentry : entry ∈ dispatch) (hentry' : entry' ∈ dispatch')
    (hname : entry.canonical = entry'.canonical) : entry.official = entry'.official := by
  rw [Bool.eq_iff_iff, h.official_iff entry hentry, h'.official_iff entry' hentry', hname]
  simp only [hperm.mem_iff]

/-- The handler follows from the canonical name. -/
theorem handler_eq_of_canonical (h : IsDispatchOf records dispatch)
    (h' : IsDispatchOf records' dispatch') {entry entry' : DispatchEntry}
    (hentry : entry ∈ dispatch) (hentry' : entry' ∈ dispatch')
    (hname : entry.canonical = entry'.canonical) : entry.handler = entry'.handler := by
  rw [← String.toList_inj, h.handler_eq entry hentry, h'.handler_eq entry' hentry', hname]

/-- Entries of one canonical name are equal, whichever list they are from. -/
theorem entry_eq (h : IsDispatchOf records dispatch) (h' : IsDispatchOf records dispatch')
    {entry entry' : DispatchEntry} (hentry : entry ∈ dispatch) (hentry' : entry' ∈ dispatch')
    (hname : entry.canonical = entry'.canonical) : entry = entry' := by
  have hofficial := official_eq (.refl records) h h' hentry hentry' hname
  have hmnemonic : entry.mnemonic = entry'.mnemonic := by
    obtain ⟨record, hfirst, hrecord⟩ := h.mnemonic_eq entry hentry
    obtain ⟨record', hfirst', hrecord'⟩ := h'.mnemonic_eq entry' hentry'
    rw [hname, hfirst'] at hfirst
    rw [hrecord, hrecord', Option.some.inj hfirst]
  have hhandler := h.handler_eq_of_canonical h' hentry hentry' hname
  obtain ⟨mnemonic, canonical, handler, official⟩ := entry
  obtain ⟨mnemonic', canonical', handler', official'⟩ := entry'
  simp only [DispatchEntry.mk.injEq]
  exact ⟨hmnemonic, hname, hhandler, hofficial⟩

theorem subset (h : IsDispatchOf records dispatch) (h' : IsDispatchOf records dispatch') :
    dispatch ⊆ dispatch' := by
  intro entry hentry
  have hname := (h'.mem_iff _).2 ((h.mem_iff _).1 (List.mem_map_of_mem hentry))
  obtain ⟨entry', hentry', hsame⟩ := List.mem_map.1 hname
  exact h'.entry_eq h hentry' hentry hsame ▸ hentry'

/-- **Records have one dispatch list only**: its entries and their order are both given. -/
theorem unique (h : IsDispatchOf records dispatch) (h' : IsDispatchOf records dispatch') :
    dispatch = dispatch' := by
  have hperm : dispatch.Perm dispatch' :=
    (List.perm_ext_iff_of_nodup h.nodup.of_map h'.nodup.of_map).2 fun _ =>
      ⟨fun hmem => h.subset h' hmem, fun hmem => h'.subset h hmem⟩
  refine hperm.eq_of_pairwise (fun first second _ _ hlt hgt => ?_)
    (h.official_first.and h.ordered) (h'.official_first.and h'.ordered)
  have hsame : first.official = second.official := Bool.eq_iff_iff.2 ⟨hgt.1, hlt.1⟩
  have hbefore := hlt.2 hsame
  have hbehind := hgt.2 hsame.symm
  rw [hsame] at hbefore
  omega

end IsDispatchOf

/-! ## The dispatch list of a set -/

namespace InstructionSet

theorem dispatch_of_ofRows {rows : List Row} {set : InstructionSet}
    (h : (ofRows rows).outcome = .ok set) :
    set.dispatch
      = (Record.introducing [] (Record.asked set.records)).map DispatchEntry.ofRecord := by
  obtain ⟨draft, -, rfl⟩ := outcome_ofRows_eq_ok.1 h
  exact DispatchEntry.ofGroups_eq draft.groups

/-- **Every entry is that of a record.** -/
theorem exists_record_of_mem_dispatch {rows : List Row} {set : InstructionSet}
    (h : (ofRows rows).outcome = .ok set) {entry : DispatchEntry} (hentry : entry ∈ set.dispatch) :
    ∃ record ∈ set.records, DispatchEntry.ofRecord record = entry := by
  rw [dispatch_of_ofRows h] at hentry
  obtain ⟨record, hrecord, hentry⟩ := List.mem_map.1 hentry
  have hasked := List.mem_of_find?_eq_some (Record.find?_of_mem_introducing _ _ hrecord)
  exact ⟨record, Record.mem_asked.1 hasked, hentry⟩

/-- **The dispatch list of a set is that of its records**, and they have no other. -/
theorem dispatch_ofRows {rows : List Row} {set : InstructionSet}
    (h : (ofRows rows).outcome = .ok set) :
    IsDispatchOf set.records set.dispatch ∧
      ∀ dispatch, IsDispatchOf set.records dispatch → dispatch = set.dispatch := by
  obtain ⟨draft, -, rfl⟩ := outcome_ofRows_eq_ok.1 h
  have hdispatch := DispatchEntry.isDispatchOf_ofGroups draft.groups
  exact ⟨hdispatch, fun _ hother => hother.unique hdispatch⟩

/-- Rows of both references in turn: a name that starts in the listing and is taken over by the
page, an official one with a star, groups that come back, and a name behind two stars. -/
def interleavedRows : List Row := [
  ⟨.unofficial, "*NOP", "$1A", "Implied", "1", "2", "listing 1"⟩,
  ⟨.official, "LDA", "$A9", "Immediate", "2", "2", "page 1"⟩,
  ⟨.official, "NOP", "$EA", "Implied", "1", "2", "page 2"⟩,
  ⟨.unofficial, "**LAX", "$A7", "Zero Page", "2", "3", "listing 2"⟩,
  ⟨.unofficial, "*LAX", "$B7", "Zero Page,Y", "2", "4", "listing 3"⟩,
  ⟨.official, "LDA", "$A5", "Zero Page", "2", "3", "page 3"⟩,
  ⟨.official, "*SBC", "$E9", "Immediate", "2", "2", "page 4"⟩,
  ⟨.unofficial, "SBC", "$EB", "Immediate", "2", "2", "listing 4"⟩]

/-- Their dispatch list, which the records alone determine. -/
theorem dispatch_interleavedRows : ∃ set, (ofRows interleavedRows).outcome = .ok set ∧
    set.dispatch.map (fun entry => (entry.mnemonic, entry.handler, entry.official))
      = [("LDA", "lda", true), ("NOP", "nop", true), ("*SBC", "sbc", true),
        ("**LAX", "lax", false)] ∧
    IsDispatchOf set.records set.dispatch := by
  have hlist : (ofRows interleavedRows).outcome.toOption.map (fun set =>
      set.dispatch.map fun entry => (entry.mnemonic, entry.handler, entry.official))
        = some [("LDA", "lda", true), ("NOP", "nop", true), ("*SBC", "sbc", true),
          ("**LAX", "lax", false)] := by decide +kernel
  cases hrun : (ofRows interleavedRows).outcome with
  | error fault =>
    rw [hrun] at hlist
    cases hlist
  | ok set =>
    rw [hrun] at hlist
    exact ⟨set, rfl, Option.some.inj hlist, (dispatch_ofRows hrun).1⟩

end InstructionSet

end OpcodeTable
