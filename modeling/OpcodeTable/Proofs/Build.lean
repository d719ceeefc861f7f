import OpcodeTable.Build
import OpcodeTable.Proofs.InstructionSet
import OpcodeTable.Proofs.Listing.Rows
import OpcodeTable.Proofs.Page

/-!
# Proofs/Build — which fault a build reports

A build goes over its two references in passes, and a fault of an earlier pass hides those of the
later ones: the page comes before the listing, and both come before their rows are merged.  Each
pass has its own faults, said apart from the run (`Page.HasFault`, `Listing.HasFault`,
`InstructionSet.HasFault`), and a build fails with the first of them (`outcome_build_eq_error`).
-/

namespace OpcodeTable

namespace InstructionSet

variable {rows : List Row} {row : Row} {j : Nat} {cause : Cause} {fault : Fault}

/-! ## The fault of a list of rows -/

/-- **What is wrong with a row** behind others: it cannot be read, or its opcode is that of an
earlier row. -/
inductive Refuses (before : List Row) (row : Row) : Cause → Prop
  | unreadable {cause : Cause} (h : row.Unreadable cause) : Refuses before row cause
  | duplicate {record : Record} {earlier : Row} (hreading : row.reading = .ok record)
      (hearlier : earlier ∈ before) (hshare : earlier.SharesOpcode row) :
      Refuses before row (.duplicateOpcode record.opcode earlier.mnemonic row.mnemonic)

/-- **The rows have the fault** of the first faulty one. -/
inductive HasFault (rows : List Row) : Fault → Prop
  | row {j : Nat} {row : Row} {cause : Cause} (hfirst : FirstFaulty rows j)
      (hrow : rows[j]? = some row) (hcause : Refuses (rows.take j) row cause) :
      HasFault rows ⟨cause, row.origin⟩

/-- The first faulty row is refused for one cause, and the rows with it. -/
theorem exists_refuses_of_firstFaulty (hfirst : FirstFaulty rows j) (hrow : rows[j]? = some row) :
    ∃ cause, Refuses (rows.take j) row cause ∧
      (∀ other, Refuses (rows.take j) row other → other = cause) ∧
      (ofRows rows).outcome = .error ⟨cause, row.origin⟩ := by
  obtain ⟨draft, hbefore, hholds, hcases⟩ := Draft.exists_holds_of_firstFaulty hfirst hrow
  have hstop : ∀ fault, (draft.add row).outcome = .error fault →
      (ofRows rows).outcome = .error fault := fun fault hadd =>
    outcome_ofRows_of_stopsAt ⟨draft, row, hrow, hbefore, hadd⟩
  rcases hcases with ⟨fault, hfault, hadd⟩ | ⟨record, i, earlier, hreading, hearlier, hshare, hadd⟩
  · obtain ⟨cause, hunreadable, rfl⟩ := Row.reading_eq_error.1 hfault
    refine ⟨cause, .unreadable hunreadable, fun other hother => ?_, hstop _ hadd⟩
    cases hother with
    | unreadable hother =>
      have hsame := hfault.symm.trans (Row.reading_eq_error.2 ⟨other, hother, rfl⟩)
      exact (congrArg Fault.cause (Except.error.inj hsame)).symm
    | duplicate hreading =>
      rw [hfault] at hreading
      cases hreading
  · refine ⟨_, .duplicate hreading (List.mem_of_getElem? hearlier) hshare, fun other hother => ?_,
      hstop _ hadd⟩
    cases hother with
    | unreadable hother =>
      rw [Row.reading_eq_error.2 ⟨other, hother, rfl⟩] at hreading
      cases hreading
    | duplicate hreading' hearlier' hshare' =>
      obtain rfl := Except.ok.inj (hreading.symm.trans hreading')
      obtain ⟨i', hi'⟩ := List.mem_iff_getElem?.1 hearlier'
      obtain rfl := hholds.eq_of_sharesOpcode hearlier hi' hshare hshare'
      obtain rfl := Option.some.inj (hearlier.symm.trans hi')
      rfl

/-- Rows that make no set have a first faulty one. -/
theorem exists_firstFaulty_of_error (h : (ofRows rows).outcome = .error fault) :
    ∃ j row, FirstFaulty rows j ∧ rows[j]? = some row := by
  classical
  have hfaulty : ∃ j, Faulty rows j := by
    by_contra hnone
    obtain ⟨draft, hrun, -⟩ := Draft.exists_holds_of_not_faulty (not_exists.1 hnone)
    rw [outcome_ofRows_eq_ok.2 ⟨draft, hrun, rfl⟩] at h
    cases h
  obtain ⟨row, hrow, -⟩ := Nat.find_spec hfaulty
  exact ⟨Nat.find hfaulty, row, ⟨Nat.find_spec hfaulty, fun i hi => Nat.find_min hfaulty hi⟩, hrow⟩

theorem outcome_ofRows_eq_error :
    (ofRows rows).outcome = .error fault ↔ HasFault rows fault := by
  constructor
  · intro hrun
    obtain ⟨j, row, hfirst, hrow⟩ := exists_firstFaulty_of_error hrun
    obtain ⟨cause, hcause, -, hfault⟩ := exists_refuses_of_firstFaulty hfirst hrow
    obtain rfl := Except.error.inj (hfault.symm.trans hrun)
    exact .row hfirst hrow hcause
  · rintro ⟨hfirst, hrow, hcause⟩
    obtain ⟨cause, -, hunique, hfault⟩ := exists_refuses_of_firstFaulty hfirst hrow
    rw [hfault, hunique _ hcause]

/-! ## The fault of a build -/

variable {fetch : Source → Traced String} {page listing : String}

/-- **The build has the fault** of the first pass that fails: reading the page, whatever the listing
is; reading the listing, whatever is wrong with the rows of the page; merging the rows of both. -/
inductive BuildFault (page listing : String) : Fault → Prop
  | page {fault : Fault} (h : Page.HasFault (Html.parse page.toList) fault) :
      BuildFault page listing fault
  | listing {official : List Row} {fault : Fault}
      (hpage : Page.HasRows (Html.parse page.toList) official)
      (h : Listing.HasFault listing fault) : BuildFault page listing fault
  | rows {official unofficial : List Row} {fault : Fault}
      (hpage : Page.HasRows (Html.parse page.toList) official)
      (hlisting : Listing.HasRows listing unofficial)
      (h : HasFault (official ++ unofficial) fault) : BuildFault page listing fault

/-- What a reference is read as, once it is fetched. -/
theorem outcome_load {source : Source} {text : String} (h : (fetch source).outcome = .ok text) :
    (source.load fetch).outcome = (source.rows text).outcome := by
  rw [Source.load, Traced.bind_of_ok h]
  cases hrows : (source.rows text).outcome with
  | error fault => rw [Traced.bind_of_error hrows]
  | ok rows =>
    rw [Traced.bind_of_ok hrows]
    rfl

/-- **A build fails** exactly with its fault. -/
theorem outcome_build_eq_error (hpage : (fetch .official).outcome = .ok page)
    (hlisting : (fetch .unofficial).outcome = .ok listing) {fault : Fault} :
    (build fetch).outcome = .error fault ↔ BuildFault page listing fault := by
  have hofficial := outcome_load hpage
  have hunofficial := outcome_load hlisting
  simp only [Source.rows, Page.rows] at hofficial hunofficial
  simp only [build, Traced.outcome_bind_eq_error, hofficial, hunofficial, Page.outcome_rowsOf_eq_ok,
    Page.outcome_rowsOf_eq_error, Listing.outcome_rows_eq_ok, Listing.outcome_rows_eq_error,
    outcome_ofRows_eq_error, Traced.outcome_notify, Traced.outcome_pure, reduceCtorEq, and_false,
    exists_false, or_false]
  constructor
  · rintro (h | ⟨official, hpage, h | ⟨unofficial, hlisting, h⟩⟩)
    · exact .page h
    · exact .listing hpage h
    · exact .rows hpage hlisting h
  · rintro (h | ⟨hpage, h⟩ | ⟨hpage, hlisting, h⟩)
    · exact .inl h
    · exact .inr ⟨_, hpage, .inl h⟩
    · exact .inr ⟨_, hpage, .inr ⟨_, hlisting, h⟩⟩

/-! ## Kinds and places -/

/-- **A fault of the references**: it has a place, and it is neither one of files nor a general
one. -/
def InReference (fault : Fault) : Prop :=
  (∃ place, fault.place = some place) ∧ fault.cause.kind ≠ .io ∧ fault.cause.kind ≠ .general

theorem inReference_of_page {page : Html.Document} (h : Page.HasFault page fault) :
    InReference fault := by
  cases h with
  | counts => exact ⟨⟨_, rfl⟩, by simp [Cause.kind], by simp [Cause.kind]⟩
  | row _ _ _ hflaw => cases hflaw <;> exact ⟨⟨_, rfl⟩, by simp [Cause.kind], by simp [Cause.kind]⟩

theorem inReference_of_listing (h : Listing.HasFault listing fault) : InReference fault := by
  obtain ⟨i, -, rfl⟩ := h
  exact ⟨⟨_, rfl⟩, by simp [Cause.kind], by simp [Cause.kind]⟩

theorem kind_of_unreadable (h : row.Unreadable cause) :
    cause.kind = .malformedOpcode ∨ cause.kind = .unknownAddressingMode ∨
      cause.kind = .invalidCycleCount := by
  cases h with
  | opcode => exact .inl rfl
  | label => exact .inr (.inl rfl)
  | cycles _ _ hcycles => exact .inr (.inr (Cycles.kind_of_read_eq_error hcycles))

theorem inReference_of_rows (h : HasFault rows fault) : InReference fault := by
  obtain ⟨hfirst, hrow, hcause⟩ := h
  refine ⟨⟨_, rfl⟩, ?_⟩
  cases hcause with
  | unreadable hunreadable =>
    rcases kind_of_unreadable hunreadable with hkind | hkind | hkind <;> simp [hkind]
  | duplicate => simp [Cause.kind]

theorem inReference_of_build (h : BuildFault page listing fault) : InReference fault := by
  cases h with
  | page h => exact inReference_of_page h
  | listing _ h => exact inReference_of_listing h
  | rows _ _ h => exact inReference_of_rows h

/-- **A malformed opcode behind the page** is one of the listing: those of the page have been
read. -/
theorem exists_of_malformedOpcode {page : Html.Document} {official unofficial : List Row}
    (hpage : Page.HasRows page official) (h : HasFault (official ++ unofficial) fault)
    (hkind : fault.cause.kind = .malformedOpcode) :
    ∃ row ∈ unofficial, fault = ⟨.malformedOpcode row.opcode, row.origin⟩ := by
  obtain ⟨-, hrow, hcause⟩ := h
  cases hcause with
  | duplicate => cases hkind
  | unreadable hunreadable =>
    cases hunreadable with
    | label => cases hkind
    | cycles _ _ hcycles => rw [Cycles.kind_of_read_eq_error hcycles] at hkind; cases hkind
    | opcode hnone =>
      refine ⟨_, ?_, rfl⟩
      rcases List.mem_append.1 (List.mem_of_getElem? hrow) with hofficial | hunofficial
      · obtain ⟨byte, hbyte⟩ := hpage.exists_byte _ hofficial
        rw [hnone] at hbyte
        cases hbyte
      · exact hunofficial

/-- **Which fault a build reports.**  Once both references are fetched, a build fails exactly with
the fault of the first pass that has one.  The fault always has a place and is of one of the six
kinds that concern references; a malformed opcode that is found when rows are merged stands in the
listing, and the places of the listing's rows are all different. -/
theorem build_reports_first_fault (hpage : (fetch .official).outcome = .ok page)
    (hlisting : (fetch .unofficial).outcome = .ok listing) :
    (∀ fault, (build fetch).outcome = .error fault ↔ BuildFault page listing fault) ∧
    (∀ fault, BuildFault page listing fault → ∃ place, fault.report.context = some place ∧
      fault.report.kind ∈ [FaultKind.structureMismatch, .malformedOpcode, .underrun,
        .unknownAddressingMode, .invalidCycleCount, .duplicateEncoding]) ∧
    (∀ official unofficial fault, Page.HasRows (Html.parse page.toList) official →
      Listing.HasRows listing unofficial → HasFault (official ++ unofficial) fault →
      fault.report.kind = .malformedOpcode →
        ∃ row ∈ unofficial, fault = ⟨.malformedOpcode row.opcode, row.origin⟩) ∧
    ∀ unofficial, Listing.HasRows listing unofficial → (unofficial.map (·.origin)).Nodup := by
  refine ⟨fun fault => outcome_build_eq_error hpage hlisting, fun fault hfault => ?_,
    fun official unofficial fault hofficial _ hfault hkind =>
      exists_of_malformedOpcode hofficial hfault hkind,
    fun unofficial hrows => hrows.nodup_origins⟩
  obtain ⟨⟨place, hplace⟩, hio, hgeneral⟩ := inReference_of_build hfault
  refine ⟨place, hplace, ?_⟩
  rw [Fault.report]
  cases hkind : fault.cause.kind <;> simp_all

/-- A page whose only row has an unknown mode. -/
def unknownModePage : String :=
  "<table></table><h3><a name=X></a></h3><table></table>"
    ++ "<table><tr><tr><td>M<td>$EA<td>1<td>-</table>"

/-- A listing whose only table has no heading. -/
def headlessListing : String := "Implied|NOP|$1A|1|2"

/-- The two are fetched without a fault. -/
def fetchHeadless (source : Source) : Traced String :=
  pure (if source = .official then unknownModePage else headlessListing)

/-- The listing fails before the rows of the page are merged, so its table without a heading is
reported and not the unknown mode on the page. -/
theorem build_reports_headlessListing : (build fetchHeadless).outcome
    = .error ⟨.headingsExhausted 1, some "unofficial reference line 1"⟩ := by
  have hpage : (fetchHeadless .official).outcome = .ok unknownModePage := rfl
  have hlisting : (fetchHeadless .unofficial).outcome = .ok headlessListing := rfl
  rw [(build_reports_first_fault hpage hlisting).1]
  have hread : (Page.rowsOf (Html.parse unknownModePage.toList)).outcome.toOption.isSome
      = true := by decide +kernel
  have hfault : (Listing.rows headlessListing).outcome
      = .error ⟨.headingsExhausted 1, some "unofficial reference line 1"⟩ := by rfl
  cases hrows : (Page.rowsOf (Html.parse unknownModePage.toList)).outcome with
  | error fault =>
    rw [hrows] at hread
    cases hread
  | ok rows =>
    exact .listing (Page.outcome_rowsOf_eq_ok.1 hrows) (Listing.outcome_rows_eq_error.1 hfault)

end InstructionSet

end OpcodeTable
