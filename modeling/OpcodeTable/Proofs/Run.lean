import OpcodeTable.Proofs.Session
import OpcodeTable.Proofs.Silent

/-!
# Proofs/Run — what a run leaves behind

A run works out a set and templates from the files as they are at its start (`MakesSet`,
`MakesTemplates`), and it either fails or does all that is asked for (`Ends`).  What that says of
the files, which change as the run goes on (`live`), is `live_all_or_nothing`: the output file is
created after everything that can fail and after everything that is read, so it may well be one of
the files read.  What it says of the output and the log is `live_quiet_loud`: the two are apart, and
only the log knows how much it is to tell.
-/

namespace OpcodeTable.Options

open Traced

variable {options : Options} {disk : Disk} {set : InstructionSet} {templates : Templates}

/-! ## What a run works out -/

/-- **The set a run works out** from what its two references hold. -/
def MakesSet (options : Options) (disk : Disk) (set : InstructionSet) : Prop :=
  ∃ page listing official unofficial,
    disk.readText options.official = .ok page ∧
    (Page.rows page).outcome = .ok official ∧
    disk.readText options.unofficial = .ok listing ∧
    (Listing.rows listing).outcome = .ok unofficial ∧
    (InstructionSet.ofRows (official ++ unofficial)).outcome = .ok set

/-- **The templates of a run**: those of the file that is asked for, or the defaults. -/
def MakesTemplates (options : Options) (disk : Disk) (templates : Templates) : Prop :=
  match options.templates with
  | none => templates = .default
  | some path => ∃ text, disk.readText path = .ok text ∧ Templates.ofText text = .ok templates

/-- **A run can do all it is asked for**, with this set and these templates. -/
structure Succeeds (options : Options) (disk : Disk) (set : InstructionSet)
    (templates : Templates) : Prop where
  makesSet : options.MakesSet disk set
  shows : ∀ opcode ∈ options.opcode, (set.byOpcode opcode).isSome
  makesTemplates : options.MakesTemplates disk templates
  creates : ∀ path ∈ options.out, disk.refusal path = none

/-- The line of the record that is asked for, if the set has it. -/
def recordLine (options : Options) (set : InstructionSet) : String :=
  match options.opcode.bind set.byOpcode with
  | some record => record.line ++ "\n"
  | none => ""

/-- What a run prints of the set: the whole set first, then one record. -/
def inspection (options : Options) (set : InstructionSet) : String :=
  (if options.list then set.listing else "") ++ options.recordLine set

/-- What a run prints that does all it is asked for. -/
def output (options : Options) (set : InstructionSet) (templates : Templates) : String :=
  if options.printsTable then templates.render set else options.inspection set

theorem outcome_fetch_eq_ok {source : Source} {text : String} :
    (options.fetch disk source).outcome = .ok text
      ↔ disk.readText (options.path source) = .ok text := by
  rw [fetch, bind_of_ok (outcome_notify _)]
  cases disk.readText (options.path source) <;> simp

theorem outcome_load_eq_ok {source : Source} {rows : List Row} :
    (source.load (options.fetch disk)).outcome = .ok rows ↔ ∃ text,
      disk.readText (options.path source) = .ok text ∧ (source.rows text).outcome = .ok rows := by
  simp only [Source.load, outcome_bind_eq_ok, outcome_fetch_eq_ok]
  simp

theorem outcome_build_eq_ok :
    (InstructionSet.build (options.fetch disk)).outcome = .ok set ↔ options.MakesSet disk set := by
  simp only [InstructionSet.build, outcome_bind_eq_ok, outcome_load_eq_ok, outcome_pure]
  constructor
  · rintro ⟨official, ⟨page, hpage, hofficial⟩, unofficial, ⟨listing, hlisting, hunofficial⟩, made,
      hset, -, -, hmade⟩
    obtain rfl := Except.ok.inj hmade
    exact ⟨page, listing, official, unofficial, hpage, hofficial, hlisting, hunofficial, hset⟩
  · rintro ⟨page, listing, official, unofficial, hpage, hofficial, hlisting, hunofficial, hset⟩
    exact ⟨official, ⟨page, hpage, hofficial⟩, unofficial, ⟨listing, hlisting, hunofficial⟩, set,
      hset, (), rfl, rfl⟩

theorem outcome_loadTemplates_eq_ok : (options.loadTemplates disk).outcome = .ok templates
    ↔ options.MakesTemplates disk templates := by
  rw [loadTemplates, MakesTemplates]
  cases options.templates with
  | none => simp [eq_comm]
  | some path =>
    simp only
    cases disk.readText path with
    | error error => simp
    | ok text => simp [outcome_bind_eq_ok, outcome_ofExcept_eq_ok]

/-- Whether the record that is asked for is there. -/
def lookupOutcome (options : Options) (set : InstructionSet) : Except Fault Unit :=
  match options.opcode with
  | none => .ok ()
  | some opcode =>
    if (set.byOpcode opcode).isSome then .ok () else .error ⟨.absentOpcode opcode, none⟩

theorem inspect_eq_of_not_list (h : options.list = false) :
    options.inspect set = ⟨[], options.recordLine set, options.lookupOutcome set⟩ := by
  rw [inspect, h, if_neg Bool.false_ne_true, recordLine, lookupOutcome]
  cases options.opcode with
  | none => rfl
  | some opcode =>
    simp only [Option.bind_some]
    cases set.byOpcode opcode <;> rfl

theorem inspect_eq_of_list (h : options.list = true) : options.inspect set = (do
    Traced.print set.listing
    { options with list := false }.inspect set) := by
  rw [inspect, h, if_pos rfl]
  rfl

/-- Looking into the set prints what is there, whether it fails or not. -/
theorem inspect_eq (options : Options) (set : InstructionSet) :
    options.inspect set = ⟨[], options.inspection set, options.lookupOutcome set⟩ := by
  rw [inspection]
  cases hlist : options.list with
  | false => rw [inspect_eq_of_not_list hlist, if_neg Bool.false_ne_true, String.empty_append]
  | true =>
    rw [inspect_eq_of_list hlist, inspect_eq_of_not_list rfl, if_pos rfl]
    rfl

theorem outcome_inspect_eq_ok : (options.inspect set).outcome = .ok ()
    ↔ ∀ opcode ∈ options.opcode, (set.byOpcode opcode).isSome := by
  rw [inspect_eq, lookupOutcome]
  cases options.opcode with
  | none => simp
  | some opcode => cases hrecord : set.byOpcode opcode <;> simp [hrecord]

theorem printed_inspect : (options.inspect set).printed = options.inspection set := by
  rw [inspect_eq]

theorem silent_fetch (source : Source) : Silent (options.fetch disk source) := by
  refine (silent_notify _).bind fun _ => ?_
  split
  · exact silent_pure _
  · exact silent_fail _ _

theorem silent_loadTemplates : Silent (options.loadTemplates disk) := by
  rw [loadTemplates]
  split
  · exact silent_pure _
  · split
    · exact silent_fail _ _
    · exact (silent_notify _).bind fun _ => silent_ofExcept _ _

/-! ## How a run can end -/

/-- **The ways a run can end**, with what it has printed: there is no set; the set is there, but
something else that is asked for is not; or all that is asked for is done. -/
inductive Ends (options : Options) (disk : Disk) : String → Except Fault (Option Creation) → Prop
  | unread {fault : Fault} (h : ∀ set, ¬ options.MakesSet disk set) :
      Ends options disk "" (.error fault)
  | stopped {fault : Fault} {set : InstructionSet} (hset : options.MakesSet disk set)
      (h : ∀ templates, ¬ options.Succeeds disk set templates) :
      Ends options disk (options.inspection set) (.error fault)
  | done {set : InstructionSet} {templates : Templates} (h : options.Succeeds disk set templates) :
      Ends options disk (options.output set templates)
        (.ok (options.out.map fun path => ⟨path, templates.render set⟩))

theorem MakesSet.eq {other : InstructionSet} (h : options.MakesSet disk set)
    (hother : options.MakesSet disk other) : set = other :=
  Except.ok.inj ((outcome_build_eq_ok.2 h).symm.trans (outcome_build_eq_ok.2 hother))

theorem MakesTemplates.eq {other : Templates} (h : options.MakesTemplates disk templates)
    (hother : options.MakesTemplates disk other) : templates = other :=
  Except.ok.inj
    ((outcome_loadTemplates_eq_ok.2 h).symm.trans (outcome_loadTemplates_eq_ok.2 hother))

/-- The last step of a run, once there are a set and templates. -/
def finish (options : Options) (disk : Disk) (text : String) : Traced (Option Creation) :=
  match options.out with
  | some path =>
    match disk.refusal path with
    | some error => Traced.fail (.file error)
    | none => do
      Traced.notify (.written path)
      return some ⟨path, text⟩
  | none => do
    if options.printsTable then
      Traced.print text
    return none

theorem scrape_eq (options : Options) (disk : Disk) : options.scrape disk = (do
    let set ← InstructionSet.build (options.fetch disk)
    options.inspect set
    let templates ← options.loadTemplates disk
    options.finish disk (templates.render set)) := rfl

theorem finish_of_none (h : options.out = none) (text : String) : options.finish disk text
    = ⟨[], if options.printsTable then text else "", .ok none⟩ := by
  rw [finish, h]
  cases options.printsTable with
  | false => rfl
  | true => exact congrArg (Traced.mk [] · _) (String.append_empty)

theorem finish_of_some {path : String} (h : options.out = some path) (text : String) :
    options.finish disk text = match disk.refusal path with
      | some error => ⟨[], "", .error ⟨.file error, none⟩⟩
      | none => ⟨[.written path], "", .ok (some ⟨path, text⟩)⟩ := by
  rw [finish, h]
  dsimp only
  split <;> rfl

/-- Where the table itself is printed, nothing else is. -/
theorem output_eq (options : Options) (set : InstructionSet) (templates : Templates) :
    options.output set templates = options.inspection set
      ++ if options.printsTable then templates.render set else "" := by
  rw [output]
  split
  · next hprints =>
    simp only [printsTable, Bool.and_eq_true, Option.isNone_iff_eq_none,
      Bool.not_eq_true'] at hprints
    simp [inspection, recordLine, hprints]
  · rw [String.append_empty]

theorem ends_finish (hset : options.MakesSet disk set)
    (hshows : ∀ opcode ∈ options.opcode, (set.byOpcode opcode).isSome)
    (htemplates : options.MakesTemplates disk templates) :
    Ends options disk
      (options.inspection set ++ (options.finish disk (templates.render set)).printed)
      (options.finish disk (templates.render set)).outcome := by
  have hdone (hcreates : ∀ path ∈ options.out, disk.refusal path = none) :=
    Ends.done ⟨hset, hshows, htemplates, hcreates⟩
  cases hout : options.out with
  | none =>
    rw [finish_of_none hout, ← output_eq]
    rw [hout] at hdone
    exact hdone fun path hpath => by cases hpath
  | some path =>
    have hprints : options.printsTable = false := by simp [printsTable, hout]
    rw [finish_of_some hout]
    cases hrefusal : disk.refusal path with
    | some error =>
      rw [String.append_empty]
      refine .stopped hset fun templates hall => ?_
      rw [hall.creates path hout] at hrefusal
      cases hrefusal
    | none =>
      rw [hout, output, hprints] at hdone
      rw [String.append_empty]
      refine hdone fun other hother => ?_
      obtain rfl := Option.some.inj hother
      exact hrefusal

/-- What is left of a run once there is a set. -/
theorem ends_of_makesSet (hset : options.MakesSet disk set) :
    let rest : Traced (Option Creation) := do
      options.inspect set
      let templates ← options.loadTemplates disk
      options.finish disk (templates.render set)
    Ends options disk rest.printed rest.outcome := by
  intro rest
  cases hinspect : (options.inspect set).outcome with
  | error fault =>
    rw [show rest = _ from bind_of_error hinspect _, printed_inspect]
    refine .stopped hset fun templates hall => ?_
    rw [outcome_inspect_eq_ok.2 hall.shows] at hinspect
    cases hinspect
  | ok _ =>
    have hshows := outcome_inspect_eq_ok.1 hinspect
    rw [show rest = _ from bind_of_ok hinspect _, printed_inspect]
    cases hload : (options.loadTemplates disk).outcome with
    | error fault =>
      rw [bind_of_error hload, silent_loadTemplates, String.append_empty]
      refine .stopped hset fun templates hall => ?_
      rw [outcome_loadTemplates_eq_ok.2 hall.makesTemplates] at hload
      cases hload
    | ok templates =>
      rw [bind_of_ok hload, silent_loadTemplates, String.empty_append]
      exact ends_finish hset hshows (outcome_loadTemplates_eq_ok.1 hload)

/-- **A run ends in one of these ways.** -/
theorem ends_scrape (options : Options) (disk : Disk) :
    options.Ends disk (options.scrape disk).printed (options.scrape disk).outcome := by
  have hsilent : Silent (InstructionSet.build (options.fetch disk)) :=
    InstructionSet.silent_build silent_fetch
  rw [scrape_eq]
  cases hbuild : (InstructionSet.build (options.fetch disk)).outcome with
  | error fault =>
    rw [bind_of_error hbuild, hsilent]
    refine .unread fun set hset => ?_
    rw [outcome_build_eq_ok.2 hset] at hbuild
    cases hbuild
  | ok set =>
    rw [bind_of_ok hbuild, hsilent, String.empty_append]
    exact ends_of_makesSet (outcome_build_eq_ok.1 hbuild)

/-- A run that fails was asked for something it cannot do. -/
theorem Ends.of_error {text : String} {fault : Fault} (h : Ends options disk text (.error fault)) :
    (∀ set templates, ¬ options.Succeeds disk set templates) ∧
      ((text = "" ∧ ∀ set, ¬ options.MakesSet disk set) ∨
        ∃ set, options.MakesSet disk set ∧ text = options.inspection set) := by
  cases h with
  | unread hnone => exact ⟨fun set _ hall => hnone set hall.makesSet, .inl ⟨rfl, hnone⟩⟩
  | stopped hset hstop =>
    refine ⟨fun other templates hall => ?_, .inr ⟨_, hset, rfl⟩⟩
    obtain rfl := hset.eq hall.makesSet
    exact hstop templates hall

theorem Ends.of_ok {text : String} {creation : Option Creation}
    (h : Ends options disk text (.ok creation)) : ∃ set templates,
      options.Succeeds disk set templates ∧ text = options.output set templates ∧
        creation = options.out.map fun path => ⟨path, templates.render set⟩ := by
  cases h with
  | done hall => exact ⟨_, _, hall, rfl, rfl⟩

theorem Succeeds.eq {other : InstructionSet} {others : Templates}
    (h : options.Succeeds disk set templates) (hother : options.Succeeds disk other others) :
    set = other ∧ templates = others :=
  ⟨h.makesSet.eq hother.makesSet, h.makesTemplates.eq hother.makesTemplates⟩

/-! ## What becomes of the files -/

variable {refusals : Refusals} {files : FileSystem}

theorem Succeeds.exists_target (h : options.Succeeds (refusals.disk files) set templates)
    {path : String} (hout : options.out = some path) :
    ∃ names, files.target path = .ok names := by
  have hrefusal := h.creates path hout
  simp only [Refusals.disk] at hrefusal
  cases htarget : refusals.target files path with
  | error error => rw [htarget] at hrefusal; cases hrefusal
  | ok names => exact ⟨names, (Refusals.target_eq_ok.1 htarget).2⟩

/-- **A run is all or nothing.**  It ends with exit code zero exactly where it can do all it is
asked for, with the files as they are at its start.  Otherwise, and where no file is asked for, the
files stay as they are.  Where one is asked for, this file alone changes, and it holds the table of
the set and the templates that the files of the start give, be it one of them or not. -/
theorem live_all_or_nothing (options : Options) (refusals : Refusals) (files : FileSystem) :
    ((options.live refusals files).1 = 0
      ↔ ∃ set templates, options.Succeeds (refusals.disk files) set templates) ∧
    ((options.live refusals files).1 ≠ 0 → (options.live refusals files).2.files = files) ∧
    (options.out = none → (options.live refusals files).2.files = files) ∧
    ∀ path set templates, options.out = some path →
      options.Succeeds (refusals.disk files) set templates →
        ∃ names, files.target path = .ok names ∧
          (∀ other, (options.live refusals files).2.files.find? other
            = if other = names then some (templates.render set).toUTF8 else files.find? other) ∧
          ∀ query, ((options.live refusals files).2.files.read query).toOption
            = if files.target query = .ok names then some (templates.render set).toUTF8
              else (files.read query).toOption := by
  have hends := options.ends_scrape (refusals.disk files)
  cases houtcome : (options.scrape (refusals.disk files)).outcome with
  | error fault =>
    rw [houtcome] at hends
    have hstop := hends.of_error.1
    rw [live_of_error houtcome]
    refine ⟨⟨nofun, fun ⟨set, templates, hall⟩ => (hstop set templates hall).elim⟩,
      fun _ => rfl, fun _ => rfl, fun _ set templates _ hall => (hstop set templates hall).elim⟩
  | ok creation =>
    rw [houtcome] at hends
    obtain ⟨set, templates, hall, -, rfl⟩ := hends.of_ok
    rw [live_of_ok houtcome]
    refine ⟨⟨fun _ => ⟨set, templates, hall⟩, fun _ => rfl⟩, fun h => absurd rfl h,
      fun hout => by rw [hout]; rfl, fun path other others hout hother => ?_⟩
    obtain ⟨rfl, rfl⟩ := hall.eq hother
    obtain ⟨names, htarget⟩ := hall.exists_target hout
    have hcreated : files.created (some ⟨path, templates.render set⟩)
        = files.insert names (templates.render set).toUTF8 := by
      rw [FileSystem.created, FileSystem.write, htarget]
    rw [hout, Option.map_some, hcreated]
    exact ⟨names, htarget, fun other => FileSystem.find?_insert ..,
      FileSystem.toOption_read_insert htarget _⟩

/-- A page with one row. -/
def nopPage : String :=
  "<table></table><h3><a name=NOP></a></h3><table></table>"
    ++ "<table><tr><tr><td>Implied<td>$EA<td>1<td>2</table>"

/-- Its row. -/
def nopRow : Row :=
  ⟨.official, "NOP", "$EA", "Implied", "1", "2", "official reference table NOP row 2"⟩

/-- The page in the directory of a run, and another file beside that directory. -/
def nopSystem : FileSystem where
  files := [(["work", "p"], nopPage.toUTF8), (["q"], "kept".toUTF8)]
  workingDirectory := ["work"]

/-- Three paths to the page: for both references and for the generated table. -/
def nopOptions : Options :=
  { official := "p", unofficial := "/work/p", out := some "../work/p" }

theorem target_nopSystem : ∀ path ∈ ["p", "../work/p"],
    nopSystem.target path = .ok ["work", "p"] := by decide +kernel

theorem readText_nopSystem : ∀ path ∈ ["p", "/work/p"],
    (({} : Refusals).disk nopSystem).readText path = .ok nopPage := by
  decide +kernel

/-- What the page gives, read as both references. -/
theorem makesSet_nopSystem {options : Options} (hofficial : options.official = "p")
    (hunofficial : options.unofficial = "/work/p") {set : InstructionSet}
    (hset : (InstructionSet.ofRows [nopRow]).outcome = .ok set) :
    options.MakesSet (({} : Refusals).disk nopSystem) set :=
  ⟨nopPage, nopPage, [nopRow], [], hofficial ▸ readText_nopSystem _ (by decide),
    by decide +kernel, hunofficial ▸ readText_nopSystem _ (by decide), by decide +kernel, hset⟩

/-- Its record. -/
def nopRecord : Record := ⟨"NOP", true, 0xEA, .implied, 1, 2, .none⟩

theorem exists_set_nopRow : ∃ set, (InstructionSet.ofRows [nopRow]).outcome = .ok set ∧
    set.records = [nopRecord] ∧ set.dispatch.length = 1 ∧ set.byOpcode 0xEA = some nopRecord := by
  have hset : (InstructionSet.ofRows [nopRow]).outcome.toOption.map
      (fun set => (set.records, set.dispatch.length, set.byOpcode 0xEA))
        = some ([nopRecord], 1, some nopRecord) := by decide +kernel
  cases h : (InstructionSet.ofRows [nopRow]).outcome with
  | error fault =>
    rw [h] at hset
    cases hset
  | ok set =>
    rw [h] at hset
    obtain ⟨hrecords, hrest⟩ := Prod.mk.inj (Option.some.inj hset)
    exact ⟨set, rfl, hrecords, Prod.mk.inj hrest⟩

/-- The page is written over only after it has been read twice, as page and as listing. -/
theorem live_all_or_nothing_nopOptions : ∃ set,
    (InstructionSet.ofRows [nopRow]).outcome = .ok set ∧ (nopOptions.live {} nopSystem).1 = 0 ∧
      ((nopOptions.live {} nopSystem).2.files.read "p").toOption
        = some (Templates.default.render set).toUTF8 ∧
      (nopOptions.live {} nopSystem).2.files.find? ["q"] = some "kept".toUTF8 := by
  obtain ⟨set, hset, -⟩ := exists_set_nopRow
  have hout : nopSystem.target "../work/p" = .ok ["work", "p"] := target_nopSystem _ (by decide)
  have hall : nopOptions.Succeeds (({} : Refusals).disk nopSystem) set .default :=
    { makesSet := makesSet_nopSystem rfl rfl hset
      shows := fun _ hopcode => by cases hopcode
      makesTemplates := rfl
      creates := fun path hpath => by
        obtain rfl := Option.some.inj hpath
        simp only [Refusals.disk, Refusals.target, hout] }
  obtain ⟨hzero, -, -, hcreated⟩ := live_all_or_nothing nopOptions {} nopSystem
  obtain ⟨names, htarget, hfind, hread⟩ := hcreated "../work/p" set .default rfl hall
  obtain rfl := Except.ok.inj (hout.symm.trans htarget)
  refine ⟨set, hset, hzero.2 ⟨set, .default, hall⟩, ?_, ?_⟩
  · rw [hread, if_pos (target_nopSystem _ (by decide))]
  · rw [hfind, if_neg (by decide)]
    decide +kernel

/-! ## What becomes of the output and the log -/

/-- The lines of notices. -/
def linesOf (notices : List Notice) : String :=
  String.join (notices.map fun notice => notice.line ++ "\n")

/-- What is left to say at the end of a run: the report of its fault, if it has one. -/
def lastWords (outcome : Except Fault (Option Creation)) : String :=
  match outcome with
  | .ok _ => ""
  | .error fault => fault.log

theorem logOf_true (notices : List Notice) : logOf true notices = linesOf notices := by
  have hall : notices.filter (fun notice => true || notice.level != .detail) = notices :=
    List.filter_eq_self.2 fun _ _ => rfl
  rw [logOf, hall, linesOf]

theorem logOf_false (notices : List Notice) :
    logOf false notices = linesOf (notices.filter fun notice => notice.level != .detail) := rfl

/-- **The whole set in print**, to the letter. -/
theorem listing_eq (set : InstructionSet) : set.listing =
    toString set.records.length ++ " opcodes, " ++ toString set.dispatch.length ++ " handlers:\n"
      ++ "\x1b[94mOP   NAME  MODE         SZ CY EXTRA        SOURCE\x1b[0m\n"
      ++ String.join (set.records.map fun record => record.line ++ "\n") := by
  have hheading : InstructionSet.heading ++ "\n"
      = "\x1b[94mOP   NAME  MODE         SZ CY EXTRA        SOURCE\x1b[0m\n" := by decide
  rw [InstructionSet.listing, ← hheading]
  simp only [String.append_assoc]
  rfl

theorem printsTable_eq_true : options.printsTable = true ↔
    options.out = none ∧ options.list = false ∧ options.opcode = none := by
  simp [printsTable, and_assoc]

/-- **The log never interferes.**  A run that is told to log details and one that is not end with
the same exit code, the same output and the same files.  Both log the notices of the run in their
order, the quiet one without the details, and then the report of the fault if there is one.  Nothing
of this is in the output: it holds the generated table where no file, no list and no opcode is asked
for, else the printed table where it is asked for, which is a line of counts, a heading and a line
for each record in order, and then the line of the record that is asked for.  A run that fails has
printed nothing if there is no set, and else as much of this as there is. -/
theorem live_quiet_loud (options : Options) (refusals : Refusals) (files : FileSystem) :
    let quiet := { options with verbose := false }.live refusals files
    let loud := { options with verbose := true }.live refusals files
    let planned := options.scrape (refusals.disk files)
    let table (set : InstructionSet) : String :=
      if options.list = true then
        toString set.records.length ++ " opcodes, " ++ toString set.dispatch.length
          ++ " handlers:\n"
          ++ "\x1b[94mOP   NAME  MODE         SZ CY EXTRA        SOURCE\x1b[0m\n"
          ++ String.join (set.records.map fun record => record.line ++ "\n")
      else ""
    let shown (set : InstructionSet) : String :=
      match options.opcode.bind set.byOpcode with
      | some record => record.line ++ "\n"
      | none => ""
    loud.1 = quiet.1 ∧ loud.2.stdout = quiet.2.stdout ∧ loud.2.files = quiet.2.files ∧
    loud.2.stderr = linesOf planned.notices ++ lastWords planned.outcome ∧
    quiet.2.stderr = linesOf (planned.notices.filter fun notice => notice.level != .detail)
      ++ lastWords planned.outcome ∧
    ((quiet.1 = 0 ∧ lastWords planned.outcome = "" ∧ ∃ set templates,
        options.Succeeds (refusals.disk files) set templates ∧
        quiet.2.stdout =
          if options.out = none ∧ options.list = false ∧ options.opcode = none then
            templates.render set
          else table set ++ shown set) ∨
      (quiet.1 = 1 ∧
        (∃ fault, planned.outcome = .error fault ∧ lastWords planned.outcome = fault.log) ∧
        (∀ set templates, ¬ options.Succeeds (refusals.disk files) set templates) ∧
        ((quiet.2.stdout = "" ∧ ∀ set, ¬ options.MakesSet (refusals.disk files) set) ∨
          ∃ set, options.MakesSet (refusals.disk files) set ∧
            quiet.2.stdout = table set ++ shown set))) := by
  intro quiet loud planned table shown
  have hinspection (set : InstructionSet) : options.inspection set = table set ++ shown set := by
    rw [inspection, listing_eq]
    rfl
  have houtput (set : InstructionSet) (templates : Templates) : options.output set templates =
      if options.out = none ∧ options.list = false ∧ options.opcode = none then templates.render set
      else table set ++ shown set := by
    rw [output, hinspection]
    simp only [printsTable_eq_true]
  have hends : options.Ends (refusals.disk files) planned.printed planned.outcome :=
    options.ends_scrape (refusals.disk files)
  cases houtcome : planned.outcome with
  | error fault =>
    have hquiet : quiet = (1, ⟨files, planned.printed, logOf false planned.notices ++ fault.log⟩) :=
      live_of_error houtcome
    have hloud : loud = (1, ⟨files, planned.printed, logOf true planned.notices ++ fault.log⟩) :=
      live_of_error houtcome
    rw [houtcome] at hends
    simp only [← hinspection]
    rw [hquiet, hloud, logOf_true, logOf_false]
    exact ⟨rfl, rfl, rfl, rfl, rfl, .inr ⟨rfl, ⟨fault, rfl, rfl⟩, hends.of_error⟩⟩
  | ok creation =>
    have hquiet : quiet
        = (0, ⟨files.created creation, planned.printed, logOf false planned.notices⟩) :=
      live_of_ok houtcome
    have hloud : loud
        = (0, ⟨files.created creation, planned.printed, logOf true planned.notices⟩) :=
      live_of_ok houtcome
    rw [houtcome] at hends
    obtain ⟨set, templates, hall, hprinted, -⟩ := hends.of_ok
    rw [hquiet, hloud, logOf_true, logOf_false]
    exact ⟨rfl, rfl, rfl, String.append_empty.symm, String.append_empty.symm,
      .inl ⟨rfl, rfl, set, templates, hall, hprinted.trans (houtput set templates)⟩⟩

/-- The whole set is asked for, and its record once more. -/
def listOptions : Options :=
  { official := "p", unofficial := "/work/p", opcode := some 0xEA, list := true }

/-- The counts, the heading, the record and the record again, however much is logged. -/
theorem live_quiet_loud_listOptions :
    let quiet := { listOptions with verbose := false }.live {} nopSystem
    let loud := { listOptions with verbose := true }.live {} nopSystem
    quiet.1 = 0 ∧ loud.1 = 0 ∧ loud.2.stdout = quiet.2.stdout ∧
      quiet.2.stdout = "1 opcodes, 1 handlers:\n"
        ++ "\x1b[94mOP   NAME  MODE         SZ CY EXTRA        SOURCE\x1b[0m\n"
        ++ "$EA  NOP   Implied       1  2 None         official\n"
        ++ "$EA  NOP   Implied       1  2 None         official\n" := by
  obtain ⟨set, hset, hrecords, hdispatch, hrecord⟩ := exists_set_nopRow
  have hall : listOptions.Succeeds (({} : Refusals).disk nopSystem) set .default :=
    { makesSet := makesSet_nopSystem rfl rfl hset
      shows := fun opcode hopcode => by
        obtain rfl := Option.some.inj hopcode
        rw [hrecord]
        rfl
      makesTemplates := rfl
      creates := fun _ hpath => by cases hpath }
  dsimp only
  obtain ⟨hcode, hsame, -, -, -, hrun⟩ := live_quiet_loud listOptions {} nopSystem
  rcases hrun with ⟨hzero, -, other, templates, hother, hstdout⟩ | ⟨-, -, hnone, -⟩
  · obtain rfl := (hall.eq hother).1
    have hshown : listOptions.opcode.bind set.byOpcode = some nopRecord := hrecord
    refine ⟨hzero, hcode.trans hzero, hsame, hstdout.trans ?_⟩
    rw [if_neg (by decide)]
    simp only [hshown, hrecords, hdispatch]
    decide +kernel
  · exact absurd hall (hnone set .default)

end OpcodeTable.Options
