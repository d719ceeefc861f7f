import OpcodeTable.Proofs.FileStore
import OpcodeTable.Proofs.Traced
import OpcodeTable.Session

/-!
# Proofs/Session — a run as it happens has the outcome foreseen

Up to the end of a run the files are only read, so each of its steps goes as it would on the answers
given at the start (`Mirrors`).  At the end a file is created and written line by line, which comes
to the same as writing the whole table at once (`fulfils_create`).  Step by step the run is then
what `Options.scrape` foresees (`fulfils_perform`, `live_eq_outcome`).
-/

namespace OpcodeTable

variable {α β γ : Type} {verbose : Bool}

/-! ## The log -/

theorem logOf_append (verbose : Bool) (notices later : List Notice) :
    logOf verbose (notices ++ later) = logOf verbose notices ++ logOf verbose later := by
  rw [logOf, List.filter_append, List.map_append, String.join_append]
  rfl

/-- The world once notices were given and a text was printed. -/
def World.tell (verbose : Bool) (notices : List Notice) (text : String) (world : World) : World :=
  ⟨world.files, world.stdout ++ text, world.stderr ++ logOf verbose notices⟩

@[simp] theorem World.tell_nil (world : World) : world.tell verbose [] "" = world := by
  simp [tell, logOf]

theorem World.tell_tell (world : World) (notices later : List Notice) (text more : String) :
    (world.tell verbose notices text).tell verbose later more
      = world.tell verbose (notices ++ later) (text ++ more) := by
  simp [tell, logOf_append, String.append_assoc]

theorem Refusals.target_eq_ok {refusals : Refusals} {files : FileSystem} {path : String}
    {names : List String} : refusals.target files path = .ok names
      ↔ refusals.toCreate path = none ∧ files.target path = .ok names := by
  rw [Refusals.target]
  cases refusals.toCreate path <;> simp

namespace Session

/-! ## Running in sequence -/

theorem exec_pure (value : α) (world : World) : exec (pure value) world = (.ok value, world) := rfl

theorem exec_get (world : World) : exec get world = (.ok world, world) := rfl

theorem exec_bind_of_ok {first : Session α} {value : α} {world later : World}
    (h : exec first world = (.ok value, later)) (next : α → Session β) :
    exec (first >>= next) world = exec (next value) later := by
  simp only [exec, ExceptT.run_bind, StateT.run_bind] at h ⊢
  rw [h]
  rfl

theorem exec_bind_of_error {first : Session α} {fault : Fault} {world later : World}
    (h : exec first world = (.error fault, later)) (next : α → Session β) :
    exec (first >>= next) world = (.error fault, later) := by
  simp only [exec, ExceptT.run_bind, StateT.run_bind] at h ⊢
  rw [h]
  rfl

theorem exec_say (notice : Notice) (world : World) :
    exec (say verbose notice) world = (.ok (), world.tell verbose [notice] "") := by
  by_cases htold : (verbose || notice.level != .detail) = true
  · simp [say, World.tell, logOf, htold]
    rfl
  · simp [say, World.tell, logOf, htold]
    rfl

theorem exec_print (text : String) (world : World) :
    exec (print text) world = (.ok (), world.tell verbose [] text) := by
  simp [World.tell, logOf]
  rfl

theorem exec_forM_say (notices : List Notice) (world : World) :
    exec (notices.forM (say verbose)) world = (.ok (), world.tell verbose notices "") := by
  rw [List.forM_eq_forM]
  induction notices generalizing world with
  | nil => rw [World.tell_nil]; rfl
  | cons notice rest ih =>
    rw [List.forM_cons, exec_bind_of_ok (exec_say notice world), ih, World.tell_tell]
    rfl

/-- **A computation that leaves the files alone** is heard in the log and on the output. -/
theorem exec_replay (traced : Traced α) (world : World) :
    exec (replay verbose traced) world
      = (traced.outcome, world.tell verbose traced.notices traced.printed) := by
  rw [replay, exec_bind_of_ok (exec_forM_say _ _), exec_bind_of_ok (exec_print _ _),
    World.tell_tell, List.append_nil, String.empty_append]
  cases traced.outcome <;> rfl

/-! ## Writing line by line -/

/-- The text of lines, each of which is ended. -/
def ended (lines : List String) : String := String.join (lines.map (· ++ "\n"))

theorem ended_parts (templates : Templates) (set : InstructionSet) :
    ended (templates.parts set) = templates.render set := rfl

theorem ended_cons (line : String) (rest : List String) :
    ended (line :: rest) = line ++ "\n" ++ ended rest := String.join_cons

theorem exec_forM_print (lines : List String) (world : World) :
    exec (forM lines fun line => print (line ++ "\n")) world
      = (.ok (), world.tell verbose [] (ended lines)) := by
  induction lines generalizing world with
  | nil => exact Prod.ext rfl (World.tell_nil world).symm
  | cons line rest ih =>
    rw [List.forM_cons, exec_bind_of_ok (exec_print _ world), ih, World.tell_tell, ended_cons]
    rfl

/-- **A line more** stands behind what the file holds. -/
theorem exec_append (names : List String) (text : String) (system : FileSystem)
    (content : ByteArray) (stdout stderr : String) :
    exec (append names text) ⟨system.insert names content, stdout, stderr⟩
      = (.ok (), ⟨system.insert names (content ++ text.toUTF8), stdout, stderr⟩) := by
  have hfind : (system.insert names content).find? names = some content := by
    rw [FileSystem.find?_insert, if_pos rfl]
  have hrun : exec (append names text) ⟨system.insert names content, stdout, stderr⟩
      = (.ok (), ⟨(system.insert names content).insert names
        (((system.insert names content).find? names).getD .empty ++ text.toUTF8), stdout, stderr⟩) :=
    rfl
  rw [hrun, hfind, FileSystem.insert_insert]
  rfl

/-- **Lines written one after the other** to a file stand there in one piece. -/
theorem exec_forM_append (names : List String) (lines : List String) (system : FileSystem)
    (content : ByteArray) (stdout stderr : String) :
    exec (forM lines fun line => append names (line ++ "\n"))
        ⟨system.insert names content, stdout, stderr⟩
      = (.ok (), ⟨system.insert names (content ++ (ended lines).toUTF8), stdout, stderr⟩) := by
  induction lines generalizing content with
  | nil =>
    have hempty : content ++ (ended []).toUTF8 = content := ByteArray.append_empty
    rw [hempty]
    rfl
  | cons line rest ih =>
    have hbytes : content ++ (line ++ "\n").toUTF8 ++ (ended rest).toUTF8
        = content ++ (ended (line :: rest)).toUTF8 := by
      rw [ended_cons, ByteArray.append_assoc, String.toUTF8_eq_toByteArray,
        String.toUTF8_eq_toByteArray, String.toUTF8_eq_toByteArray, ← String.toByteArray_append]
    rw [List.forM_cons, exec_bind_of_ok (exec_append names _ system content stdout stderr), ih,
      hbytes]

end Session

/-! ## What is foreseen -/

namespace Session

/-- **A part of a run goes as foreseen**: on these files it has the same outcome, the same notices
and the same text, and the files stay as they are. -/
def Mirrors (verbose : Bool) (files : FileSystem) (session : Session α) (traced : Traced α) : Prop :=
  ∀ world : World, world.files = files →
    session.exec world = (traced.outcome, world.tell verbose traced.notices traced.printed)

/-- **A run ends as foreseen**: as before, and the file that comes with the value is created. -/
def Fulfils (verbose : Bool) (files : FileSystem) (session : Session Unit)
    (traced : Traced (Option Creation)) : Prop :=
  ∀ world : World, world.files = files →
    session.exec world = (traced.outcome.map fun _ => (), {
      world.tell verbose traced.notices traced.printed with
      files := files.created traced.outcome.toOption.join })

variable {refusals : Refusals} {files : FileSystem} {templates : Templates} {set : InstructionSet}

theorem mirrors_replay (traced : Traced α) :
    Mirrors verbose files (replay verbose traced) traced :=
  fun world _ => exec_replay traced world

theorem mirrors_consult (query : Disk → Traced α) :
    Mirrors verbose files (consult refusals verbose query) (query (refusals.disk files)) := by
  rintro world rfl
  rw [consult, exec_bind_of_ok (exec_get world)]
  exact exec_replay (query (refusals.disk world.files)) world

theorem mirrors_say (notice : Notice) :
    Mirrors verbose files (say verbose notice) (Traced.notify notice) :=
  fun world _ => exec_say notice world

/-- What goes as foreseen and then ends as foreseen ends as foreseen. -/
theorem Mirrors.bind {first : Session α} {traced : Traced α} {next : α → Session Unit}
    {plan : α → Traced (Option Creation)} (hfirst : Mirrors verbose files first traced)
    (hnext : ∀ value, Fulfils verbose files (next value) (plan value)) :
    Fulfils verbose files (first >>= next) (traced >>= plan) := by
  rintro world rfl
  have hrun := hfirst world rfl
  cases houtcome : traced.outcome with
  | error fault =>
    rw [houtcome] at hrun
    rw [exec_bind_of_error hrun, Traced.bind_of_error houtcome]
    rfl
  | ok value =>
    rw [houtcome] at hrun
    have hlater := hnext value (world.tell verbose traced.notices traced.printed) rfl
    rw [exec_bind_of_ok hrun, Traced.bind_of_ok houtcome, hlater, World.tell_tell]

/-! ## The end of a run -/

/-- Nothing more is done where no file is asked for and no table is printed. -/
theorem fulfils_pure : Fulfils verbose files (pure ()) (pure none) := by
  rintro world rfl
  rw [exec_pure]
  simp only [Traced.notices_pure, Traced.printed_pure, Traced.outcome_pure, World.tell_nil]
  rfl

theorem mirrors_emit_print : Mirrors verbose files (emit print templates set)
    (Traced.print (templates.render set)) := by
  intro world _
  rw [emit, List.forM_eq_forM, exec_forM_print, ended_parts]
  rfl

/-- The table goes to the output where no file is asked for. -/
theorem fulfils_print : Fulfils verbose files (emit print templates set) (do
    Traced.print (templates.render set)
    return none) := by
  have hprint : Fulfils verbose files (emit print templates set >>= fun _ => pure ()) _ :=
    mirrors_emit_print.bind fun _ => fulfils_pure
  rwa [bind_pure_unit] at hprint

theorem exec_create_of_error {path : String} {error : FileError} {world : World}
    (h : refusals.target world.files path = .error error) :
    exec (create refusals path) world = (.error ⟨.file error, none⟩, world) := by
  rw [create, exec_bind_of_ok (exec_get world)]
  simp only [h]
  rfl

theorem exec_create_of_ok {path : String} {names : List String} {world : World}
    (h : refusals.target world.files path = .ok names) :
    exec (create refusals path) world
      = (.ok names, { world with files := world.files.insert names .empty }) := by
  rw [create, exec_bind_of_ok (exec_get world)]
  simp only [h]
  rfl

theorem exec_emit_append (names : List String) (system : FileSystem) (stdout stderr : String) :
    exec (emit (append names) templates set) ⟨system.insert names .empty, stdout, stderr⟩
      = (.ok (), ⟨system.insert names (templates.render set).toUTF8, stdout, stderr⟩) := by
  have hrun := exec_forM_append names (templates.parts set) system .empty stdout stderr
  rw [ByteArray.empty_append, ended_parts] at hrun
  exact hrun

/-- **Creating the output file and writing it line by line** leaves it with the whole table; where
it is refused nothing happens. -/
theorem fulfils_create (path : String) :
    Fulfils verbose files
      (do
        let names ← create refusals path
        emit (append names) templates set
        say verbose (.written path))
      (match (refusals.disk files).refusal path with
        | some error => Traced.fail (.file error)
        | none => do
          Traced.notify (.written path)
          return some ⟨path, templates.render set⟩) := by
  rintro world rfl
  cases htarget : refusals.target world.files path with
  | error error =>
    have hrefusal : (refusals.disk world.files).refusal path = some error := by
      simp only [Refusals.disk, htarget]
    rw [exec_bind_of_error (exec_create_of_error htarget), hrefusal]
    exact Prod.ext rfl (World.tell_nil world).symm
  | ok names =>
    have hrefusal : (refusals.disk world.files).refusal path = none := by
      simp only [Refusals.disk, htarget]
    have hcreated : world.files.created (some ⟨path, templates.render set⟩)
        = world.files.insert names (templates.render set).toUTF8 := by
      rw [FileSystem.created, FileSystem.write, Refusals.target_eq_ok.1 htarget |>.2]
    rw [exec_bind_of_ok (exec_create_of_ok htarget), exec_bind_of_ok (exec_emit_append ..),
      exec_say, hrefusal, ← hcreated]
    rfl

end Session

namespace Options

open Session

/-- **A run goes as foreseen**, from the first file read to the file created. -/
theorem fulfils_perform (options : Options) (refusals : Refusals) (files : FileSystem) :
    Fulfils options.verbose files (options.perform refusals)
      (options.scrape (refusals.disk files)) := by
  -- with the sequences flattened both sides take the same steps, the last of which creates the file
  simp only [perform, scrape, InstructionSet.build, bind_assoc, pure_bind]
  refine (mirrors_consult _).bind fun official => ?_
  refine (mirrors_consult _).bind fun unofficial => ?_
  refine (mirrors_replay _).bind fun set => ?_
  refine (mirrors_say _).bind fun _ => ?_
  refine (mirrors_replay _).bind fun _ => ?_
  refine (mirrors_consult _).bind fun templates => ?_
  cases options.out with
  | some path => exact fulfils_create path
  | none =>
    dsimp only
    split
    · exact fulfils_print
    · exact fulfils_pure

variable {options : Options} {refusals : Refusals} {files : FileSystem}

/-- A run that fails leaves the files as they were. -/
theorem live_of_error {fault : Fault}
    (h : (options.scrape (refusals.disk files)).outcome = .error fault) :
    options.live refusals files = (1, ⟨files, (options.scrape (refusals.disk files)).printed,
      logOf options.verbose (options.scrape (refusals.disk files)).notices ++ fault.log⟩) := by
  rw [live, fulfils_perform options refusals files { files } rfl, h]
  simp [World.tell, FileSystem.created, Except.map, Except.toOption]

/-- A run that does not fail creates the file it has planned. -/
theorem live_of_ok {creation : Option Creation}
    (h : (options.scrape (refusals.disk files)).outcome = .ok creation) :
    options.live refusals files
      = (0, ⟨files.created creation, (options.scrape (refusals.disk files)).printed,
        logOf options.verbose (options.scrape (refusals.disk files)).notices⟩) := by
  rw [live, fulfils_perform options refusals files { files } rfl, h]
  simp [World.tell, Except.map, Except.toOption]

/-- **What a run leaves behind is the outcome foreseen** from what is answered about the files at
its start. -/
theorem live_eq_outcome (options : Options) (refusals : Refusals) (files : FileSystem) :
    options.live refusals files =
      let outcome := options.outcome (refusals.disk files)
      (outcome.exitCode, ⟨files.created outcome.creation, outcome.stdout, outcome.stderr⟩) := by
  rw [outcome]
  cases houtcome : (options.scrape (refusals.disk files)).outcome with
  | error fault => rw [live_of_error houtcome]; rfl
  | ok creation => rw [live_of_ok houtcome]

/-- **A run in a directory of its own** has the outcome of its options on the files there, and a run
that fails leaves these as they were. -/
theorem live_mounted (options : Options) (store : FileStore) :
    let run := options.live {} store.mounted
    let outcome := options.outcome store.disk
    run.1 = outcome.exitCode ∧ run.2.stdout = outcome.stdout ∧ run.2.stderr = outcome.stderr ∧
      run.2.files.below = outcome.filesAfter store ∧
      (run.1 ≠ 0 → outcome.filesAfter store = store) := by
  intro run outcome
  have hrun : run = (outcome.exitCode,
      ⟨store.mounted.created outcome.creation, outcome.stdout, outcome.stderr⟩) :=
    live_eq_outcome options {} store.mounted
  rw [hrun]
  refine ⟨rfl, rfl, rfl, rfl, fun hfails => ?_⟩
  have hcreation : outcome.creation = none := by
    simp only [outcome, Options.outcome] at hfails ⊢
    split
    · next hok => rw [hok] at hfails; exact absurd rfl hfails
    · rfl
  rw [Outcome.filesAfter, hcreation, FileSystem.created, FileStore.below_mounted]

end Options

end OpcodeTable
