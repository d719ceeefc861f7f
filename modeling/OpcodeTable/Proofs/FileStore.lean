import Mathlib.Data.List.Induction
import OpcodeTable.FileStore

/-!
# Proofs/FileStore — what changes when a file is written

Inserting a file changes what stands at its names and nothing else (`find?_insert`,
`spotAt_insert`): it is put into a directory that is there before, so no directory comes or goes.
Paths then lead where they led before, and of all paths only those that create or replace this very
file are read anew (`toOption_read_insert`).
-/

namespace OpcodeTable

variable {store : FileStore} {system : FileSystem} {names other : List String}
  {content later : ByteArray} {name path : String}

namespace FileStore

/-! ## One file more -/

/-- A file of the store, with the content given if it has the names given. -/
def replaced (names : List String) (content : ByteArray) (file : List String × ByteArray) :
    List String × ByteArray :=
  if file.1 == names then (names, content) else file

theorem insert_of_any (h : store.files.any (·.1 == names) = true) (content : ByteArray) :
    store.insert names content = ⟨store.files.map (replaced names content)⟩ := if_pos h

theorem insert_of_not_any (h : ¬ store.files.any (·.1 == names) = true) (content : ByteArray) :
    store.insert names content = ⟨store.files ++ [(names, content)]⟩ := if_neg h

theorem replaced_of_ne {file : List String × ByteArray} (h : ¬ file.1 = names) :
    replaced names content file = file := if_neg fun heq => h (eq_of_beq heq)

@[simp] theorem fst_replaced (file : List String × ByteArray) :
    (replaced names content file).1 = file.1 := by
  rw [replaced]
  split
  · next h => exact (eq_of_beq h).symm
  · rfl

theorem snd_replaced (file : List String × ByteArray) :
    (replaced names content file).2 = if file.1 = names then content else file.2 := by
  rw [replaced]
  simp only [beq_iff_eq]
  split <;> rfl

theorem find?_eq_none_of_not_any (h : ¬ store.files.any (·.1 == names) = true) :
    store.files.find? (·.1 == names) = none := by
  rw [List.find?_eq_none]
  exact fun file hfile hname => h (List.any_eq_true.2 ⟨file, hfile, hname⟩)

/-- **A file inserted is found**, and every other as before. -/
theorem find?_insert (store : FileStore) (names other : List String) (content : ByteArray) :
    (store.insert names content).find? other
      = if other = names then some content else store.find? other := by
  by_cases hany : store.files.any (·.1 == names) = true
  · have hkeys : ((·.1 == other) ∘ replaced names content) = (·.1 == other) :=
      funext fun file => by rw [Function.comp_apply, fst_replaced]
    rw [insert_of_any hany, find?, find?, List.find?_map, hkeys]
    cases hfind : store.files.find? (·.1 == other) with
    | none =>
      have hne : ¬ other = names := by
        rintro rfl
        obtain ⟨file, hfile, hname⟩ := List.any_eq_true.1 hany
        exact List.find?_eq_none.1 hfind file hfile hname
      rw [if_neg hne]
      rfl
    | some file =>
      have hfound := List.find?_some hfind
      have hname : file.1 = other := eq_of_beq hfound
      simp only [Option.map_some, snd_replaced, hname]
      split <;> rfl
  · rw [insert_of_not_any hany, find?, find?, List.find?_append]
    by_cases hother : other = names
    · subst hother
      rw [find?_eq_none_of_not_any hany]
      simp
    · have hne : (names == other) = false := beq_eq_false_iff_ne.2 fun heq => hother heq.symm
      simp [hother, hne]

/-- Of two contents given to a file in turn the later stays. -/
theorem insert_insert (store : FileStore) (names : List String) (content later : ByteArray) :
    (store.insert names content).insert names later = store.insert names later := by
  have htwice : replaced names later ∘ replaced names content = replaced names later := by
    funext file
    by_cases hfile : file.1 = names
    · simp [replaced, hfile]
    · rw [Function.comp_apply, replaced_of_ne hfile]
  by_cases hany : store.files.any (·.1 == names) = true
  · have hstill : (store.files.map (replaced names content)).any (·.1 == names) = true := by
      simpa only [List.any_map, Function.comp_def, fst_replaced] using hany
    rw [insert_of_any hany, insert_of_any hstill, insert_of_any hany, List.map_map, htwice]
  · -- no file has the names yet, so only the new one is replaced
    have hothers : store.files.map (replaced names later) = store.files := by
      refine (List.map_congr_left fun file hfile => ?_).trans (List.map_id _)
      exact replaced_of_ne fun hname =>
        hany (List.any_eq_true.2 ⟨file, hfile, beq_iff_eq.2 hname⟩)
    rw [insert_of_not_any hany, insert_of_not_any hany, insert_of_any (by simp), List.map_append,
      hothers]
    simp [replaced]

end FileStore

namespace FileSystem

variable {spot next : Spot}

/-! ## Directories and what stands in them -/

@[simp] theorem workingDirectory_insert :
    (system.insert names content).workingDirectory = system.workingDirectory := rfl

theorem files_insert :
    (system.insert names content).files = (system.toFileStore.insert names content).files := rfl

theorem find?_insert (system : FileSystem) (names other : List String) (content : ByteArray) :
    (system.insert names content).find? other
      = if other = names then some content else system.find? other :=
  FileStore.find?_insert system.toFileStore names other content

theorem insert_insert (system : FileSystem) (names : List String) (content later : ByteArray) :
    (system.insert names content).insert names later = system.insert names later := by
  rw [insert, insert, insert, FileStore.insert_insert]

/-- **Whether a file can stand at the names**: in a directory, and where none is. -/
structure Takes (system : FileSystem) (names : List String) : Prop where
  below : system.isDirectory names.dropLast = true
  free : system.find? names = none → system.isDirectory names = false

theorem isDirectory_iff : system.isDirectory names = true ↔ names <+: system.workingDirectory ∨
    ∃ file ∈ system.files, names <+: file.1 ∧ names.length ≠ file.1.length := by
  simp only [isDirectory, Bool.or_eq_true, List.any_eq_true, Bool.and_eq_true,
    List.isPrefixOf_iff_prefix, bne_iff_ne, ne_eq]

/-- The directories on the way to a directory. -/
theorem isDirectory_ancestor (hfront : other <+: names) (h : system.isDirectory names = true) :
    system.isDirectory other = true := by
  rw [isDirectory_iff] at h ⊢
  rcases h with hway | ⟨file, hfile, hbelow, hlength⟩
  · exact .inl (hfront.trans hway)
  · have hle := hfront.length_le
    have hle' := hbelow.length_le
    exact .inr ⟨file, hfile, hfront.trans hbelow, by omega⟩

/-- What lies on the way to the last of the names lies on the way to the directory of it. -/
theorem prefix_dropLast (h : other <+: names) (hlength : other.length ≠ names.length) :
    other <+: names.dropLast := by
  cases names using List.reverseRecOn with
  | nil => exact h
  | append_singleton before last =>
    rw [List.dropLast_concat]
    rcases List.prefix_concat_iff.1 h with rfl | hbefore
    · exact absurd rfl hlength
    · exact hbefore

/-- **No directory comes or goes** when a file is put where it can stand. -/
theorem isDirectory_insert (h : system.Takes names) (content : ByteArray) (other : List String) :
    (system.insert names content).isDirectory other = system.isDirectory other := by
  by_cases hany : system.files.any (·.1 == names) = true
  · simp only [isDirectory, workingDirectory_insert, files_insert, FileStore.insert_of_any hany,
      List.any_map, Function.comp_def, FileStore.fst_replaced]
  · rw [Bool.eq_iff_iff, isDirectory_iff, isDirectory_iff, workingDirectory_insert, files_insert,
      FileStore.insert_of_not_any hany]
    constructor
    · rintro (hway | ⟨file, hfile, hbelow, hlength⟩)
      · exact .inl hway
      · rcases List.mem_append.1 hfile with hfile | hfile
        · exact .inr ⟨file, hfile, hbelow, hlength⟩
        · obtain rfl := List.mem_singleton.1 hfile
          exact isDirectory_iff.1 (isDirectory_ancestor (prefix_dropLast hbelow hlength) h.below)
    · rintro (hway | ⟨file, hfile, hbelow, hlength⟩)
      · exact .inl hway
      · exact .inr ⟨file, List.mem_append_left _ hfile, hbelow, hlength⟩

/-- What stands where a spot is once a file is inserted. -/
def Spot.filled (names : List String) (content : ByteArray) : Spot → Spot
  | .file other old => if other = names then .file names content else .file other old
  | .vacant other => if other = names then .file names content else .vacant other
  | .directory other => .directory other

/-- **Only at its own names** something else stands once a file is inserted. -/
theorem spotAt_insert (h : system.Takes names) (content : ByteArray) (other : List String) :
    (system.insert names content).spotAt other = (system.spotAt other).filled names content := by
  simp only [spotAt, find?_insert, isDirectory_insert h]
  by_cases hother : other = names
  · subst hother
    simp only [if_true]
    cases hfind : system.find? other with
    | some old => simp [Spot.filled]
    | none => simp [Spot.filled, h.free hfind]
  · simp only [if_neg hother]
    cases system.find? other with
    | some old => simp [Spot.filled, hother]
    | none => cases system.isDirectory other <;> simp [Spot.filled, hother]

/-! ## The ways to a file -/

/-- The names of a file that is or can be created at the spot. -/
def Spot.place? : Spot → Option (List String)
  | .file names _ | .vacant names => some names
  | .directory _ => none

/-- The content of the file at the spot. -/
def Spot.content? : Spot → Option ByteArray
  | .file _ content => some content
  | .vacant _ | .directory _ => none

/-- **A spot is as the file system says.** -/
def Stands (system : FileSystem) : Spot → Prop
  | .directory names => system.isDirectory names = true
  | .file names content => system.spotAt names = .file names content ∧ system.Takes names
  | .vacant names => system.spotAt names = .vacant names ∧ system.Takes names

/-- What stands below a directory. -/
theorem stands_spotAt (h : system.isDirectory names = true) (name : String) :
    system.Stands (system.spotAt (names ++ [name])) := by
  have hbelow : system.isDirectory (names ++ [name]).dropLast = true := by
    rwa [List.dropLast_concat]
  cases hfind : system.find? (names ++ [name]) with
  | some content =>
    have hspot : system.spotAt (names ++ [name]) = .file (names ++ [name]) content := by
      rw [spotAt, hfind]
    rw [hspot]
    exact ⟨hspot, hbelow, fun hnone => by rw [hfind] at hnone; cases hnone⟩
  | none =>
    cases hdirectory : system.isDirectory (names ++ [name]) with
    | true =>
      have hspot : system.spotAt (names ++ [name]) = .directory (names ++ [name]) := by
        simp [spotAt, hfind, hdirectory]
      rw [hspot]
      exact hdirectory
    | false =>
      have hspot : system.spotAt (names ++ [name]) = .vacant (names ++ [name]) := by
        simp [spotAt, hfind, hdirectory]
      rw [hspot]
      exact ⟨hspot, hbelow, fun _ => hdirectory⟩

/-- A step is taken from a directory only. -/
theorem place?_of_step (h : system.step spot name = .ok next) : spot.place? = none := by
  cases spot with
  | file | vacant => cases h
  | directory => rfl

theorem stands_step (hspot : system.Stands spot) (h : system.step spot name = .ok next) :
    system.Stands next := by
  cases spot with
  | file | vacant => cases h
  | directory names =>
    simp only [step] at h
    split_ifs at h with hstays hup hlong
    · cases h
      exact hspot
    · cases h
      exact isDirectory_ancestor (List.dropLast_prefix names) hspot
    · cases h
      exact stands_spotAt hspot name

theorem stands_foldlM : ∀ {parts : List String} {spot next : Spot}, system.Stands spot →
    parts.foldlM system.step spot = .ok next → system.Stands next := by
  intro parts
  induction parts with
  | nil =>
    intro spot next hspot h
    cases h
    exact hspot
  | cons name rest ih =>
    intro spot next hspot h
    rw [List.foldlM_cons] at h
    cases hstep : system.step spot name with
    | error error => rw [hstep] at h; cases h
    | ok middle =>
      rw [hstep] at h
      exact ih (stands_step hspot hstep) h

/-- **Where a path leads is as the file system says.** -/
theorem stands_follow {parts : List String} (h : system.follow parts = .ok spot) :
    system.Stands spot := by
  refine stands_foldlM ?_ h
  refine isDirectory_iff.2 (.inl ?_)
  split
  · exact List.nil_prefix
  · exact List.prefix_refl _

/-- **A step from a spot leads where it led before**, but for the file that is new there. -/
theorem toOption_step_insert (h : system.Takes names) (content : ByteArray) (spot : Spot)
    (name : String) : ((system.insert names content).step (spot.filled names content) name).toOption
      = (system.step spot name).toOption.map (Spot.filled names content) := by
  cases spot with
  | file other old | vacant other =>
    simp only [Spot.filled]
    split <;> rfl
  | directory other =>
    simp only [Spot.filled, step]
    split_ifs <;> simp [Except.toOption, Spot.filled, spotAt_insert h]

theorem toOption_foldlM_insert (h : system.Takes names) (content : ByteArray) :
    ∀ (parts : List String) (spot : Spot),
      (parts.foldlM (system.insert names content).step (spot.filled names content)).toOption
        = (parts.foldlM system.step spot).toOption.map (Spot.filled names content) := by
  intro parts
  induction parts with
  | nil => intro spot; rfl
  | cons name rest ih =>
    intro spot
    have hstep := toOption_step_insert h content spot name
    rw [List.foldlM_cons, List.foldlM_cons]
    -- both take the step or neither does; why it is refused may differ
    cases hold : system.step spot name with
    | error error =>
      cases hnew : (system.insert names content).step (spot.filled names content) name with
      | error => rfl
      | ok => rw [hold, hnew] at hstep; cases hstep
    | ok middle =>
      cases hnew : (system.insert names content).step (spot.filled names content) name with
      | error => rw [hold, hnew] at hstep; cases hstep
      | ok other =>
        rw [hold, hnew] at hstep
        obtain rfl := Option.some.inj hstep
        exact ih middle

/-- **Names lead where they led before**, but for the file that is new there. -/
theorem toOption_follow_insert (h : system.Takes names) (content : ByteArray)
    (parts : List String) : ((system.insert names content).follow parts).toOption
      = (system.follow parts).toOption.map (Spot.filled names content) :=
  toOption_foldlM_insert h content parts
    (.directory (if parts.head? = some "" then [] else system.workingDirectory))

/-! ## Paths -/

/-- **Where a path leads.** -/
def lead (system : FileSystem) (path : String) : Except FileError Spot :=
  match namesOf path with
  | .error error => .error error
  | .ok parts => system.follow parts

theorem stands_lead (h : system.lead path = .ok spot) : system.Stands spot := by
  rw [lead] at h
  split at h
  · cases h
  · exact stands_follow h

theorem toOption_lead_insert (h : system.Takes names) (content : ByteArray) (path : String) :
    ((system.insert names content).lead path).toOption
      = (system.lead path).toOption.map (Spot.filled names content) := by
  rw [lead, lead]
  split
  · rfl
  · exact toOption_follow_insert h content _

/-- A slash at the end, or a dot, does not lead to a file. -/
theorem place?_of_step_stays (hstays : name = "" ∨ name = ".")
    (h : system.step spot name = .ok next) : next.place? = none := by
  have hspot := place?_of_step h
  cases spot with
  | file | vacant => cases hspot
  | directory =>
    simp only [step, hstays, if_true] at h
    cases h
    rfl

theorem place?_of_follow_append {before : List String} (hstays : name = "" ∨ name = ".")
    (h : system.follow (before ++ [name]) = .ok next) : next.place? = none := by
  simp only [follow, List.foldlM_append, List.foldlM_cons, List.foldlM_nil] at h
  generalize before.foldlM system.step _ = reached at h
  cases reached with
  | error error => cases h
  | ok spot =>
    cases hstep : system.step spot name with
    | error error => simp only [bind, Except.bind, hstep, reduceCtorEq] at h
    | ok last =>
      simp only [bind, Except.bind, hstep, pure, Except.pure, Except.ok.injEq] at h
      obtain rfl := h
      exact place?_of_step_stays hstays hstep

/-- **The file a path creates or replaces** is the one it leads to. -/
theorem target_eq_ok : system.target path = .ok names ↔
    ∃ spot, system.lead path = .ok spot ∧ spot.place? = some names := by
  cases hparts : namesOf path with
  | error error => simp [target, lead, hparts]
  | ok parts =>
    simp only [target, lead, hparts]
    by_cases hslash : parts.getLast? = some ""
    · -- with a slash at the end neither side leads to a file
      obtain ⟨before, hbefore⟩ := List.getLast?_eq_some_iff.1 hslash
      simp only [hslash, if_true]
      constructor
      · intro h
        split at h
        · cases h
        · cases h
        · next hfollow => cases place?_of_follow_append (.inr rfl) hfollow
        · next hfollow => cases place?_of_follow_append (.inr rfl) hfollow
      · rintro ⟨spot, hfollow, hplace⟩
        rw [hbefore] at hfollow
        rw [place?_of_follow_append (.inl rfl) hfollow] at hplace
        cases hplace
    · simp only [hslash, if_false]
      cases system.follow parts with
      | error error => simp
      | ok spot => cases spot <;> simp [Spot.place?]

/-- **The content a path reads** is that of the file it leads to. -/
theorem toOption_read (system : FileSystem) (path : String) :
    (system.read path).toOption = (system.lead path).toOption.bind Spot.content? := by
  cases hparts : namesOf path with
  | error error => simp only [read, lead, hparts]; rfl
  | ok parts =>
    simp only [read, lead, hparts]
    cases system.follow parts with
    | error error => rfl
    | ok spot => cases spot <;> rfl

/-- A file can stand where a path asks for one. -/
theorem takes_of_target (h : system.target path = .ok names) : system.Takes names := by
  obtain ⟨spot, hlead, hplace⟩ := target_eq_ok.1 h
  have hstands := stands_lead hlead
  cases spot with
  | directory => cases hplace
  | file | vacant =>
    obtain rfl := Option.some.inj hplace
    exact hstands.2

/-- **Writing a file changes what is read from the paths to it**, and from no other. -/
theorem toOption_read_insert (h : system.target path = .ok names) (content : ByteArray)
    (query : String) : ((system.insert names content).read query).toOption
      = if system.target query = .ok names then some content else (system.read query).toOption := by
  rw [toOption_read, toOption_read, toOption_lead_insert (takes_of_target h)]
  cases hlead : system.lead query with
  | error error =>
    have hnone : ¬ system.target query = .ok names := by simp [target_eq_ok, hlead]
    rw [if_neg hnone]
    rfl
  | ok spot =>
    have htarget : system.target query = .ok names ↔ spot.place? = some names := by
      simp [target_eq_ok, hlead]
    simp only [htarget, Except.toOption, Option.map_some, Option.bind_some]
    cases spot with
    | directory => rfl
    | file other old | vacant other =>
      simp only [Spot.filled, Spot.place?, Option.some.injEq]
      split <;> rfl

end FileSystem

end OpcodeTable
