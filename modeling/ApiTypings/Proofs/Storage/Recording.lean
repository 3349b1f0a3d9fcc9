import ApiTypings.Job
import ApiTypings.Storage.Files

/-!
# What programs ask of their surroundings

Files may keep a log of what is asked of them. A program does the same on files with and
without a log, and it changes nothing if it only looks at files. To load a document is to
look at its source, and nothing else. All this holds whatever the system refuses.
-/

namespace ApiTypings
namespace Storage

/-- What a program returns on some files, and the files that it leaves. -/
def Files.run {α : Type} (files : Files) (program : StateM Files α) : α × Files :=
  StateT.run program files

namespace Files

theorem run_pure {α : Type} (files : Files) (value : α) :
    files.run (pure value) = (value, files) := rfl

theorem run_bind
    {α β : Type}
    (files : Files)
    (program : StateM Files α)
    (next : α → StateM Files β) :
    files.run (program >>= next) = (files.run program).2.run (next (files.run program).1) := rfl

theorem blaming_eq_ok_iff {α : Type} {path : Path} {outcome : Except Fault α} {value : α} :
    blaming path outcome = .ok value ↔ outcome = .ok value := by
  cases outcome with
  | ok result =>
      constructor
      · rintro ⟨⟩
        rfl
      · rintro ⟨⟩
        rfl
  | error fault =>
      constructor
      · rintro ⟨⟩
      · rintro ⟨⟩

theorem blaming_eq_error_iff {α : Type} {path : Path} {outcome : Except Fault α} {error : SystemError} :
    blaming path outcome = .error error ↔
      ∃ fault, outcome = .error fault ∧ error = ⟨fault, path⟩ := by
  cases outcome with
  | ok result =>
      constructor
      · rintro ⟨⟩
      · rintro ⟨_, ⟨⟩, _⟩
  | error fault =>
      constructor
      · rintro ⟨⟩
        exact ⟨fault, rfl, rfl⟩
      · rintro ⟨_, ⟨⟩, rfl⟩
        rfl

section Operations

variable [Surroundings]

theorem permit_cases (location : Location) (right : Right) :
    permit location right = .ok () ∨
      ∃ refusal, permit location right = .error (.refused refusal) := by
  unfold permit
  split
  · exact .inr ⟨_, rfl⟩
  · exact .inl rfl

theorem run_workingFolder (files : Files) :
    files.run Host.workingFolder = (files.workingPath?, files) := rfl

theorem run_kindAt (files : Files) (path : Path) :
    files.run (Host.kindAt path) = (files.kindAt path, files) := rfl

theorem run_readFile (files : Files) (path : Path) :
    files.run (Host.readFile path) = (files.contentAt path, files) := rfl

theorem run_openRemote (files : Files) (place : String) :
    files.run (Host.openRemote place) = (Surroundings.opened place, files) := rfl

theorem run_writeRemote (files : Files) (place text : String) :
    files.run (Host.writeRemote place text) = (Surroundings.stored place text, files) := rfl

end Operations

end Files

/-- What a program asks of its surroundings. -/
inductive Access
  | workingFolder
  | kind (path : Path)
  | read (path : Path)
  | write (path : Path) (bytes : List UInt8)
  | create (path : Path)
  | fetch (address : Web.Address)
  | openRemote (place : String)
  | writeRemote (place text : String)

/-- Whether nothing is changed by an access. -/
def Access.isReading : Access → Bool
  | .write .. => false
  | .create _ => false
  | .writeRemote .. => false
  | _ => true

/-- Files with a log of what was asked of them. -/
structure Recorded where
  files : Files
  log : List Access

/-- Do an operation on files, and log the access. -/
def logged {α : Type} (access : Access) (operation : StateM Files α) : StateM Recorded α :=
  fun recorded =>
    let (result, files) := operation recorded.files
    (result, ⟨files, recorded.log ++ [access]⟩)

instance [Surroundings] : Host (StateM Recorded) where
  workingFolder := logged .workingFolder Host.workingFolder
  kindAt path := logged (.kind path) (Host.kindAt path)
  readFile path := logged (.read path) (Host.readFile path)
  writeFile path bytes := logged (.write path bytes) (Host.writeFile path bytes)
  createFolder path := logged (.create path) (Host.createFolder path)
  fetch address := logged (.fetch address) (Host.fetch address)
  openRemote place := logged (.openRemote place) (Host.openRemote place)
  writeRemote place text := logged (.writeRemote place text) (Host.writeRemote place text)

/-- All that a program asks of its surroundings, in order. -/
def accessesOf {α : Type} (program : StateM Recorded α) (files : Files) : List Access :=
  (program.run ⟨files, []⟩).2.log

/-! ## Programs with and without a log -/

variable {α β : Type} {Allowed : Access → Prop} {files : Files}

/-- From some files on, a program does the same with and without a log, and asks for what is
allowed only. If it does nothing but look at files, these stay as they are. -/
def Tracked
    (Allowed : Access → Prop)
    (program : StateM Recorded α)
    (plain : StateM Files α)
    (files : Files) :
    Prop :=
  ∃ accesses,
    (∀ log, program.run ⟨files, log⟩ =
      ((files.run plain).1, ⟨(files.run plain).2, log ++ accesses⟩)) ∧
    (∀ access ∈ accesses, Allowed access) ∧
    ((∀ access ∈ accesses, access.isReading = true) → (files.run plain).2 = files)

namespace Tracked

variable {program : StateM Recorded α} {plain : StateM Files α}

theorem accesses_allowed (tracked : Tracked Allowed program plain files) :
    ∀ access ∈ accessesOf program files, Allowed access := by
  obtain ⟨accesses, same, allowed, _⟩ := tracked
  have log : accessesOf program files = accesses := congrArg (fun ran => ran.2.log) (same [])
  rw [log]
  exact allowed

theorem run_eq (tracked : Tracked Allowed program plain files) (log : List Access) :
    program.run ⟨files, log⟩ =
      ((files.run plain).1, ⟨(files.run plain).2, log ++ accessesOf program files⟩) := by
  obtain ⟨accesses, same, _, _⟩ := tracked
  have found : accessesOf program files = accesses := congrArg (fun ran => ran.2.log) (same [])
  rw [found]
  exact same log

/-- A program that only looks at files leaves them as they are. -/
theorem unchanged
    (tracked : Tracked Allowed program plain files)
    (reading : ∀ access, Allowed access → access.isReading = true) :
    (files.run plain).2 = files := by
  obtain ⟨_, _, allowed, unchanged⟩ := tracked
  exact unchanged fun access listed => reading access (allowed access listed)

theorem mono
    {Wider : Access → Prop}
    (tracked : Tracked Allowed program plain files)
    (wider : ∀ access, Allowed access → Wider access) :
    Tracked Wider program plain files := by
  obtain ⟨accesses, same, allowed, unchanged⟩ := tracked
  exact ⟨accesses, same, fun access listed => wider access (allowed access listed), unchanged⟩

theorem pure (value : α) :
    Tracked Allowed (pure value : StateM Recorded α) (pure value) files := by
  refine ⟨[], fun log => ?_, fun _ listed => absurd listed List.not_mem_nil, fun _ => rfl⟩
  rw [List.append_nil]
  rfl

theorem bind
    {next : α → StateM Recorded β}
    {plainNext : α → StateM Files β}
    (first : Tracked Allowed program plain files)
    (goesOn : ∀ value after, files.run plain = (value, after) →
      Tracked Allowed (next value) (plainNext value) after) :
    Tracked Allowed (program >>= next) (plain >>= plainNext) files := by
  obtain ⟨earlier, same, allowed, unchanged⟩ := first
  obtain ⟨later, sameThere, allowedThere, unchangedThere⟩ :=
    goesOn (files.run plain).1 (files.run plain).2 rfl
  refine ⟨earlier ++ later, ?_, ?_, ?_⟩
  · intro log
    calc (program >>= next).run ⟨files, log⟩
        = (next (program.run ⟨files, log⟩).1).run (program.run ⟨files, log⟩).2 := rfl
      _ = (next (files.run plain).1).run ⟨(files.run plain).2, log ++ earlier⟩ := by
          rw [same]
      _ = ((files.run (plain >>= plainNext)).1,
            ⟨(files.run (plain >>= plainNext)).2, log ++ (earlier ++ later)⟩) := by
          rw [sameThere, List.append_assoc]
          rfl
  · intro access listed
    rcases List.mem_append.mp listed with before | after
    · exact allowed access before
    · exact allowedThere access after
  · intro reading
    have stays := unchanged fun access listed =>
      reading access (List.mem_append_left later listed)
    have staysThere := unchangedThere fun access listed =>
      reading access (List.mem_append_right earlier listed)
    exact staysThere.trans stays

/-- An access is logged, and does what it does without a log. -/
theorem single
    {access : Access}
    (allowed : Allowed access)
    (stays : access.isReading = true → (files.run plain).2 = files) :
    Tracked Allowed (logged access plain) plain files := by
  refine ⟨[access], fun _ => rfl, ?_, ?_⟩
  · intro other listed
    rw [List.mem_singleton.mp listed]
    exact allowed
  · intro reading
    exact stays (reading access List.mem_cons_self)

end Tracked

theorem accessesOf_bind
    {program : StateM Recorded α}
    {plain : StateM Files α}
    (tracked : Tracked Allowed program plain files)
    {next : α → StateM Recorded β}
    {value : α}
    {after : Files}
    (ran : files.run plain = (value, after))
    (goesOn : ∃ Wider plainNext, Tracked Wider (next value) plainNext after) :
    accessesOf (program >>= next) files =
      accessesOf program files ++ accessesOf (next value) after := by
  obtain ⟨_, _, there⟩ := goesOn
  have start := tracked.run_eq []
  rw [ran] at start
  calc accessesOf (program >>= next) files
      = ((next (program.run ⟨files, []⟩).1).run (program.run ⟨files, []⟩).2).2.log := rfl
    _ = ((next value).run ⟨after, accessesOf program files⟩).2.log := by rw [start]; rfl
    _ = accessesOf program files ++ accessesOf (next value) after := by rw [there.run_eq]

/-! ## Loading a document -/

/-- What may be asked for to load the document of a source. -/
inductive Loads (folder : Path) (source : String) : Access → Prop
  | kind : Loads folder source (.kind (folder.join (.ofText source)))
  | read : Loads folder source (.read (folder.join (.ofText source)))
  | fetch {address : Web.Address} (spelled : addressOf source = .ok address) :
      Loads folder source (.fetch address)

theorem Loads.isReading
    {folder : Path}
    {source : String}
    {access : Access}
    (loads : Loads folder source access) :
    access.isReading = true := by
  cases loads <;> rfl

section Loading

variable [Surroundings]

theorem tracked_readText {path : Path} (allowed : Allowed (.read path)) :
    Tracked Allowed (readText path) (readText path) files := by
  refine .bind (.single allowed fun _ => rfl) ?_
  intro outcome after _
  cases outcome with
  | error error => exact .pure _
  | ok bytes =>
      dsimp only
      cases Text.decode bytes with
      | error error => exact .pure _
      | ok text => exact .pure _

theorem tracked_loadFile
    {base : Path}
    {source : String}
    (kind : Allowed (.kind (base.join (.ofText source))))
    (read : Allowed (.read (base.join (.ofText source)))) :
    Tracked Allowed (loadFile base source) (loadFile base source) files := by
  refine .bind (.single kind fun _ => rfl) ?_
  intro found after _
  match found with
  | .error error => exact .pure _
  | .ok none => exact .pure _
  | .ok (some _) =>
      refine .bind (tracked_readText read) ?_
      intro outcome _ _
      cases outcome with
      | error error => exact .pure _
      | ok text => exact .pure _

theorem tracked_loadAddress
    {source : String}
    (fetch : ∀ address, addressOf source = .ok address → Allowed (.fetch address)) :
    Tracked Allowed (loadAddress source) (loadAddress source) files := by
  unfold loadAddress
  cases spelled : addressOf source with
  | error report => exact .pure _
  | ok address =>
      refine .bind (.single (fetch address spelled) fun _ => rfl) ?_
      intro outcome _ _
      cases outcome with
      | error report => exact .pure _
      | ok reply => exact .pure _

/-- To load a document is to look at its source only. -/
theorem tracked_loadFrom (folder : Path) (source : String) (files : Files) :
    Tracked (Loads folder source) (loadFrom folder source) (loadFrom folder source) files := by
  unfold loadFrom
  split
  · refine .bind (tracked_loadAddress fun _ => .fetch) ?_
    intro loaded _ _
    exact .pure _
  · refine .bind (tracked_loadFile Loads.kind Loads.read) ?_
    intro loaded _ _
    exact .pure _

end Loading

end Storage
end ApiTypings
