import ApiTypings.Proofs.Outcome
import ApiTypings.Proofs.Storage.Recording

/-!
# Writing a file

To write a file is to create the folders on the way to it that are missing, and to put the
file in its place. All else stays as it is, so the path leads to the file afterwards. The
system refuses to do so as it likes, but characters that no system takes are blamed only
where there is one in the path.
-/

namespace ApiTypings
namespace Entries

variable {κ α : Type} [BEq κ] [LawfulBEq κ]

theorem lookup_put_self (entries : List (κ × α)) (key : κ) (value : α) :
    (put entries key value).lookup key = some value := by
  induction entries with
  | nil => simp [put]
  | cons entry rest hypothesis =>
      unfold put
      split
      · simp
      · rename_i different
        have other : (key == entry.1) = false := by
          rw [Bool.eq_false_iff]
          intro same
          exact different (beq_iff_eq.mpr (beq_iff_eq.mp same).symm)
        rw [List.lookup_cons, other]
        exact hypothesis

theorem lookup_put_of_ne
    {key other : κ}
    (different : other ≠ key)
    (entries : List (κ × α))
    (value : α) :
    (put entries key value).lookup other = entries.lookup other := by
  have apart : (other == key) = false := beq_false_of_ne different
  induction entries with
  | nil => rw [put, List.lookup_cons, apart]
  | cons entry rest hypothesis =>
      unfold put
      split
      · rename_i same
        have known : entry.1 = key := beq_iff_eq.mp same
        rw [List.lookup_cons, List.lookup_cons, known, apart]
      · rw [List.lookup_cons, List.lookup_cons, hypothesis]

end Entries

namespace Storage

variable {files before after : Files} {path : Path}

namespace Files

theorem entryAt_put_self {location : Location} (notRoot : location ≠ []) (entry : Entry) :
    (files.put location entry).entryAt location = some entry := by
  have isRoot : location.isEmpty = false := by simpa using notRoot
  simp only [entryAt, put, isRoot, Bool.false_eq_true, if_false]
  exact Entries.lookup_put_self _ _ _

theorem entryAt_put_of_ne
    {location other : Location}
    (different : other ≠ location)
    (entry : Entry) :
    (files.put location entry).entryAt other = files.entryAt other := by
  simp only [entryAt, put]
  rw [Entries.lookup_put_of_ne different]

/-- Where the parts of a path are walked from. -/
def start (files : Files) (path : Path) : Location :=
  if path.isAbsolute then [] else files.working

section Walking

variable [Surroundings]

/-- A step leads on only from a folder that may be searched. -/
theorem walk_cons_eq_ok_iff
    {here location : Location}
    {part : String}
    {rest : List String} :
    files.walk here (part :: rest) = .ok location ↔
      files.entryAt here = some .folder ∧ permit here .search = .ok () ∧
        ¬ Path.nameLimit < Path.byteSize part ∧
        files.walk (if part == ".." then here.dropLast else here ++ [part]) rest =
          .ok location := by
  rw [walk]
  cases files.entryAt here with
  | none => simp
  | some entry =>
      cases entry with
      | file bytes => simp
      | folder =>
          rcases permit_cases here .search with free | ⟨refusal, refused⟩
          · simp only [free, bind, Except.bind, true_and]
            by_cases long : Path.nameLimit < Path.byteSize part
            · simp [long]
            · simp [long]
          · simp [refused, bind, Except.bind]

theorem walk_of_locate {location : Location} (located : files.locate path = .ok location) :
    files.walk (files.start path) path.parts = .ok location := by
  unfold locate at located
  split at located
  · cases located
  · split at located
    · cases located
    · split at located
      · cases located
      · exact located

/-- On the way to a location there are folders only. -/
theorem folder_of_walk
    {here location : Location}
    {parts : List String}
    (walked : files.walk here parts = .ok location)
    {count : Nat}
    (proper : count < parts.length) :
    ∃ place, files.walk here (parts.take count) = .ok place ∧
      files.entryAt place = some .folder := by
  induction parts generalizing here count with
  | nil => cases proper
  | cons part rest hypothesis =>
      obtain ⟨folder, free, short, goesOn⟩ := walk_cons_eq_ok_iff.mp walked
      cases count with
      | zero => exact ⟨here, rfl, folder⟩
      | succ count =>
          obtain ⟨place, reached, there⟩ := hypothesis goesOn (Nat.lt_of_succ_lt_succ proper)
          exact ⟨place, walk_cons_eq_ok_iff.mpr ⟨folder, free, short, reached⟩, there⟩

/-- Folders stay folders. -/
def Keeps (before after : Files) : Prop :=
  ∀ location, before.entryAt location = some .folder → after.entryAt location = some .folder

/-- Where folders stay folders, a path keeps leading where it leads. -/
theorem Keeps.walk
    (keeps : Keeps before after)
    {here location : Location}
    {parts : List String}
    (walked : before.walk here parts = .ok location) :
    after.walk here parts = .ok location := by
  induction parts generalizing here with
  | nil => exact walked
  | cons part rest hypothesis =>
      obtain ⟨folder, free, short, goesOn⟩ := walk_cons_eq_ok_iff.mp walked
      exact walk_cons_eq_ok_iff.mpr ⟨keeps here folder, free, short, hypothesis goesOn⟩

end Walking

theorem keeps_put
    {location : Location}
    {entry : Entry}
    (free : files.entryAt location ≠ some .folder) :
    Keeps files (files.put location entry) := by
  intro other folder
  have different : other ≠ location := by
    rintro rfl
    exact free folder
  rw [entryAt_put_of_ne different]
  exact folder

end Files

theorem run_commit (operation : Files → Except SystemError Files) (files : Files) :
    files.run (commit operation) =
      match operation files with
      | .ok after => (.ok (), after)
      | .error error => (.error error, files) := by
  change Files.run files (match operation files with
    | .ok after => (do set after; return .ok () : StateM Files (Except SystemError Unit))
    | .error error => return .error error) = _
  cases operation files <;> rfl

section Surrounded

variable [Surroundings]

/-! ## Creating folders -/

/-- Some folders were created that a path leads through, and nothing else was changed. -/
structure Grown (path : Path) (before after : Files) : Prop where
  entries : ∀ location, after.entryAt location = before.entryAt location ∨
    before.entryAt location = none ∧ after.entryAt location = some .folder ∧
      ∃ count, after.walk (after.start path) (path.parts.take count) = .ok location
  working : after.working = before.working
  replies : after.replies = before.replies

namespace Grown

theorem refl (path : Path) (files : Files) : Grown path files files :=
  ⟨fun _ => .inl rfl, rfl, rfl⟩

theorem keeps (grown : Grown path before after) : Files.Keeps before after := by
  intro location folder
  rcases grown.entries location with same | ⟨_, created, _⟩
  · rw [same]
    exact folder
  · exact created

theorem start (grown : Grown path before after) (other : Path) :
    after.start other = before.start other := by
  unfold Files.start
  rw [grown.working]

theorem trans
    {middle : Files}
    (first : Grown path before middle)
    (second : Grown path middle after) :
    Grown path before after where
  working := second.working.trans first.working
  replies := second.replies.trans first.replies
  entries := by
    intro location
    rcases second.entries location with same | ⟨absent, created, count, leads⟩
    · rcases first.entries location with sameBefore | ⟨absent, created, count, leads⟩
      · exact .inl (same.trans sameBefore)
      · refine .inr ⟨absent, same.trans created, count, ?_⟩
        rw [second.start]
        exact second.keeps.walk leads
    · rcases first.entries location with sameBefore | ⟨_, there, _⟩
      · exact .inr ⟨sameBefore ▸ absent, created, count, leads⟩
      · rw [there] at absent
        cases absent

end Grown

theorem Files.exists_of_createFolder (created : files.createFolder path = .ok after) :
    ∃ location, files.locate path = .ok location ∧ files.entryAt location = none ∧
      after = files.put location .folder := by
  obtain ⟨location, located, done⟩ := exists_of_bind_eq_ok (Files.blaming_eq_ok_iff.mp created)
  split at done
  · cases done
  · rename_i absent
    obtain ⟨_, _, put⟩ := exists_of_bind_eq_ok done
    cases put
    exact ⟨location, located, absent, rfl⟩

theorem Files.exists_of_writeFile
    {bytes : List UInt8}
    (wrote : files.writeFile path bytes = .ok after) :
    ∃ location, files.locate path = .ok location ∧ files.entryAt location ≠ some .folder ∧
      after = files.put location (.file bytes) := by
  obtain ⟨location, located, done⟩ := exists_of_bind_eq_ok (Files.blaming_eq_ok_iff.mp wrote)
  split at done
  · cases done
  · rename_i there
    obtain ⟨_, _, put⟩ := exists_of_bind_eq_ok done
    cases put
    exact ⟨location, located, by simp [there], rfl⟩
  · rename_i absent
    obtain ⟨_, _, put⟩ := exists_of_bind_eq_ok done
    cases put
    exact ⟨location, located, by simp [absent], rfl⟩

/-- To create a folder is to put it where there is nothing. -/
theorem grown_of_createFolder
    {count : Nat}
    (created : files.createFolder ⟨path.root, path.parts.take count⟩ = .ok after) :
    Grown path files after := by
  obtain ⟨location, located, absent, rfl⟩ := Files.exists_of_createFolder created
  have notRoot : location ≠ [] := by
    rintro rfl
    cases absent
  refine ⟨?_, rfl, rfl⟩
  intro other
  by_cases same : other = location
  · subst same
    refine .inr ⟨absent, Files.entryAt_put_self notRoot _, count, ?_⟩
    have keeps : Files.Keeps files (files.put other .folder) :=
      Files.keeps_put (by simp [absent])
    exact keeps.walk (Files.walk_of_locate located)
  · exact .inl (Files.entryAt_put_of_ne same _)

section Grows

variable {α β : Type}

/-- A program creates nothing but folders that a path leads through. -/
def Grows (path : Path) (program : StateM Files α) : Prop :=
  ∀ files, Grown path files (files.run program).2

theorem Grows.pure (path : Path) (value : α) : Grows path (pure value) :=
  Grown.refl path

theorem Grows.bind
    {program : StateM Files α}
    {next : α → StateM Files β}
    (first : Grows path program)
    (goesOn : ∀ value, Grows path (next value)) :
    Grows path (program >>= next) :=
  fun files => (first files).trans (goesOn _ _)

end Grows

theorem grows_ensureFolder (path : Path) (count : Nat) :
    Grows path (ensureFolder ⟨path.root, path.parts.take count⟩) := by
  have creates : Grows path (commit (·.createFolder ⟨path.root, path.parts.take count⟩)) := by
    intro files
    rw [run_commit]
    cases created : files.createFolder ⟨path.root, path.parts.take count⟩ with
    | error error => exact .refl path files
    | ok after => exact grown_of_createFolder created
  refine .bind creates ?_
  intro outcome
  cases outcome with
  | ok _ => exact .pure path _
  | error error =>
      dsimp only
      split
      · exact .pure path _
      · refine .bind (Grown.refl path) ?_
        intro found
        split <;> exact .pure path _

theorem grows_ensureFolders (path : Path) (count : Nat) :
    Grows path (ensureFolders path count) := by
  induction count with
  | zero => exact grows_ensureFolder path 0
  | succ count hypothesis =>
      refine .bind (grows_ensureFolder path (count + 1)) ?_
      intro outcome
      cases outcome with
      | ok _ => exact .pure path _
      | error error =>
          dsimp only
          split
          · refine .bind hypothesis ?_
            intro outcome
            cases outcome with
            | ok _ => exact grows_ensureFolder path (count + 1)
            | error error => exact .pure path _
          · exact .pure path _

/-! ## Writing -/

/-- Bytes were written to a path: it leads to them through folders, and nothing else was
changed, except that folders on the way may be new. -/
structure Written (before : Files) (path : Path) (bytes : List UInt8) (after : Files) : Prop where
  content : ∃ location, after.walk (after.start path) path.parts = .ok location ∧
    after.entryAt location = some (.file bytes) ∧
    ∀ other ≠ location, after.entryAt other = before.entryAt other ∨
      before.entryAt other = none ∧ after.entryAt other = some .folder ∧
        ∃ count, after.walk (after.start path) (path.parent.parts.take count) = .ok other
  folders : ∀ count < path.parts.length, ∃ place,
    after.walk (after.start path) (path.parts.take count) = .ok place ∧
      after.entryAt place = some .folder
  working : after.working = before.working
  replies : after.replies = before.replies

/-- To write a file where there is no folder is to put it there. -/
theorem written_of_writeFile
    {middle : Files}
    (grown : Grown path.parent before middle)
    {bytes : List UInt8}
    (wrote : middle.writeFile path bytes = .ok after) :
    Written before path bytes after := by
  obtain ⟨location, located, free, rfl⟩ := Files.exists_of_writeFile wrote
  have keeps : Files.Keeps middle (middle.put location (.file bytes)) := Files.keeps_put free
  have notRoot : location ≠ [] := by
    rintro rfl
    exact free rfl
  have walked := keeps.walk (Files.walk_of_locate located)
  refine ⟨⟨location, walked, Files.entryAt_put_self notRoot _, ?_⟩, ?_, grown.working,
    grown.replies⟩
  · intro other different
    rw [Files.entryAt_put_of_ne different]
    rcases grown.entries other with same | ⟨absent, created, count, leads⟩
    · exact .inl same
    · exact .inr ⟨absent, created, count, keeps.walk leads⟩
  · intro count proper
    exact Files.folder_of_walk walked proper

/-- A file has been written, or no more than folders on the way to it were created. -/
theorem writeInFolder_cases {bytes : List UInt8} {outcome : Except SystemError Unit}
    (ran : before.run (writeInFolder path bytes) = (outcome, after)) :
    outcome = .ok () ∧ Written before path bytes after ∨
      ∃ error, outcome = .error error ∧ Grown path.parent before after := by
  have grown := grows_ensureFolders path.parent path.parent.parts.length before
  unfold writeInFolder at ran
  cases ensured : before.run (ensureFolders path.parent path.parent.parts.length) with
  | mk first middle =>
      rw [ensured] at grown
      rw [Files.run_bind, ensured] at ran
      cases first with
      | error error =>
          cases ran
          exact .inr ⟨error, rfl, grown⟩
      | ok _ =>
          have wrote : middle.run (commit (·.writeFile path bytes)) = (outcome, after) := ran
          rw [run_commit] at wrote
          split at wrote
          · rename_i done
            cases wrote
            exact .inl ⟨rfl, written_of_writeFile grown done⟩
          · rename_i error _
            cases wrote
            exact .inr ⟨error, rfl, grown⟩

/-! ## What is asked for to write a file -/

/-- What may be asked for to write a file: its folder and those that lead to it, and the
file itself. -/
inductive Stores (path : Path) (bytes : List UInt8) : Access → Prop
  | kind (count : Nat) : Stores path bytes (.kind ⟨path.root, path.parent.parts.take count⟩)
  | create (count : Nat) : Stores path bytes (.create ⟨path.root, path.parent.parts.take count⟩)
  | write : Stores path bytes (.write path bytes)

theorem tracked_ensureFolder (path : Path) (bytes : List UInt8) (count : Nat) (files : Files) :
    Tracked (Stores path bytes)
      (ensureFolder ⟨path.root, path.parent.parts.take count⟩)
      (ensureFolder ⟨path.root, path.parent.parts.take count⟩) files := by
  refine .bind (.single (Stores.create count) fun reading => by cases reading) ?_
  intro outcome _ _
  cases outcome with
  | ok _ => exact .pure _
  | error error =>
      dsimp only
      split
      · exact .pure _
      · refine .bind (.single (Stores.kind count) fun _ => rfl) ?_
        intro found _ _
        split <;> exact .pure _

theorem tracked_ensureFolders (path : Path) (bytes : List UInt8) (count : Nat) (files : Files) :
    Tracked (Stores path bytes) (ensureFolders path.parent count)
      (ensureFolders path.parent count) files := by
  induction count generalizing files with
  | zero => exact tracked_ensureFolder path bytes 0 files
  | succ count hypothesis =>
      refine .bind (tracked_ensureFolder path bytes (count + 1) files) ?_
      intro outcome after _
      cases outcome with
      | ok _ => exact .pure _
      | error error =>
          dsimp only
          split
          · refine .bind (hypothesis after) ?_
            intro outcome after _
            cases outcome with
            | ok _ => exact tracked_ensureFolder path bytes (count + 1) after
            | error error => exact .pure _
          · exact .pure _

theorem tracked_writeInFolder (path : Path) (bytes : List UInt8) (files : Files) :
    Tracked (Stores path bytes) (writeInFolder path bytes) (writeInFolder path bytes) files := by
  refine .bind (tracked_ensureFolders path bytes _ files) ?_
  intro outcome after _
  cases outcome with
  | ok _ => exact .single Stores.write fun reading => by cases reading
  | error error => exact .pure _

end Surrounded

/-! ## Paths that no system takes -/

/-- A fault may be found with a path: what no system takes stands in it. -/
def Fault.Apt (path : Path) : Fault → Prop
  | .nullCharacter => path.hasNull = true
  | .halfCharacter => path.hasHalf = true
  | _ => True

theorem Fault.apt_of_number? {fault : Fault} (numbered : fault.number?.isSome = true) :
    fault.Apt path := by
  cases fault <;> trivial

theorem Fault.Apt.mono
    {fault : Fault}
    {other : Path}
    (apt : fault.Apt other)
    (within : other.parts.Sublist path.parts) :
    fault.Apt path := by
  cases fault with
  | nullCharacter =>
      obtain ⟨part, listed, has⟩ := List.any_eq_true.mp apt
      exact List.any_eq_true.mpr ⟨part, within.subset listed, has⟩
  | halfCharacter =>
      obtain ⟨part, listed, has⟩ := List.any_eq_true.mp apt
      exact List.any_eq_true.mpr ⟨part, within.subset listed, has⟩
  | _ => trivial

section Blaming

variable {α β : Type}

/-- An outcome fails by nothing but what the system says. -/
def Numbered (outcome : Except Fault α) : Prop :=
  ∀ fault, outcome = .error fault → fault.number?.isSome = true

/-- An outcome blames a path only for what stands in it. -/
def Blames (path : Path) (outcome : Except SystemError α) : Prop :=
  ∀ error, outcome = .error error → error.fault.Apt path

/-- A program blames a path only for what stands in it. -/
def Blaming (path : Path) (program : StateM Files (Except SystemError α)) : Prop :=
  ∀ files : Files, Blames path (files.run program).1

theorem blames_ok (value : α) : Blames path (.ok value) :=
  fun _ failed => by cases failed

theorem Blaming.pure {outcome : Except SystemError α} (blames : Blames path outcome) :
    Blaming path (pure outcome) :=
  fun _ => blames

theorem Blaming.bind
    {program : StateM Files (Except SystemError α)}
    {next : Except SystemError α → StateM Files (Except SystemError β)}
    (first : Blaming path program)
    (goesOn : ∀ outcome, Blames path outcome → Blaming path (next outcome)) :
    Blaming path (program >>= next) :=
  fun files => goesOn _ (first files) _

theorem Blaming.mono
    {other : Path}
    {program : StateM Files (Except SystemError α)}
    (blaming : Blaming other program)
    (within : other.parts.Sublist path.parts) :
    Blaming path program :=
  fun files error failed => (blaming files error failed).mono within

end Blaming

theorem blaming_commit
    {operation : Files → Except SystemError Files}
    (blames : ∀ files, Blames path (operation files)) :
    Blaming path (commit operation) := by
  intro files error failed
  rw [run_commit] at failed
  split at failed
  · cases failed
  · rename_i stopped
    cases failed
    exact blames files error stopped

section Faults

variable [Surroundings]

theorem Files.numbered_walk (files : Files) (here : Location) (parts : List String) :
    Numbered (files.walk here parts) := by
  induction parts generalizing here with
  | nil => exact fun _ failed => by cases failed
  | cons part rest hypothesis =>
      intro fault failed
      rw [walk] at failed
      split at failed
      · rcases permit_cases here .search with free | ⟨refusal, refused⟩
        · simp only [free, bind, Except.bind] at failed
          split at failed
          · cases failed
            rfl
          · exact hypothesis _ fault failed
        · rw [refused] at failed
          cases failed
          rfl
      · cases failed
        rfl
      · cases failed
        rfl

theorem Files.apt_of_locate {fault : Fault} (failed : files.locate path = .error fault) :
    fault.Apt path := by
  unfold locate at failed
  split at failed
  · rename_i half
    cases failed
    exact half
  · split at failed
    · rename_i null
      cases failed
      exact null
    · split at failed
      · cases failed
        trivial
      · exact Fault.apt_of_number? (files.numbered_walk _ _ fault failed)

/-- An operation fails where the path leads nowhere, or by what the system says. -/
theorem blames_of_locate
    {operation : Location → Except Fault Files}
    (numbered : ∀ location, Numbered (operation location)) :
    Blames path (Files.blaming path (files.locate path >>= operation)) := by
  intro error failed
  obtain ⟨fault, stopped, rfl⟩ := Files.blaming_eq_error_iff.mp failed
  cases located : files.locate path with
  | error other =>
      rw [located] at stopped
      cases stopped
      exact Files.apt_of_locate located
  | ok location =>
      rw [located] at stopped
      exact Fault.apt_of_number? (numbered location fault stopped)

theorem numbered_of_permit (location : Location) (right : Right) (files : Files) :
    Numbered (Files.permit location right >>= fun _ => pure files) := by
  intro fault failed
  rcases Files.permit_cases location right with free | ⟨refusal, refused⟩
  · rw [free] at failed
    cases failed
  · rw [refused] at failed
    cases failed
    rfl

theorem blaming_createFolder (path : Path) : Blaming path (commit (·.createFolder path)) := by
  refine blaming_commit fun files => blames_of_locate fun location => ?_
  split
  · rintro _ ⟨⟩
    rfl
  · exact numbered_of_permit _ _ _

theorem blaming_writeFile (path : Path) (bytes : List UInt8) :
    Blaming path (commit (·.writeFile path bytes)) := by
  refine blaming_commit fun files => blames_of_locate fun location => ?_
  split
  · rintro _ ⟨⟩
    rfl
  · exact numbered_of_permit _ _ _
  · exact numbered_of_permit _ _ _

theorem blaming_ensureFolder (path : Path) : Blaming path (ensureFolder path) := by
  refine .bind (blaming_createFolder path) ?_
  intro outcome blames
  cases outcome with
  | ok _ => exact .pure blames
  | error error =>
      dsimp only
      split
      · exact .pure blames
      · intro files
        rw [Files.run_bind]
        split
        · exact blames_ok _
        · exact blames

theorem blaming_ensureFolders (path : Path) (count : Nat) :
    Blaming path (ensureFolders path count) := by
  have ensures (taken : Nat) : Blaming path (ensureFolder ⟨path.root, path.parts.take taken⟩) :=
    (blaming_ensureFolder _).mono (List.take_sublist _ _)
  induction count with
  | zero => exact ensures 0
  | succ count hypothesis =>
      refine .bind (ensures (count + 1)) ?_
      intro outcome blames
      cases outcome with
      | ok _ => exact .pure blames
      | error error =>
          dsimp only
          split
          · refine .bind hypothesis ?_
            intro outcome blames
            cases outcome with
            | ok _ => exact ensures (count + 1)
            | error error => exact .pure blames
          · exact .pure blames

theorem blaming_writeInFolder (path : Path) (bytes : List UInt8) :
    Blaming path (writeInFolder path bytes) := by
  have ensures := blaming_ensureFolders path.parent path.parent.parts.length
  refine .bind (ensures.mono (List.dropLast_sublist _)) ?_
  intro outcome blames
  cases outcome with
  | ok _ => exact blaming_writeFile path bytes
  | error error => exact .pure blames

end Faults

end Storage
end ApiTypings
