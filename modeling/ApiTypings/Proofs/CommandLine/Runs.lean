import ApiTypings.Proofs.CommandLine.Reports
import ApiTypings.Proofs.Storage.Writing

/-!
# Runs of jobs

Jobs are done in order. A job is done by writing the text of its document, as the document
stands at that moment, to its output. A job whose document cannot be loaded or compiled ends
the run: nothing is written for it, and no later document is looked at. A text that cannot be
written is a failure of the output, unless it is something that the system is not even asked.
-/

namespace ApiTypings

open Storage

namespace Job

/-! ## Getting ready -/

/-- What may be asked for before a document is loaded. -/
inductive Prepares (output : String) : Access → Prop
  | workingFolder : Prepares output .workingFolder
  | openRemote : Prepares output (.openRemote output)

theorem Prepares.isReading {output : String} {access : Access} (prepares : Prepares output access) :
    access.isReading = true := by
  cases prepares <;> rfl

variable [Surroundings] {job : Job} {files after : Files} {folder : Path} {failure : Failure}

/-- Why a job cannot be begun: the working folder was taken away, or the output is on a system
that is not known. -/
inductive Unready (files : Files) (output : String) : Failure → Prop
  | folder (lost : files.workingPath? = none) : Unready files output (.system ⟨.missing, none⟩)
  | output
      {folder : Path}
      {reason : String}
      (there : files.workingPath? = some folder)
      (remote : isRemote output.toList = true)
      (unknown : Surroundings.opened output = .error reason) :
      Unready files output (.impossible reason)

/-- The folder that the source of a job starts from, given the files as they stand. -/
def folderIn (job : Job) (files : Files) : Except Failure Path :=
  (files.run job.prepare).1

theorem tracked_baseFolder (output : String) (files : Files) :
    Tracked (Prepares output) (baseFolder none) (baseFolder none) files := by
  refine .bind (.single Prepares.workingFolder fun _ => rfl) ?_
  intro found _ _
  cases found with
  | none => exact .pure _
  | some folder => exact .pure _

theorem run_baseFolder (files : Files) :
    files.run (baseFolder none) =
      (match files.workingPath? with
        | some folder => .ok folder
        | none => .error (.system ⟨.missing, none⟩), files) := by
  unfold baseFolder
  rw [show nonEmpty none = none from rfl, Files.run_bind, Files.run_workingFolder]
  cases files.workingPath? <;> rfl

theorem tracked_prepare (job : Job) (files : Files) :
    Tracked (Prepares job.output) job.prepare job.prepare files := by
  refine .bind (tracked_baseFolder job.output files) ?_
  intro outcome after _
  cases outcome with
  | error failure => exact .pure _
  | ok folder =>
      dsimp only [openOutput]
      split
      · refine .bind (.bind (.single Prepares.openRemote fun _ => rfl) ?_) ?_
        · intro opened _ _
          exact .pure _
        · intro opened _ _
          exact .pure _
      · exact .bind (.pure _) fun _ _ _ => .pure _

/-- To get ready changes no file. -/
theorem run_prepare (job : Job) (files : Files) :
    files.run job.prepare = (job.folderIn files, files) :=
  Prod.ext rfl ((tracked_prepare job files).unchanged fun _ => Prepares.isReading)

/-- A job is begun in the working folder. -/
theorem folderIn_cases (job : Job) (files : Files) :
    (∃ failure, job.folderIn files = .error failure ∧ Unready files job.output failure) ∨
      ∃ folder, job.folderIn files = .ok folder ∧ files.workingPath? = some folder ∧
        (isRemote job.output.toList = true → Surroundings.opened job.output = .ok ()) := by
  unfold folderIn Job.prepare
  rw [Files.run_bind, run_baseFolder]
  cases there : files.workingPath? with
  | none => exact .inl ⟨_, rfl, .folder there⟩
  | some folder =>
      by_cases remote : isRemote job.output.toList = true
      · simp only [openOutput, if_pos remote, Files.run_bind, Files.run_openRemote]
        cases opened : Surroundings.opened job.output with
        | error reason => exact .inl ⟨_, rfl, .output there remote opened⟩
        | ok _ => exact .inr ⟨folder, rfl, rfl, fun _ => rfl⟩
      · simp only [openOutput, if_neg remote]
        exact .inr ⟨folder, rfl, rfl, fun far => absurd far remote⟩

theorem folderIn_eq_error_iff :
    job.folderIn files = .error failure ↔ Unready files job.output failure := by
  rcases job.folderIn_cases files with ⟨other, failed, unready⟩ | ⟨folder, ready, there, opened⟩
  · constructor
    · intro same
      cases failed.symm.trans same
      exact unready
    · intro same
      rw [failed]
      cases unready with
      | folder lost =>
          cases same with
          | folder _ => rfl
          | output there _ _ => cases lost.symm.trans there
      | output there remote unknown =>
          cases same with
          | folder lost => cases there.symm.trans lost
          | output _ _ found => rw [Except.error.inj (unknown.symm.trans found)]
  · rw [ready]
    constructor
    · rintro ⟨⟩
    · intro unready
      cases unready with
      | folder lost => cases there.symm.trans lost
      | output _ remote unknown => cases (opened remote).symm.trans unknown

theorem folderIn_of_local
    (there : files.workingPath? = some folder)
    (near : isRemote job.output.toList = false) :
    job.folderIn files = .ok folder := by
  rcases job.folderIn_cases files with ⟨_, _, unready⟩ | ⟨_, ready, found, _⟩
  · cases unready with
    | folder lost => cases there.symm.trans lost
    | output _ remote _ => cases near.symm.trans remote
  · cases there.symm.trans found
    exact ready

/-! ## Texts -/

/-- The text of a job, given the files as they stand. -/
def textIn (job : Job) (folder : Path) (files : Files) : Except Failure String :=
  (files.run (job.textFrom folder)).1

theorem tracked_textFrom (job : Job) (folder : Path) (files : Files) :
    Tracked (Loads folder job.source) (job.textFrom folder) (job.textFrom folder) files := by
  refine .bind (tracked_loadFrom folder job.source files) ?_
  intro loaded _ _
  exact .pure _

/-- The text of a job is found without changing any file. -/
theorem run_textFrom (job : Job) (folder : Path) (files : Files) :
    files.run (job.textFrom folder) = (job.textIn folder files, files) :=
  Prod.ext rfl ((tracked_textFrom job folder files).unchanged fun _ => Loads.isReading)

/-- The text of a job whose document is in a file in JSON. -/
theorem textIn_of_file
    {bytes : List UInt8}
    {text : List Char}
    {value document : Value}
    (near : Web.isWebAddress job.source.toList = false)
    (present : files.kindAt (folder.join (.ofText job.source)) = .ok (some .file))
    (content : files.contentAt (folder.join (.ofText job.source)) = .ok bytes)
    (decoded : Text.decode bytes = .ok text)
    (json : (folder.join (.ofText job.source)).hasSuffix yamlSuffixes = false)
    (read : Json.read (plainLines (Text.marked text)) = .ok value)
    (valid : validateDocument job.source value = .ok document) :
    job.textIn folder files = job.render document := by
  unfold textIn Job.textFrom loadFrom loadFile readText
  simp only [near, Bool.false_eq_true, if_false, Files.run_bind, Files.run_kindAt,
    Files.run_readFile, present, content, decoded, Files.run_pure, json]
  simp [Format.read, read, Except.mapError, valid, Except.bind]

/-! ## Outputs -/

section Outputs

variable {output text : String}

/-- A text has gone to an output, which is told as the given place. -/
inductive Delivered (files : Files) (output text : String) : String → Files → Prop
  | file
      {plain : String}
      {after : Files}
      (near : isRemote output.toList = false)
      (encoded : Text.plain? text = .ok plain)
      (written : Written files (.ofText output) plain.toUTF8.toList after) :
      Delivered files output text (Path.ofText output).text after
  | remote
      {told : String}
      (far : isRemote output.toList = true)
      (stored : Surroundings.stored output text = .ok told) :
      Delivered files output text told files

/-- A text has not gone to an output, and this is a failure of the output. No more than
folders on the way to a file are new. -/
inductive Undelivered (files : Files) (output text : String) : Failure → Files → Prop
  | file
      {error : SystemError}
      {after : Files}
      (near : isRemote output.toList = false)
      (unwritten : files.run (writeInFolder (.ofText output) (fileBytes text)) =
        (.error error, after))
      (said : error.fault.number?.isSome = true)
      (grown : Grown (Path.ofText output).parent files after) :
      Undelivered files output text (.output (Path.ofText output).text error.message) after
  | remote
      {place cause : String}
      (far : isRemote output.toList = true)
      (unstored : Surroundings.stored output text = .error (.system place cause)) :
      Undelivered files output text (.output place cause) files

/-- A text has not gone to an output, and this is no failure of the output. -/
inductive Interrupted (files : Files) (output text : String) : Failure → Files → Prop
  /-- In the path there is a character that no system takes. -/
  | path
      {error : SystemError}
      {after : Files}
      (near : isRemote output.toList = false)
      (unwritten : files.run (writeInFolder (.ofText output) (fileBytes text)) =
        (.error error, after))
      (unasked : error.fault.number? = none)
      (apt : error.fault.Apt (.ofText output))
      (grown : Grown (Path.ofText output).parent files after) :
      Interrupted files output text (.impossible error.message) after
  /-- In the text there is half of a surrogate pair. The file is left empty. -/
  | halves
      {error : Text.EncodeError}
      {after : Files}
      (near : isRemote output.toList = false)
      (unencoded : Text.plain? text = .error error)
      (ran : files.run (writeInFolder (.ofText output) []) = (.ok (), after))
      (emptied : Written files (.ofText output) [] after) :
      Interrupted files output text (.impossible error.message) after
  /-- The other system is at fault. -/
  | remote
      {reason : String}
      (far : isRemote output.toList = true)
      (unstored : Surroundings.stored output text = .error (.other reason)) :
      Interrupted files output text (.impossible reason) files

/-- What may be asked for to bring a text to an output. -/
inductive Emits (output text : String) : Access → Prop
  | file
      {access : Access}
      (near : isRemote output.toList = false)
      (stores : Stores (.ofText output) (fileBytes text) access) :
      Emits output text access
  | remote (far : isRemote output.toList = true) : Emits output text (.writeRemote output text)

theorem tracked_emit (output text : String) (files : Files) :
    Tracked (Emits output text) (emit output text) (emit output text) files := by
  unfold emit
  split
  · rename_i far
    refine .bind (.single (Emits.remote far) fun reading => by cases reading) ?_
    intro outcome _ _
    split <;> exact .pure _
  · rename_i near
    have near : isRemote output.toList = false := Bool.eq_false_iff.mpr near
    refine .bind ((tracked_writeInFolder _ _ files).mono fun _ => .file near) ?_
    intro outcome _ _
    cases outcome with
    | error error => exact .pure _
    | ok _ =>
        dsimp only
        split <;> exact .pure _

theorem run_emit_of_remote (far : isRemote output.toList = true) :
    files.run (emit output text) =
      (match Surroundings.stored output text with
        | .ok told => .ok told
        | .error (.system place cause) => .error (.output place cause)
        | .error (.other reason) => .error (.impossible reason), files) := by
  rw [emit, if_pos far, emitRemote, Files.run_bind, Files.run_writeRemote]
  cases Surroundings.stored output text with
  | ok told => rfl
  | error error => cases error <;> rfl

theorem run_emit_of_local (near : isRemote output.toList = false) :
    files.run (emit output text) =
      (match (files.run (writeInFolder (.ofText output) (fileBytes text))).1 with
        | .error error => .error (outputFailure (.ofText output) error)
        | .ok () =>
            match Text.plain? text with
            | .ok _ => .ok (Path.ofText output).text
            | .error halves => .error (.impossible halves.message),
        (files.run (writeInFolder (.ofText output) (fileBytes text))).2) := by
  rw [emit, if_neg (by simp [near]), emitFile, Files.run_bind]
  cases files.run (writeInFolder (.ofText output) (fileBytes text)) with
  | mk outcome after =>
      cases outcome with
      | error error => rfl
      | ok _ =>
          dsimp only
          cases Text.plain? text <;> rfl

/-- A text goes to an output, or this is a failure of the output, or the run is broken off. -/
theorem emit_cases (files : Files) (output text : String) :
    (∃ told after, files.run (emit output text) = (.ok told, after) ∧
      Delivered files output text told after) ∨
    (∃ failure after, files.run (emit output text) = (.error failure, after) ∧
      Undelivered files output text failure after) ∨
    ∃ failure after, files.run (emit output text) = (.error failure, after) ∧
      Interrupted files output text failure after := by
  cases place : isRemote output.toList with
  | true =>
      rw [run_emit_of_remote place]
      cases stored : Surroundings.stored output text with
      | ok told => exact .inl ⟨told, files, rfl, .remote place stored⟩
      | error error =>
          cases error with
          | system named cause => exact .inr (.inl ⟨_, files, rfl, .remote place stored⟩)
          | other reason => exact .inr (.inr ⟨_, files, rfl, .remote place stored⟩)
  | false =>
      rw [run_emit_of_local place]
      cases ran : files.run (writeInFolder (.ofText output) (fileBytes text)) with
      | mk outcome after =>
          rcases writeInFolder_cases ran with ⟨rfl, written⟩ | ⟨error, rfl, grown⟩
          · cases encoded : Text.plain? text with
            | ok plain =>
                rw [fileBytes, encoded] at written
                exact .inl ⟨_, after, rfl, .file place encoded written⟩
            | error halves =>
                rw [fileBytes, encoded] at written ran
                exact .inr (.inr ⟨_, after, rfl, .halves place encoded ran written⟩)
          · have apt := blaming_writeInFolder _ _ files error (congrArg Prod.fst ran)
            dsimp only [outputFailure]
            split
            · rename_i said
              exact .inr (.inl ⟨_, after, rfl, .file place ran said grown⟩)
            · rename_i unasked
              have none : error.fault.number? = none := by simpa using unasked
              exact .inr (.inr ⟨_, after, rfl, .path place ran none apt grown⟩)

theorem Undelivered.isReported (undelivered : Undelivered files output text failure after) :
    failure.isReported = true := by
  cases undelivered <;> rfl

theorem Interrupted.isReported (interrupted : Interrupted files output text failure after) :
    failure.isReported = false := by
  cases interrupted <;> rfl

theorem Interrupted.run_emit (interrupted : Interrupted files output text failure after) :
    files.run (emit output text) = (.error failure, after) := by
  cases interrupted with
  | path near unwritten unasked apt grown =>
      rw [run_emit_of_local near, unwritten]
      simp [outputFailure, unasked]
  | halves near unencoded ran emptied =>
      have none : fileBytes text = [] := by rw [fileBytes, unencoded]
      rw [run_emit_of_local near, none, ran, unencoded]
  | remote far unstored => rw [run_emit_of_remote far, unstored]

end Outputs

/-! ## One job -/

theorem run_runFrom (job : Job) (folder : Path) (files : Files) :
    files.run (job.runFrom folder) =
      match job.textIn folder files with
      | .ok text => files.run (emit job.output text)
      | .error failure => (.error failure, files) := by
  unfold Job.runFrom
  rw [Files.run_bind, run_textFrom]
  cases job.textIn folder files <;> rfl

theorem tracked_runFrom (job : Job) (folder : Path) (files : Files) :
    Tracked (fun _ => True) (job.runFrom folder) (job.runFrom folder) files := by
  refine .bind ((tracked_textFrom job folder files).mono fun _ _ => trivial) ?_
  intro outcome after _
  cases outcome with
  | ok text => exact (tracked_emit job.output text after).mono fun _ _ => trivial
  | error failure => exact .pure _

theorem accessesOf_runFrom (job : Job) (folder : Path) (files : Files) :
    accessesOf (job.runFrom folder) files = accessesOf (job.textFrom folder) files ++
      match job.textIn folder files with
      | .ok text => accessesOf (emit job.output text) files
      | .error _ => [] := by
  unfold Job.runFrom
  rw [accessesOf_bind (tracked_textFrom job folder files) (run_textFrom job folder files)]
  · cases job.textIn folder files <;> rfl
  · cases job.textIn folder files with
    | ok text => exact ⟨_, _, tracked_emit job.output text files⟩
    | error failure => exact ⟨fun _ => True, pure _, .pure _⟩

/-- Why a job is not done, or where its text went. -/
theorem run_run (job : Job) (files : Files) :
    files.run job.run =
      match job.folderIn files with
      | .ok folder => files.run (job.runFrom folder)
      | .error failure => (.error failure, files) := by
  unfold Job.run
  rw [Files.run_bind, run_prepare]
  cases job.folderIn files <;> rfl

theorem tracked_run (job : Job) (files : Files) :
    Tracked (fun _ => True) job.run job.run files := by
  refine .bind ((tracked_prepare job files).mono fun _ _ => trivial) ?_
  intro outcome after _
  cases outcome with
  | ok folder => exact tracked_runFrom job folder after
  | error failure => exact .pure _

theorem accessesOf_run (job : Job) (files : Files) :
    accessesOf job.run files = accessesOf job.prepare files ++
      match job.folderIn files with
      | .ok folder => accessesOf (job.runFrom folder) files
      | .error _ => [] := by
  unfold Job.run
  rw [accessesOf_bind (tracked_prepare job files) (run_prepare job files)]
  · cases job.folderIn files <;> rfl
  · cases job.folderIn files with
    | ok folder => exact ⟨_, _, tracked_runFrom job folder files⟩
    | error failure => exact ⟨fun _ => True, pure _, .pure _⟩

/-- What is asked for to prepare a job and then to load its document. -/
def Looks (job : Job) (folder : Path) (asked : List Access) : Prop :=
  ∃ prepared loaded, asked = prepared ++ loaded ∧
    (∀ access ∈ prepared, Prepares job.output access) ∧
    ∀ access ∈ loaded, Loads folder job.source access

/-- What is asked for to prepare a job, to load its document and then to bring a text to its
output. -/
def Works (job : Job) (folder : Path) (text : String) (asked : List Access) : Prop :=
  ∃ looked stored, asked = looked ++ stored ∧ Looks job folder looked ∧
    ∀ access ∈ stored, Emits job.output text access

/-- What comes of a job, and what is asked for meanwhile. The document is loaded and compiled
as it stands, and nothing is changed before this is done. -/
inductive Course (job : Job) (files : Files) :
    Except Failure String × Files → List Access → Prop
  /-- The job is not begun. -/
  | unready
      {failure : Failure}
      {asked : List Access}
      (unready : Unready files job.output failure)
      (prepares : ∀ access ∈ asked, Prepares job.output access) :
      Course job files (.error failure, files) asked
  /-- The document cannot be loaded or compiled. -/
  | failed
      {folder : Path}
      {failure : Failure}
      {asked : List Access}
      (ready : job.folderIn files = .ok folder)
      (uncompiled : job.textIn folder files = .error failure)
      (looks : Looks job folder asked) :
      Course job files (.error failure, files) asked
  /-- The text cannot be written, which is a failure of the output. -/
  | unwritten
      {folder : Path}
      {text : String}
      {failure : Failure}
      {after : Files}
      {asked : List Access}
      (ready : job.folderIn files = .ok folder)
      (compiled : job.textIn folder files = .ok text)
      (undelivered : Undelivered files job.output text failure after)
      (works : Works job folder text asked) :
      Course job files (.error failure, after) asked
  /-- The text cannot be written, which is no failure of the output. -/
  | interrupted
      {folder : Path}
      {text : String}
      {failure : Failure}
      {after : Files}
      {asked : List Access}
      (ready : job.folderIn files = .ok folder)
      (compiled : job.textIn folder files = .ok text)
      (interrupted : Interrupted files job.output text failure after)
      (works : Works job folder text asked) :
      Course job files (.error failure, after) asked
  /-- The text has gone to the output. -/
  | done
      {folder : Path}
      {text told : String}
      {after : Files}
      {asked : List Access}
      (ready : job.folderIn files = .ok folder)
      (compiled : job.textIn folder files = .ok text)
      (delivered : Delivered files job.output text told after)
      (works : Works job folder text asked) :
      Course job files (.ok told, after) asked

/-- The course that a job takes. -/
theorem course (job : Job) (files : Files) :
    Course job files (files.run job.run) (accessesOf job.run files) := by
  have prepares := (job.tracked_prepare files).accesses_allowed
  rw [run_run, accessesOf_run]
  cases ready : job.folderIn files with
  | error failure =>
      dsimp only
      rw [List.append_nil]
      exact .unready (folderIn_eq_error_iff.mp ready) prepares
  | ok folder =>
      have loads := (job.tracked_textFrom folder files).accesses_allowed
      dsimp only
      rw [run_runFrom, accessesOf_runFrom, ← List.append_assoc]
      cases compiled : job.textIn folder files with
      | error failure =>
          dsimp only
          rw [List.append_nil]
          exact .failed ready compiled ⟨_, _, rfl, prepares, loads⟩
      | ok text =>
          dsimp only
          have works : Works job folder text (accessesOf job.prepare files ++
              accessesOf (job.textFrom folder) files ++
              accessesOf (emit job.output text) files) :=
            ⟨_, _, rfl, ⟨_, _, rfl, prepares, loads⟩,
              (tracked_emit job.output text files).accesses_allowed⟩
          rcases emit_cases files job.output text with
            ⟨told, after, ran, delivered⟩ | ⟨failure, after, ran, undelivered⟩ |
            ⟨failure, after, ran, broken⟩
          · rw [ran]
            exact .done ready compiled delivered works
          · rw [ran]
            exact .unwritten ready compiled undelivered works
          · rw [ran]
            exact .interrupted ready compiled broken works

end Job

namespace CommandLine

/-! ## Jobs in order -/

section Jobs

variable [Surroundings] {silent : Bool}

/-- Jobs have been done in order, each on the files that the jobs before it have left.
Nothing was asked for but what each of them asks for. -/
inductive Done : Files → List Job → List Access → Files → Prop
  | nil {files : Files} : Done files [] [] files
  | cons
      {files middle final : Files}
      {job : Job}
      {others : List Job}
      {told : String}
      {asked accesses : List Access}
      (course : job.Course files (.ok told, middle) asked)
      (rest : Done middle others accesses final) :
      Done files (job :: others) (asked ++ accesses) final

/-- How a run ends after some jobs have been done, given those that are left, and what is
asked for then. -/
inductive Ends (silent : Bool) (middle : Files) (done : List Job) :
    List Job → List Access → Outcome × Files → Prop
  /-- All jobs have been done. -/
  | finished {outcome : Outcome} (code : outcome.code = 0) (whole : outcome.breakdown = none) :
      Ends silent middle done [] [] (outcome, middle)
  /-- The next job is not done. -/
  | stopped
      {job : Job}
      {others : List Job}
      {asked : List Access}
      {outcome : Outcome}
      {final : Files}
      {failure : Failure}
      (course : job.Course middle (.error failure, final) asked)
      (code : outcome.code = 1)
      (told : ∀ breakdown, outcome.breakdown = some breakdown ↔
        failure.isReported = false ∧ breakdown = .failure failure) :
      Ends silent middle done (job :: others) asked (outcome, final)
  /-- The last job that was done cannot be told of. -/
  | untold
      {job : Job}
      {left : List Job}
      {files : Files}
      {place : String}
      {outcome : Outcome}
      {breakdown : Breakdown}
      (told : silent = false)
      (last : done.getLast? = some job)
      (ran : files.run job.run = (.ok place, middle))
      (unshown : announcement place job.source = .error breakdown)
      (code : outcome.code = 1)
      (broken : outcome.breakdown = some breakdown) :
      Ends silent middle done left [] (outcome, middle)

theorem Ends.after
    {middle : Files}
    {job : Job}
    {done left : List Job}
    {asked : List Access}
    {ran : Outcome × Files}
    (ends : Ends silent middle done left asked ran) :
    Ends silent middle (job :: done) left asked ran := by
  cases ends with
  | finished code whole => exact .finished code whole
  | stopped course code told => exact .stopped course code told
  | untold told last ran unshown code broken =>
      refine .untold told ?_ ran unshown code broken
      rw [List.getLast?_cons, last]
      rfl

theorem tracked_runJobs (silent : Bool) (printed : String) (jobs : List Job) (files : Files) :
    Tracked (fun _ => True) (runJobs silent printed jobs) (runJobs silent printed jobs) files := by
  induction jobs generalizing printed files with
  | nil => exact .pure _
  | cons job others hypothesis =>
      refine .bind (job.tracked_run files) ?_
      intro outcome after _
      cases outcome with
      | error failure => exact .pure _
      | ok path =>
          dsimp only
          split
          · exact hypothesis printed after
          · split
            · exact hypothesis _ after
            · exact .pure _

/-- A job that is not done ends the run. -/
theorem run_of_failed
    {job : Job}
    {files after : Files}
    {failure : Failure}
    (ran : files.run job.run = (.error failure, after))
    (printed : String)
    (others : List Job) :
    files.run (runJobs silent printed (job :: others)) = (failureOutcome printed failure, after) ∧
      accessesOf (runJobs silent printed (job :: others)) files = accessesOf job.run files := by
  constructor
  · rw [runJobs, Files.run_bind, ran]
    rfl
  · rw [runJobs, accessesOf_bind (job.tracked_run files) ran]
    · exact List.append_nil _
    · exact ⟨fun _ => True, pure _, .pure _⟩

/-- After a job that is done and told of, or need not be, the run goes on. -/
theorem run_of_done
    {job : Job}
    {files middle : Files}
    {path : String}
    (ran : files.run job.run = (.ok path, middle))
    (printed : String)
    (others : List Job) :
    (silent = false ∧ ∃ breakdown, announcement path job.source = .error breakdown ∧
      files.run (runJobs silent printed (job :: others)) =
        (brokenOff printed breakdown, middle) ∧
      accessesOf (runJobs silent printed (job :: others)) files = accessesOf job.run files) ∨
    (silent = true ∨ ∃ told, announcement path job.source = .ok told) ∧ ∃ further,
      files.run (runJobs silent printed (job :: others)) =
        middle.run (runJobs silent further others) ∧
      accessesOf (runJobs silent printed (job :: others)) files =
        accessesOf job.run files ++ accessesOf (runJobs silent further others) middle := by
  rw [runJobs, Files.run_bind, ran, runJobs, accessesOf_bind (job.tracked_run files) ran]
  · dsimp only
    by_cases quiet : silent = true
    · rw [if_pos quiet, if_pos quiet]
      exact .inr ⟨.inl quiet, printed, rfl, rfl⟩
    · rw [if_neg quiet, if_neg quiet]
      cases announcement path job.source with
      | ok told => exact .inr ⟨.inr ⟨told, rfl⟩, printed ++ told, rfl, rfl⟩
      | error breakdown =>
          exact .inl ⟨Bool.eq_false_iff.mpr quiet, breakdown, rfl, rfl, List.append_nil _⟩
  · dsimp only
    split
    · exact ⟨_, _, tracked_runJobs _ _ _ _⟩
    · split
      · exact ⟨_, _, tracked_runJobs _ _ _ _⟩
      · exact ⟨fun _ => True, pure _, .pure _⟩

/-- Jobs are done in order until one is not done. Then what was written are the texts of the
jobs before it, and no later document is looked at. If its document cannot be loaded or
compiled, nothing is changed for its own sake. -/
theorem runJobs_stops_at_first_failure
    (silent : Bool)
    (printed : String)
    (jobs : List Job)
    (files : Files) :
    ∃ done left before middle asked,
      jobs = done ++ left ∧ Done files done before middle ∧
      accessesOf (runJobs silent printed jobs) files = before ++ asked ∧
      Ends silent middle done left asked (files.run (runJobs silent printed jobs)) := by
  induction jobs generalizing printed files with
  | nil => exact ⟨[], [], [], files, [], rfl, .nil, rfl, .finished rfl rfl⟩
  | cons job others hypothesis =>
      have course := job.course files
      cases ran : files.run job.run with
      | mk outcome middle =>
          rw [ran] at course
          cases outcome with
          | error failure =>
              obtain ⟨same, asks⟩ := run_of_failed ran printed others
              refine ⟨[], job :: others, [], files, _, rfl, .nil, asks, ?_⟩
              rw [same]
              exact .stopped course (code_failureOutcome printed failure)
                fun _ => breakdown_failureOutcome_iff printed failure
          | ok place =>
              rcases run_of_done ran printed others with
                ⟨told, breakdown, unshown, same, asks⟩ | ⟨_, further, same, asks⟩
              · refine ⟨[job], others, _, middle, [], rfl, .cons course .nil, ?_, ?_⟩
                · rw [asks, List.append_nil, List.append_nil]
                · rw [same]
                  exact .untold told rfl ran unshown rfl rfl
              · obtain ⟨done, left, before, last, final, rfl, rest, askedThere, ends⟩ :=
                  hypothesis further middle
                refine ⟨job :: done, left, _, last, final, rfl, .cons course rest, ?_, ?_⟩
                · rw [asks, askedThere, List.append_assoc]
                · rw [same]
                  exact ends.after

end Jobs

/-- A null character in the path of an output breaks a run off, although the document is
compiled. -/
theorem null_output_breaks_off :
    let files : Files := { entries := [(["a.json"], .file [0x7b, 0x7d])], working := [] }
    let job : Job := { source := "a.json", output := "a\x00b" }
    (∃ folder text, job.folderIn files = .ok folder ∧ job.textIn folder files = .ok text) ∧
      files.run (runJobs false "" [job]) =
        (brokenOff "" (.failure (.impossible "embedded null byte")), files) := by
  intro files job
  have near : isRemote "a\x00b".toList = false := by decide
  have ready : job.folderIn files = .ok ⟨"/", []⟩ := Job.folderIn_of_local rfl near
  have compiled : job.textIn ⟨"/", []⟩ files = job.render (.mapping []) := by
    have present : files.kindAt (Path.join ⟨"/", []⟩ (.ofText "a.json")) = .ok (some .file) := rfl
    have content : files.contentAt (Path.join ⟨"/", []⟩ (.ofText "a.json")) = .ok [0x7b, 0x7d] :=
      rfl
    have decoded : Text.decode [0x7b, 0x7d] = .ok ['\x7b', '\x7d'] := by cbv
    have json : (Path.join ⟨"/", []⟩ (.ofText "a.json")).hasSuffix yamlSuffixes = false := by
      decide
    have read : Json.read (plainLines (Text.marked ['\x7b', '\x7d'])) = .ok (.mapping []) := by
      cbv
    have valid : validateDocument "a.json" (.mapping []) = .ok (.mapping []) := by cbv
    exact Job.textIn_of_file (by decide) present content decoded json read valid
  obtain ⟨text, rendered⟩ : ∃ text, job.render (.mapping []) = .ok text := by
    have generated : (Typing.generateFrom (.ofValue (.mapping [])) {}).result.isOk = true := by
      cbv
    unfold Job.render
    cases result : (Typing.generateFrom (.ofValue (.mapping [])) job.options).result with
    | ok text => exact ⟨text, rfl⟩
    | error interruption =>
        rw [show job.options = {} from rfl] at result
        rw [result] at generated
        cases generated
  rw [rendered] at compiled
  refine ⟨⟨_, text, ready, compiled⟩, ?_⟩
  have unwritten : files.run (writeInFolder (.ofText "a\x00b") (fileBytes text)) =
      (.error ⟨.nullCharacter, some (.ofText "a\x00b")⟩, files) := rfl
  have interrupted : Job.Interrupted files job.output text (.impossible "embedded null byte")
      files :=
    .path near unwritten rfl (show (Path.ofText "a\x00b").hasNull = true by decide) (.refl _ _)
  have ran : files.run job.run = (.error (.impossible "embedded null byte"), files) := by
    rw [Job.run_run, ready]
    dsimp only
    rw [Job.run_runFrom, compiled]
    exact interrupted.run_emit
  exact (run_of_failed ran "" []).1

end CommandLine

end ApiTypings
