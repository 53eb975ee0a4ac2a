import Provision.Proofs.Cli.Handling
import Provision.Proofs.Resource.BrokenIdentity

/-!
# The file of a state tracks the steps

Commands are launched one after the other on one file, each in surroundings of its own, and the file can be written
(`Launch`, `History`). A launch that gets to its step ends as the step does and writes the file or leaves it
(`Launch.ends`), and after it the file tells what is known by the document that the step left
(`Launch.sameKnown_after`). Main statement: after every history the file tells what is known by the steps that were
taken, whether they succeeded or failed, and so it does after any further launch (`state_file_tracked`).
-/

namespace Provision.Cli

variable {path : String} {fs : Files} {d : Document}

/-! ## Launches -/

/-- A launch of the program with a command on the file of a path: what is around it, the session in which it starts
except for the files, the command, and all options. -/
structure Launch (path : String) where
  env : List (String × String)
  out : Surroundings
  session : Session
  command : FileCommand
  invocation : Invocation
  command_eq : invocation.command = command.on path

namespace Launch

section Definitions

variable (c : Launch path) (fs : Files)

/-- The session in which the program starts. -/
def start : Session := { c.session with files := fs }

/-- How the program ends. -/
def run : Except Trouble String × Session := (c.invocation.task c.env c.out).run (c.start fs)

/-- The files after that. -/
def after : Files := (c.run fs).2.files

/-- What is found out before the step, if the program gets to it. -/
def handling : Except Trouble Handling :=
  ((c.command.handling path (providerOf c.env c.out c.invocation)).run (c.start fs)).1

/-- What is known after a launch: what the step left, or what was known before if none was taken, or if it was an import
that failed. -/
def leaves (known : Except Trouble (Option Document)) : Except Trouble (Option Document) :=
  match c.handling fs with
  | .error _ => known
  | .ok h =>
    match h.final? (c.start fs) with
    | some d => .ok (known? d)
    | none => known

end Definitions

variable {c : Launch path} {h : Handling} {e : Trouble}

theorem task_eq (c : Launch path) : c.invocation.task c.env c.out =
    c.command.handling path (providerOf c.env c.out c.invocation) >>= Handling.finish path := by
  rw [Invocation.task, c.command_eq]
  cases c.command with
  | apply typeName desired => simp only [FileCommand.on, applyTask_eq, FileCommand.handling, bind_assoc, pure_bind]
  | read => simp only [FileCommand.on, readTask_eq, FileCommand.handling, recordedHandling, bind_assoc, pure_bind]
  | takeOver typeName id => simp only [FileCommand.on, takeOverTask_eq, FileCommand.handling, bind_assoc, pure_bind]
  | delete => simp only [FileCommand.on, deleteTask_eq, FileCommand.handling, recordedHandling, bind_assoc, pure_bind]

theorem run_handling (c : Launch path) (fs : Files) :
    (c.command.handling path (providerOf c.env c.out c.invocation)).run (c.start fs) = (c.handling fs, c.start fs) :=
  (FileCommand.keeps_handling (keeps_providerOf _ _ _) c.command).run_eq _

theorem from_of_handling (hh : c.handling fs = .ok h) : Handling.From fs path c.command h :=
  FileCommand.from_of_handling (s := c.start fs) (keeps_providerOf _ _ _) hh

/-- **A launch that fails before its step leaves everything as it was.** -/
theorem run_of_error (he : c.handling fs = .error e) : c.run fs = (.error e, c.start fs) := by
  have hrun := c.run_handling fs
  rw [he] at hrun
  rw [run, task_eq, Task.run_bind_of_error hrun]

theorem after_of_error (he : c.handling fs = .error e) : c.after fs = fs := by rw [after, run_of_error he, start]

/-- **A launch that gets to its step ends as the step does**, and nothing but the file differs, which is written or
left. -/
theorem ends (htakes : fs.Takes path) (hh : c.handling fs = .ok h) :
    c.run fs = (h.result (c.start fs), { (h.taken (c.start fs)).session with files := c.after fs }) ∧
      if h.writes (c.start fs) then fs.write? path (h.taken (c.start fs)).state.toJson.pretty = some (c.after fs)
      else c.after fs = fs := by
  have hhandling := c.run_handling fs
  rw [hh] at hhandling
  obtain ⟨fs', hfinish, hwritten⟩ := h.run_finish (s := c.start fs) htakes
  have hrun : c.run fs = (h.result (c.start fs), { (h.taken (c.start fs)).session with files := fs' }) := by
    rw [run, task_eq, Task.run_bind_of_ok hhandling, hfinish]
  have hafter : c.after fs = fs' := by rw [after, hrun]
  rw [hafter]
  exact ⟨hrun, hwritten⟩

theorem written_of_writes (htakes : fs.Takes path) (hh : c.handling fs = .ok h)
    (hwrites : h.writes (c.start fs) = true) :
    fs.write? path (h.taken (c.start fs)).state.toJson.pretty = some (c.after fs) := by
  have hends := (ends htakes hh).2
  rwa [hwrites, if_pos rfl] at hends

theorem after_of_not_writes (htakes : fs.Takes path) (hh : c.handling fs = .ok h)
    (hwrites : h.writes (c.start fs) = false) : c.after fs = fs := by
  have hends := (ends htakes hh).2
  rwa [hwrites, if_neg Bool.false_ne_true] at hends

/-- The file can be written after a launch, as it could before. -/
theorem takes_after (htakes : fs.Takes path) (c : Launch path) : (c.after fs).Takes path := by
  cases hh : c.handling fs with
  | error e => rwa [after_of_error hh]
  | ok h =>
    cases hwrites : h.writes (c.start fs) with
    | true => exact Files.takes_of_written (written_of_writes htakes hh hwrites)
    | false => rwa [after_of_not_writes htakes hh hwrites]

/-! ## What the file tells after a launch -/

/-- **After a step, the file tells what is known by the document that the step left.** -/
theorem sameKnown_after (htakes : fs.Takes path) (hh : c.handling fs = .ok h)
    (hd : h.final? (c.start fs) = some d) : SameKnown (stateIn (c.after fs) path) (.ok (known? d)) := by
  have hf := c.from_of_handling hh
  cases hwrites : h.writes (c.start fs) with
  | true =>
    have hstorable := h.kind.storable_takeDocument h.provider h.step hf.storable (c.start fs)
    rw [Handling.final?_eq_some hd]
    exact sameKnown_of_written hstorable (written_of_writes htakes hh hwrites)
  | false =>
    rw [after_of_not_writes htakes hh hwrites, hf.known_of_not_writes hwrites hd]
    exact sameKnown_refl _

/-- A launch that fails at its step does so because the step failed. -/
theorem exists_report_of_error (htakes : fs.Takes path) (hh : c.handling fs = .ok h) (he : (c.run fs).1 = .error e) :
    ∃ why, (h.taken (c.start fs)).report = .error why := by
  rw [(ends htakes hh).1] at he
  cases hreport : (h.taken (c.start fs)).report with
  | error why => exact ⟨why, rfl⟩
  | ok _ =>
    rw [Handling.result, hreport] at he
    cases he

/-- An import or a deletion that fails leaves the files. -/
theorem after_of_failed (htakes : fs.Takes path) (he : (c.run fs).1 = .error e)
    (hcommand : c.command = .delete ∨ ∃ typeName id, c.command = .takeOver typeName id) : c.after fs = fs := by
  cases hh : c.handling fs with
  | error e' => exact after_of_error hh
  | ok h =>
    obtain ⟨why, hreport⟩ := exists_report_of_error htakes hh he
    have hf := c.from_of_handling hh
    refine after_of_not_writes htakes hh ?_
    rcases hcommand with hcommand | ⟨typeName, id, hcommand⟩
    all_goals
      rw [hcommand] at hf
      cases hf
      rw [Handling.writes, hreport]
      rfl

/-- So does an application that fails where nothing was known. -/
theorem after_of_first_failed {typeName desired : String} (htakes : fs.Takes path) (he : (c.run fs).1 = .error e)
    (hcommand : c.command = .apply typeName desired) (hnone : stateIn fs path = .ok none) : c.after fs = fs := by
  cases hh : c.handling fs with
  | error e' => exact after_of_error hh
  | ok h =>
    obtain ⟨why, hreport⟩ := exists_report_of_error htakes hh he
    have hf := c.from_of_handling hh
    refine after_of_not_writes htakes hh ?_
    rw [hcommand] at hf
    cases hf with
    | apply hprior =>
      cases hprior.symm.trans hnone
      rw [Handling.writes, hreport]
      rfl

/-- A resource that was deleted for a new one, which is not created, is not known any more. -/
theorem stateIn_of_losesReplaced {v : Json} (htakes : fs.Takes path) (hh : c.handling fs = .ok h)
    (hstep : h.step = .apply v) (hlost : h.kind.resource.LosesReplaced h.provider h.document v (c.start fs)) :
    stateIn (c.after fs) path = .ok none := by
  have hfinal : h.final? (c.start fs) = some (h.taken (c.start fs)).state := by rw [Handling.final?, hstep]
  have hid : (h.taken (c.start fs)).state.id = "" := by
    rw [Handling.taken, hstep]
    exact Resource.id_of_losesReplaced hlost
  have htold := sameKnown_after htakes hh hfinal
  rw [known?_of_id hid] at htold
  exact eq_of_sameKnown_none htold

/-- **The file tracks the steps:** how a launch ends, and what the file tells after it. -/
structure Tracked (c : Launch path) (fs : Files) : Prop where
  /-- A launch that fails before its step leaves everything. -/
  failed : ∀ e, c.handling fs = .error e → c.run fs = (.error e, c.start fs)
  /-- Otherwise it ends as its step does, and nothing but the files differs. -/
  ended : ∀ h, c.handling fs = .ok h →
    c.run fs = (h.result (c.start fs), { (h.taken (c.start fs)).session with files := c.after fs })
  /-- The file tells what is known by the document that the step left. -/
  told : ∀ h d, c.handling fs = .ok h → h.final? (c.start fs) = some d →
    SameKnown (stateIn (c.after fs) path) (.ok (known? d))
  /-- An import or a deletion that fails leaves the files. -/
  untouched : ∀ e, (c.run fs).1 = .error e → (c.command = .delete ∨ ∃ typeName id, c.command = .takeOver typeName id) →
    c.after fs = fs
  /-- After a first application that fails, nothing is known. -/
  first : ∀ typeName desired e, c.command = .apply typeName desired → stateIn fs path = .ok none →
    (c.run fs).1 = .error e → stateIn (c.after fs) path = .ok none
  /-- After a resource was deleted for a new one, which is not created, nothing is known. -/
  replaced : ∀ h v, c.handling fs = .ok h → h.step = .apply v →
    h.kind.resource.LosesReplaced h.provider h.document v (c.start fs) → stateIn (c.after fs) path = .ok none

theorem tracked (htakes : fs.Takes path) (c : Launch path) : c.Tracked fs where
  failed := fun _ he => run_of_error he
  ended := fun _ hh => (ends htakes hh).1
  told := fun _ _ hh hd => sameKnown_after htakes hh hd
  untouched := fun _ he hcommand => after_of_failed htakes he hcommand
  first := fun _ _ _ hcommand hnone he => by rwa [after_of_first_failed htakes he hcommand hnone]
  replaced := fun _ _ hh hstep hlost => stateIn_of_losesReplaced htakes hh hstep hlost

/-- If the file told what was known before a launch, it tells what is known after it. -/
theorem sameKnown_leaves {known : Except Trouble (Option Document)} (htakes : fs.Takes path)
    (hknown : SameKnown (stateIn fs path) known) (c : Launch path) :
    SameKnown (stateIn (c.after fs) path) (c.leaves fs known) := by
  unfold leaves
  cases hh : c.handling fs with
  | error e => rwa [after_of_error hh]
  | ok h =>
    dsimp only
    cases hfinal : h.final? (c.start fs) with
    | some d => exact sameKnown_after htakes hh hfinal
    | none => rwa [after_of_not_writes htakes hh (Handling.not_writes_of_final?_eq_none hfinal)]

end Launch

/-! ## Histories -/

/-- A file on which commands are launched one after the other: the files, and what is known by the steps that were
taken. At the start this is what is read. -/
inductive History (path : String) (start : Files) : Files → Except Trouble (Option Document) → Prop
  | start : History path start start (stateIn start path)
  /-- Other files change, but not this one, and it can still be written. -/
  | others {fs fs' : Files} {known : Except Trouble (Option Document)} (h : History path start fs known)
    (hat : fs'.at? path = fs.at? path) (htakes : fs'.Takes path) : History path start fs' known
  | launch {fs : Files} {known : Except Trouble (Option Document)} (h : History path start fs known)
    (c : Launch path) : History path start (c.after fs) (c.leaves fs known)

/-- **Whatever is launched, and however it ends, the file tells what is known by the steps that were taken**, and it
tracks the step of any further launch. -/
theorem state_file_tracked {start : Files} {known : Except Trouble (Option Document)} (hstart : start.Takes path)
    (h : History path start fs known) : SameKnown (stateIn fs path) known ∧ ∀ c : Launch path, c.Tracked fs := by
  have hinvariant : fs.Takes path ∧ SameKnown (stateIn fs path) known := by
    induction h with
    | start => exact ⟨hstart, sameKnown_refl _⟩
    | others h hat htakes ih => exact ⟨htakes, stateIn_congr hat ▸ ih.2⟩
    | launch h c ih => exact ⟨Launch.takes_after ih.1 c, Launch.sameKnown_leaves ih.1 ih.2 c⟩
  exact ⟨hinvariant.2, Launch.tracked hinvariant.1⟩

/-! ## A resource that cannot be asked about -/

/-- The document of an account with an identity that names no instance. -/
def brokenDocument : Document := ⟨Account.typeName, "root", Account.sample.toJson⟩

/-- Files of which one records it. -/
def brokenFiles : Files := ⟨[], [(["state.json"], .file brokenDocument.toJson.pretty)]⟩

/-- A launch that asks about it. -/
def asking : Launch "state.json" where
  env := [("TENCENTCLOUD_SECRET_ID", "id"), ("TENCENTCLOUD_SECRET_KEY", "key")]
  out := Provider.refusing.out
  session := {}
  command := .read
  invocation := { command := .read "state.json" }
  command_eq := rfl

theorem filePlace?_brokenFiles : brokenFiles.filePlace? "state.json" = some ["state.json"] := rfl

theorem takes_brokenFiles : brokenFiles.Takes "state.json" := by
  intro text
  rw [Files.write?, filePlace?_brokenFiles]
  rfl

theorem stateIn_brokenFiles : stateIn brokenFiles "state.json" = .ok (some brokenDocument.retold) := by
  have hstorable : brokenDocument.Storable := Kind.stored_toJson (k := .account) ⟨fits64_none, fitsNat64_none⟩
  have hat : brokenFiles.at? "state.json" = some (.file brokenDocument.toJson.pretty) := by
    rw [Files.at?, filePlace?_brokenFiles]
    rfl
  have hread : brokenFiles.read? "state.json" = some brokenDocument.toJson.pretty := by rw [Files.read?, hat]
  rw [stateIn_of_read? hread, toldBy, Document.ofText_pretty hstorable]
  rfl

theorem handling_asking : ∃ p, asking.handling brokenFiles =
    .ok ⟨p, .account, .read, brokenDocument.retold, true⟩ := by
  have hprovider : ∃ p, (providerOf asking.env asking.out asking.invocation).run (asking.start brokenFiles) =
      (.ok p, asking.start brokenFiles) := ⟨_, rfl⟩
  obtain ⟨p, hp⟩ := hprovider
  have hd : (requireState "state.json").run (asking.start brokenFiles) =
      (.ok brokenDocument.retold, asking.start brokenFiles) := run_requireState_eq_ok.2 stateIn_brokenFiles
  have hcommand : asking.command = .read := rfl
  refine ⟨p, ?_⟩
  rw [Launch.handling, hcommand, FileCommand.handling, recordedHandling, Task.run_bind_of_ok hp,
    Task.run_bind_of_ok hd]
  rfl

/-- The step on a broken identity fails, and the file still tells of the document. -/
theorem state_file_tracked_broken : brokenFiles.Takes "state.json" ∧ ∃ d : Document, d.id = "root" ∧
    History "state.json" brokenFiles (asking.after brokenFiles) (.ok (some d)) ∧
    SameKnown (stateIn (asking.after brokenFiles) "state.json") (.ok (some d)) ∧
    ∀ c : Launch "state.json", c.Tracked (asking.after brokenFiles) := by
  have htakes := takes_brokenFiles
  obtain ⟨p, hhandling⟩ := handling_asking
  have hbroken : Kind.account.Broken "root" := Account.broken_iff.2 (by decide +kernel)
  have hrejects := Kind.account.rejects hbroken (by decide) p
  obtain ⟨e, d, hread, hid, -⟩ := hrejects.readDocument (d := brokenDocument.retold) rfl (asking.start brokenFiles)
  have hne : ¬d.id = "" := by
    rw [hid]
    decide
  have hleaves : asking.leaves brokenFiles (stateIn brokenFiles "state.json") = .ok (some d) := by
    rw [Launch.leaves, hhandling]
    simp only [Handling.final?, Handling.taken, Resource.takeDocument, hread, Taken.ofDocument, Except.map, known?,
      if_neg hne]
  have hhistory : History "state.json" brokenFiles (asking.after brokenFiles) (.ok (some d)) :=
    hleaves ▸ History.start.launch asking
  obtain ⟨hknown, htracked⟩ := state_file_tracked htakes hhistory
  exact ⟨htakes, d, hid, hhistory, hknown, htracked⟩

end Provision.Cli
