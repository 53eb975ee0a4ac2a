import Provision.Proofs.Cli.Recorded
import Provision.Proofs.Resource.Failing
import Provision.Proofs.Resource.Talks

/-!
# Commands on the file of a state, and their steps

A command that works on the file of a state first finds out what there is to do: whom to ask, the step, and the document
on which it is taken (`Handling`, `FileCommand.handling`). Then it takes the step, writes the document that the step
left or not (`Handling.writes`), and ends as the step did (`Handling.finish`). Main statements: each command is these
two parts one after the other (`applyTask_eq`, `readTask_eq`, `takeOverTask_eq`, `deleteTask_eq`), the second one
changes nothing but the file (`Handling.run_finish`), and if it does not write the document, then what was known before
is what the step left (`Handling.From.known_of_not_writes`).
-/

namespace Provision.Cli

variable {path : String} {fs fs' : Files} {d : Document} {s : Session}

/-! ## Before and after the step -/

/-- A command that works on the file of a state, which is named apart. -/
inductive FileCommand where
  | apply (typeName desired : String)
  | read
  | takeOver (typeName id : String)
  | delete
deriving DecidableEq, Repr

/-- The command on the file of a path. -/
def FileCommand.on (path : String) : FileCommand → Command
  | .apply typeName desired => .apply typeName desired path
  | .read => .read path
  | .takeOver typeName id => .takeOver typeName id path
  | .delete => .delete path

/-- What a command has found out before it takes a step: whom to ask, the step, the document on which it is taken, and
whether a document was recorded. -/
structure Handling where
  provider : Provider
  kind : Kind
  step : DocumentStep
  document : Document
  recorded : Bool

/-- What a command does before a step on the document that is recorded. -/
def recordedHandling (path : String) (provider : Task Provider) (step : DocumentStep) : Task Handling := do
  let p ← provider
  let d ← requireState path
  let k ← Task.ofExcept .failure (Kind.ofName d.typeName)
  pure ⟨p, k, step, d, true⟩

/-- What a command does before its step. -/
def FileCommand.handling (path : String) (provider : Task Provider) : FileCommand → Task Handling
  | .apply typeName desired => do
    let p ← provider
    let k ← Task.ofExcept .failure (Kind.ofName typeName)
    let v ← readDesired desired
    let prior ← readState path
    pure ⟨p, k, .apply v, prior.getD (Document.absent typeName), prior.isSome⟩
  | .read => recordedHandling path provider .read
  | .takeOver typeName id => do
    let p ← provider
    let k ← Task.ofExcept .failure (Kind.ofName typeName)
    pure ⟨p, k, .importFrom id, Document.absent typeName, false⟩
  | .delete => recordedHandling path provider .delete

namespace Handling

/-- How the step ends. -/
def taken (h : Handling) (s : Session) : Taken Document := h.kind.resource.takeDocument h.provider h.step h.document s

/-- Whether the document is written after the step: always, if the step succeeds or only asks; after an application
that failed, if a document was recorded before. -/
def writes (h : Handling) (s : Session) : Bool :=
  (h.taken s).report.toBool || match h.step with
    | .read => true
    | .apply _ => h.recorded
    | _ => false

/-- What is printed after the step. -/
def output (h : Handling) (d : Document) : String :=
  match h.step with
  | .delete => "deleted " ++ d.typeName ++ "\n"
  | _ => line d.toJson

/-- What a command does from its step on. -/
def finish (path : String) (h : Handling) : Task String := do
  let (o, writes) ← ExceptT.mk fun s => (.ok (h.taken s, h.writes s), (h.taken s).session)
  if writes then writeState path o.state
  let _ ← Task.ofExcept .failure o.report
  pure (h.output o.state)

end Handling

/-! ## The commands are these two parts -/

theorem Task.ext {α : Type} {x y : Task α} (h : ∀ s, x.run s = y.run s) : x = y := funext h

theorem applyTask_eq (p : Provider) (typeName desired path : String) :
    applyTask p typeName desired path = (FileCommand.apply typeName desired).handling path (pure p) >>=
      Handling.finish path := by
  simp only [FileCommand.handling, applyTask, bind_assoc, pure_bind]
  congr! 6 with k v prior
  refine Task.ext fun s => ?_
  rw [Handling.finish, Task.run_bind, Task.run_bind]
  simp only [stepOn, ExceptT.run_mk, Handling.taken, Handling.writes, Resource.takeDocument, Taken.ofDocument]
  cases (k.resource.applyDocument p (prior.getD (Document.absent typeName)) v s).result with
  | ok _ => rfl
  | error e => cases prior <;> rfl

theorem readTask_eq (p : Provider) (path : String) :
    readTask p path = FileCommand.read.handling path (pure p) >>= Handling.finish path := by
  simp only [FileCommand.handling, recordedHandling, readTask, bind_assoc, pure_bind]
  congr! 4 with d k
  refine Task.ext fun s => ?_
  rw [Handling.finish, Task.run_bind, Task.run_bind]
  simp only [stepOn, ExceptT.run_mk, Handling.taken, Handling.writes, Resource.takeDocument, Taken.ofDocument]
  cases (k.resource.readDocument p d s).result <;> rfl

theorem takeOverTask_eq (p : Provider) (typeName id path : String) :
    takeOverTask p typeName id path = (FileCommand.takeOver typeName id).handling path (pure p) >>=
      Handling.finish path := by
  simp only [FileCommand.handling, takeOverTask, bind_assoc, pure_bind]
  congr! 2 with k
  refine Task.ext fun s => ?_
  rw [Handling.finish, Task.run_bind, Task.run_bind]
  simp only [Task.ofRun, ExceptT.run_mk, Handling.taken, Handling.writes, Resource.takeDocument]
  rcases k.resource.importDocument p id s with ⟨_ | d, t⟩ <;> rfl

theorem deleteTask_eq (p : Provider) (path : String) :
    deleteTask p path = FileCommand.delete.handling path (pure p) >>= Handling.finish path := by
  simp only [FileCommand.handling, recordedHandling, deleteTask, bind_assoc, pure_bind]
  congr! 4 with d k
  refine Task.ext fun s => ?_
  rw [Handling.finish, Task.run_bind, Task.run_bind]
  simp only [stepOn, ExceptT.run_mk, Handling.taken, Handling.writes, Resource.takeDocument, Taken.ofDocument]
  cases (k.resource.deleteDocument p d s).result <;> rfl

/-! ## Before the step -/

theorem keeps_providerOf (env : List (String × String)) (out : Surroundings) (i : Invocation) :
    (providerOf env out i).Keeps :=
  Task.keeps_bind Task.keeps_files fun _ => Task.keeps_bind (Task.keeps_ofExcept _ _) fun _ => Task.keeps_ofExcept _ _

theorem keeps_requireState (path : String) : (requireState path).Keeps := by
  refine Task.keeps_bind (keeps_readState path) fun known => ?_
  cases known with
  | none => exact Task.keeps_throw _
  | some d => exact Task.keeps_pure d

theorem FileCommand.keeps_handling {provider : Task Provider} (h : provider.Keeps) (command : FileCommand) :
    (command.handling path provider).Keeps := by
  cases command with
  | apply typeName desired =>
    refine Task.keeps_bind h fun p => Task.keeps_bind (Task.keeps_ofExcept _ _) fun k => ?_
    refine Task.keeps_bind (keeps_readDesired desired) fun v => Task.keeps_bind (keeps_readState path) fun prior => ?_
    exact Task.keeps_pure _
  | takeOver typeName id =>
    exact Task.keeps_bind h fun p => Task.keeps_bind (Task.keeps_ofExcept _ _) fun k => Task.keeps_pure _
  | read | delete =>
    refine Task.keeps_bind h fun p => Task.keeps_bind (keeps_requireState path) fun d => ?_
    exact Task.keeps_bind (Task.keeps_ofExcept _ _) fun k => Task.keeps_pure _

theorem run_requireState_eq_ok : (requireState path).run s = (.ok d, s) ↔ stateIn s.files path = .ok (some d) := by
  rw [requireState, Task.run_bind, run_readState]
  cases stateIn s.files path with
  | error e => exact iff_of_false (fun h => by cases h) fun h => by cases h
  | ok known =>
    cases known with
    | none => exact iff_of_false (fun h => by cases h) fun h => by cases h
    | some d' => exact ⟨fun h => by cases h; rfl, fun h => by cases h; rfl⟩

/-- What a command finds out before its step, from what is read as the state. -/
inductive Handling.From (fs : Files) (path : String) : FileCommand → Handling → Prop
  | apply {p : Provider} {k : Kind} {v : Json} {typeName desired : String} {prior : Option Document}
    (h : stateIn fs path = .ok prior) :
    From fs path (.apply typeName desired) ⟨p, k, .apply v, prior.getD (Document.absent typeName), prior.isSome⟩
  | read {p : Provider} {k : Kind} {d : Document} (h : stateIn fs path = .ok (some d)) :
    From fs path .read ⟨p, k, .read, d, true⟩
  | takeOver {p : Provider} {k : Kind} {typeName id : String} :
    From fs path (.takeOver typeName id) ⟨p, k, .importFrom id, Document.absent typeName, false⟩
  | delete {p : Provider} {k : Kind} {d : Document} (h : stateIn fs path = .ok (some d)) :
    From fs path .delete ⟨p, k, .delete, d, true⟩

theorem recorded_of_handling {provider : Task Provider} {step : DocumentStep} {h : Handling}
    (hprovider : provider.Keeps) (hh : ((recordedHandling path provider step).run s).1 = .ok h) :
    ∃ p k d, h = ⟨p, k, step, d, true⟩ ∧ stateIn s.files path = .ok (some d) := by
  obtain ⟨p, -, hh⟩ := hprovider.ok_of_run_bind hh
  obtain ⟨d, hd, hh⟩ := (keeps_requireState path).ok_of_run_bind hh
  obtain ⟨k, -, hh⟩ := (Task.keeps_ofExcept _ _).ok_of_run_bind hh
  cases hh
  exact ⟨p, k, d, rfl, run_requireState_eq_ok.1 hd⟩

theorem FileCommand.from_of_handling {provider : Task Provider} {h : Handling} (hprovider : provider.Keeps)
    {command : FileCommand} (hh : ((command.handling path provider).run s).1 = .ok h) :
    Handling.From s.files path command h := by
  cases command with
  | apply typeName desired =>
    obtain ⟨p, -, hh⟩ := hprovider.ok_of_run_bind hh
    obtain ⟨k, -, hh⟩ := (Task.keeps_ofExcept _ _).ok_of_run_bind hh
    obtain ⟨v, -, hh⟩ := (keeps_readDesired desired).ok_of_run_bind hh
    obtain ⟨prior, hprior, hh⟩ := (keeps_readState path).ok_of_run_bind hh
    cases hh
    rw [run_readState] at hprior
    exact .apply (congrArg Prod.fst hprior)
  | takeOver typeName id =>
    obtain ⟨p, -, hh⟩ := hprovider.ok_of_run_bind hh
    obtain ⟨k, -, hh⟩ := (Task.keeps_ofExcept _ _).ok_of_run_bind hh
    cases hh
    exact .takeOver
  | read =>
    obtain ⟨p, k, d, rfl, hd⟩ := recorded_of_handling hprovider hh
    exact .read hd
  | delete =>
    obtain ⟨p, k, d, rfl, hd⟩ := recorded_of_handling hprovider hh
    exact .delete hd

/-! ## From the step on -/

theorem run_writeState {d : Document} (hw : s.files.write? path d.toJson.pretty = some fs') :
    (writeState path d).run s = (.ok (), { s with files := fs' }) := by
  rw [writeState, Task.run_bind]
  simp only [Task.files, ExceptT.run_mk, hw]
  rfl

namespace Handling

variable {h : Handling} {command : FileCommand}

theorem files_taken (h : Handling) (s : Session) : (h.taken s).session.files = s.files :=
  (h.kind.talks h.provider).files_takeDocument h.step h.document s

/-- The result of a command after its step. -/
def result (h : Handling) (s : Session) : Except Trouble String :=
  ((h.taken s).report.map fun _ => h.output (h.taken s).state).mapError .failure

/-- **From its step on, a command changes nothing but the file**, and that only if it writes the document. -/
theorem run_finish (htakes : s.files.Takes path) : ∃ fs',
    (h.finish path).run s = (h.result s, { (h.taken s).session with files := fs' }) ∧
      if h.writes s then s.files.write? path (h.taken s).state.toJson.pretty = some fs' else fs' = s.files := by
  have hfiles := h.files_taken s
  have hresult : ∀ t, (do
      let _ ← Task.ofExcept .failure (h.taken s).report
      pure (h.output (h.taken s).state) : Task String).run t = (h.result s, t) := by
    intro t
    rw [Task.run_bind, Task.run_ofExcept, result]
    cases (h.taken s).report <;> rfl
  cases hwrites : h.writes s with
  | false =>
    refine ⟨s.files, ?_, rfl⟩
    rw [finish, Task.run_bind]
    simp only [ExceptT.run_mk, hwrites, Bool.false_eq_true, if_false]
    rw [hresult, ← hfiles]
  | true =>
    obtain ⟨fs', hw⟩ := htakes.exists_written (h.taken s).state.toJson.pretty
    refine ⟨fs', ?_, hw⟩
    rw [← hfiles] at hw
    rw [finish, Task.run_bind]
    simp only [ExceptT.run_mk, hwrites, if_true]
    rw [Task.run_bind_of_ok (run_writeState hw), hresult]

/-- The document on which a step is taken can be written. -/
theorem From.storable (hf : From fs path command h) : h.document.Storable := by
  cases hf with
  | @apply _ _ _ typeName _ prior hprior =>
    cases prior with
    | none => exact Document.storable_absent typeName
    | some d => exact (storable_of_stateIn hprior).2
  | read hd => exact (storable_of_stateIn hd).2
  | takeOver => exact Document.storable_absent _
  | delete hd => exact (storable_of_stateIn hd).2

/-- The document that a step leaves; an import that fails leaves none. -/
def final? (h : Handling) (s : Session) : Option Document :=
  match h.step, (h.taken s).report with
  | .importFrom _, .error _ => none
  | _, _ => some (h.taken s).state

theorem final?_eq_some (hd : h.final? s = some d) : d = (h.taken s).state := by
  unfold final? at hd
  split at hd
  · cases hd
  · exact (Option.some.inj hd).symm

/-- Only an import that failed leaves no document, and nothing is written then. -/
theorem not_writes_of_final?_eq_none (hd : h.final? s = none) : h.writes s = false := by
  unfold final? at hd
  split at hd
  · rename_i hstep hreport
    simp [writes, hstep, hreport, Except.toBool]
  · cases hd

/-- **A step after which nothing is written leaves what was known**, except for an import, which then leaves nothing. -/
theorem From.known_of_not_writes (hf : From fs path command h) (hw : h.writes s = false) (hd : h.final? s = some d) :
    stateIn fs path = .ok (known? d) := by
  have hfinal := final?_eq_some hd
  have herror : ∃ e, (h.taken s).report = .error e := by
    unfold writes at hw
    cases hreport : (h.taken s).report with
    | error e => exact ⟨e, rfl⟩
    | ok _ =>
      rw [hreport] at hw
      cases hw
  obtain ⟨e, he⟩ := herror
  cases hf with
  | @apply p k v typeName desired prior hprior =>
    cases prior with
    | some d => simp [writes] at hw
    | none =>
      have hid : d.id = "" := hfinal ▸ Resource.id_of_applyDocument_error rfl (map_eq_error_iff.1 he)
      rw [hprior, known?_of_id hid]
  | read => simp [writes] at hw
  | takeOver => simp [final?, he] at hd
  | @delete p k d' hd' =>
    have hsame : d = d' := hfinal.trans (Resource.document_of_deleteDocument_error (map_eq_error_iff.1 he))
    rw [hd', hsame, known?, if_neg (storable_of_stateIn hd').1]

end Handling

end Provision.Cli
