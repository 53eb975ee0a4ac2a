import Provision.Cli.Arguments
import Provision.Resource.Kind
import Provision.SecurityGroups.Read
import Provision.Settings
import Provision.Yaml.Block

/-!
# Commands

What each command does with files, with settings, and with the vendor. A command prints something only when it
succeeds. The state file of a resource is written whenever something may have happened to the resource: after a failed
`apply` too, if there was a state before, and after every `read`. Main statement: a command that needs no vendor leaves
the session as it was (`keeps_task_of_isLocal`).
-/

namespace Provision.Cli

/-! ## What can go wrong -/

/-- Why a command failed. -/
inductive Trouble where
  | failure (why : Failure)
  | settings (why : SettingsFault)
  /-- The file of a desired configuration cannot be read. -/
  | unreadable (path : String)
  | unparsable (path : String)
  | unreadableState (path : String)
  | unparsableState (path : String)
  /-- There is no resource in the file of a state. -/
  | nothingRecorded (path : String)
  | unwrittenState (path : String)
deriving DecidableEq, Repr

/-- The wording for the person at the terminal. -/
def Trouble.message : Trouble → String
  | .failure why => why.advice
  | .settings why => why.message
  | .unreadable path => "Failed to read " ++ path
  | .unparsable path => "Failed to parse " ++ path
  | .unreadableState path => "Failed to read state " ++ path
  | .unparsableState path => "Failed to parse state " ++ path
  | .nothingRecorded path => "No resource recorded in " ++ path
  | .unwrittenState path => "Failed to write state " ++ path

/-- A part of a command: it fails or has a result, and passes on the session. -/
abbrev Task := ExceptT Trouble (StateM Session)

namespace Task

variable {α : Type}

/-- A part that has a result or fails in some way. -/
def ofExcept {ε : Type} (trouble : ε → Trouble) : Except ε α → Task α
  | .ok a => pure a
  | .error e => throw (trouble e)

/-- A computation as a part of a command. -/
def ofRun (x : Run α) : Task α := ExceptT.mk fun s => ((x s).1.mapError .failure, (x s).2)

/-- The files as they are now. -/
def files : Task Files := ExceptT.mk fun s => (.ok s.files, s)

/-- Whether a part leaves every session as it was. -/
def Keeps (x : Task α) : Prop := ∀ s, (x.run s).2 = s

theorem keeps_pure (a : α) : Keeps (pure a) := fun _ => rfl

theorem keeps_throw (e : Trouble) : Keeps (throw e : Task α) := fun _ => rfl

theorem keeps_files : Keeps files := fun _ => rfl

theorem keeps_ofExcept {ε : Type} (trouble : ε → Trouble) (x : Except ε α) : Keeps (ofExcept trouble x) := by
  cases x
  · exact keeps_throw _
  · exact keeps_pure _

theorem run_bind {β : Type} (x : Task α) (f : α → Task β) (s : Session) :
    (x >>= f).run s = match x.run s with
      | (.ok a, s) => (f a).run s
      | (.error e, s) => (.error e, s) := by
  show (StateT.bind x (ExceptT.bindCont f)) s = _
  simp only [StateT.bind, ExceptT.run, bind]
  rcases x s with ⟨_ | _, _⟩ <;> rfl

theorem keeps_bind {β : Type} {x : Task α} {f : α → Task β} (hx : Keeps x) (hf : ∀ a, Keeps (f a)) :
    Keeps (x >>= f) := by
  intro s
  have h := hx s
  rw [run_bind]
  rcases hr : x.run s with ⟨e | a, t⟩ <;> rw [hr] at h <;> subst h
  · rfl
  · exact hf a _

end Task

/-! ## Files of configurations and states -/

/-- Reads the desired configuration from a file. -/
def readDesired (path : String) : Task Json := do
  match (← Task.files).read? path with
  | none => throw (.unreadable path)
  | some text =>
    match Yaml.parse? text with
    | none => throw (.unparsable path)
    | some v => pure v

/-- Reads the state from a file. A missing file, or one without an identity, records nothing. -/
def readState (path : String) : Task (Option Document) := do
  let files ← Task.files
  match files.at? path, files.read? path with
  | none, _ => pure none
  | some _, none => throw (.unreadableState path)
  | some _, some text =>
    match Document.record.ofText text with
    | .error _ => throw (.unparsableState path)
    | .ok d => pure (if d.id = "" then none else some d)

/-- Reads the state from a file, if one is named. -/
def readPrior : Option String → Task (Option Document)
  | some path => readState path
  | none => pure none

/-- Reads the state from a file that has to record a resource. -/
def requireState (path : String) : Task Document := do
  match ← readState path with
  | some d => pure d
  | none => throw (.nothingRecorded path)

/-- Writes the state to a file. -/
def writeState (path : String) (d : Document) : Task Unit := do
  match (← Task.files).write? path d.toJson.pretty with
  | some files => ExceptT.lift (modify fun s => { s with files := files })
  | none => throw (.unwrittenState path)

/-! ## Settings -/

/-- The settings for a command: those of the file, changed by the environment, changed by options. -/
def settingsOf (files : Files) (env : List (String × String)) (i : Invocation) : Except SettingsFault Settings := do
  let s ← match i.config with
    | some path => (Settings.ofFile Url.parse files path).map (·.withVariables env)
    | none => Settings.load files env
  .ok { s with region := i.region.or s.region, endpoint := i.endpoint.or s.endpoint }

/-- The provider for a command. -/
def providerOf (env : List (String × String)) (out : Surroundings) (i : Invocation) : Task Provider := do
  let s ← Task.ofExcept .settings (settingsOf (← Task.files) env i)
  Task.ofExcept .failure (s.provider out)

/-! ## Commands without the vendor -/

/-- A document and the line break behind it. -/
def line (v : Json) : String := v.pretty ++ "\n"

/-- Prints a schema, or those of all types of resources. -/
def schemaTask : Option String → Task String
  | none => pure (line (.array (Kind.all.map (·.schema.toJson))))
  | some name =>
    if name = SecurityGroups.typeName then pure (line SecurityGroups.schema.toJson)
    else do
      let k ← Task.ofExcept .failure (Kind.ofName name)
      pure (line k.schema.toJson)

/-- Prints the plan for a configuration. -/
def planTask (typeName desired : String) (state : Option String) : Task String := do
  let k ← Task.ofExcept .failure (Kind.ofName typeName)
  let desired ← readDesired desired
  let prior ← readPrior state
  let plan ← Task.ofExcept .failure (k.resource.planDocument prior desired)
  pure (line plan.toJson)

/-- Prints the regions that are known. -/
def regionsTask : Task String := pure (String.join (Region.known.map (· ++ "\n")))

/-! ## Commands with the vendor -/

/-- Takes a step on a document. -/
def stepOn (act : Session → DocumentOutcome) : Task (Except Failure Unit × Document) :=
  ExceptT.mk fun s => (.ok ((act s).result, (act s).document), (act s).session)

/-- Makes a resource as desired. -/
def applyTask (p : Provider) (typeName desired state : String) : Task String := do
  let k ← Task.ofExcept .failure (Kind.ofName typeName)
  let desired ← readDesired desired
  let prior ← readState state
  let (result, d) ← stepOn (k.resource.applyDocument p (prior.getD (Document.absent typeName)) desired)
  if result.toBool || prior.isSome then writeState state d
  Task.ofExcept .failure result
  pure (line d.toJson)

/-- Asks about a resource. -/
def readTask (p : Provider) (state : String) : Task String := do
  let d ← requireState state
  let k ← Task.ofExcept .failure (Kind.ofName d.typeName)
  let (result, d) ← stepOn (k.resource.readDocument p d)
  writeState state d
  Task.ofExcept .failure result
  pure (line d.toJson)

/-- Takes over a resource of which the identity is known. -/
def takeOverTask (p : Provider) (typeName id state : String) : Task String := do
  let k ← Task.ofExcept .failure (Kind.ofName typeName)
  let d ← Task.ofRun (k.resource.importDocument p id)
  writeState state d
  pure (line d.toJson)

/-- Deletes a resource. -/
def deleteTask (p : Provider) (state : String) : Task String := do
  let d ← requireState state
  let k ← Task.ofExcept .failure (Kind.ofName d.typeName)
  let (result, d) ← stepOn (k.resource.deleteDocument p d)
  Task.ofExcept .failure result
  writeState state d
  pure ("deleted " ++ d.typeName ++ "\n")

/-- Prints the result of a query. -/
def securityGroupsTask (p : Provider) (q : SecurityGroups.Query) : Task String := do
  let result ← Task.ofRun (SecurityGroups.read p q)
  pure (line result.toJson)

/-! ## All commands -/

/-- Whether a command needs no vendor. -/
def Command.isLocal : Command → Bool
  | .schema _ | .plan .. | .regions => true
  | _ => false

theorem keeps_readDesired (path : String) : Task.Keeps (readDesired path) := by
  refine Task.keeps_bind Task.keeps_files fun files => ?_
  split
  · exact Task.keeps_throw _
  · split
    · exact Task.keeps_throw _
    · exact Task.keeps_pure _

theorem keeps_readState (path : String) : Task.Keeps (readState path) := by
  refine Task.keeps_bind Task.keeps_files fun files => ?_
  split
  · exact Task.keeps_pure _
  · exact Task.keeps_throw _
  · split
    · exact Task.keeps_throw _
    · exact Task.keeps_pure _

theorem keeps_readPrior (path : Option String) : Task.Keeps (readPrior path) := by
  cases path
  · exact Task.keeps_pure _
  · exact keeps_readState _

theorem keeps_schemaTask (typeName : Option String) : Task.Keeps (schemaTask typeName) := by
  match typeName with
  | none => exact Task.keeps_pure _
  | some name =>
    simp only [schemaTask]
    split
    · exact Task.keeps_pure _
    · exact Task.keeps_bind (Task.keeps_ofExcept _ _) fun k => Task.keeps_pure _

theorem keeps_planTask (typeName desired : String) (state : Option String) :
    Task.Keeps (planTask typeName desired state) := by
  refine Task.keeps_bind (Task.keeps_ofExcept _ _) fun k => ?_
  refine Task.keeps_bind (keeps_readDesired _) fun v => ?_
  refine Task.keeps_bind (keeps_readPrior _) fun prior => ?_
  exact Task.keeps_bind (Task.keeps_ofExcept _ _) fun plan => Task.keeps_pure _

/-- The paths of all files that a command looks at. -/
def Invocation.paths (env : List (String × String)) (i : Invocation) : List String :=
  let own : List (Option String) := match i.command with
    | .schema _ | .regions => []
    | .plan _ desired state => [some desired, state]
    | .apply _ desired state => [some desired, some state]
    | .read state | .takeOver _ _ state | .delete state => [some state]
    | .securityGroups query => [query.output?]
  ((i.config.or (Settings.usualPath? env)) :: own).filterMap id

/-- What a command does; its result is printed. -/
def Invocation.task (env : List (String × String)) (out : Surroundings) (i : Invocation) : Task String :=
  match i.command with
  | .schema typeName => schemaTask typeName
  | .regions => regionsTask
  | .plan typeName desired state => planTask typeName desired state
  | .apply typeName desired state => do applyTask (← providerOf env out i) typeName desired state
  | .read state => do readTask (← providerOf env out i) state
  | .takeOver typeName id state => do takeOverTask (← providerOf env out i) typeName id state
  | .delete state => do deleteTask (← providerOf env out i) state
  | .securityGroups query => do securityGroupsTask (← providerOf env out i) query

/-- **A command that needs no vendor leaves the session as it was.** -/
theorem keeps_task_of_isLocal (env : List (String × String)) (out : Surroundings) (i : Invocation)
    (h : i.command.isLocal = true) : Task.Keeps (i.task env out) := by
  rw [Invocation.task]
  cases hc : i.command with
  | schema typeName => exact keeps_schemaTask typeName
  | plan typeName desired state => exact keeps_planTask typeName desired state
  | regions => exact Task.keeps_pure _
  | _ => simp [hc, Command.isLocal] at h

/-- How a command line ended: its status, and what was printed. -/
structure Ended where
  status : Nat
  output : String := ""
  errors : String := ""
  session : Session

/-- The version of the program. -/
def version : String := "dev"

/-- How the program is used. -/
def usage : String :=
  "Usage: tcdb [OPTIONS] <COMMAND>\n\nCommands:\n" ++
    String.join (Verb.all.map fun v => "  " ++ v.name ++ ": " ++ v.summary ++ "\n")

/-- Does what a command line asks for. -/
def execute (env : List (String × String)) (out : Surroundings) (words : List String) (s : Session) : Ended :=
  match Invocation.ofWords words with
  | .error .help => { status := 0, output := usage, session := s }
  | .error .version => { status := 0, output := "tcdb " ++ version ++ "\n", session := s }
  | .error .refused => { status := 2, errors := usage, session := s }
  | .ok i =>
    match (i.task env out).run s with
    | (.ok text, s) => { status := 0, output := text, session := s }
    | (.error e, s) => { status := 1, errors := "Error: " ++ e.message ++ "\n", session := s }

end Provision.Cli
