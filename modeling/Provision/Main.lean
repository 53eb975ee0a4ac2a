import Provision.Cli.Commands
import Provision.Session.Script

/-!
# The program

The command line around the commands: the files that a command looks at are read before it, and those that it changed
are written after it. No network is at hand here, so no request is answered.
-/

namespace Provision.Cli

/-- The variables of the environment that matter. -/
def environment : IO (List (String × String)) :=
  ["TENCENTCLOUD_SECRET_ID", "TENCENTCLOUD_SECRET_KEY", "TENCENTCLOUD_SECURITY_TOKEN", "TENCENTCLOUD_REGION",
    "XDG_CONFIG_HOME", "HOME"].filterMapM fun name => return (← IO.getEnv name).map (name, ·)

/-- The path of a place. -/
def pathOf (place : Files.Place) : String := "/" ++ "/".intercalate place

/-- The places that a path leads through. -/
def placesOf (fs : Files) (path : String) : List Files.Place :=
  ((Files.steps path).foldl
    (fun (place, seen) step =>
      let next := if step = ".." then place.dropLast else place ++ [step]
      (next, next :: seen))
    (fs.start path, [])).2.reverse

/-- What is at a place. A file that is no text counts as a directory, which cannot be read either. -/
def look (place : Files.Place) : IO (Option Files.Entry) := do
  let path := (← IO.currentDir) / pathOf place
  if ← path.isDir then return some .directory
  if ← path.pathExists then
    try return some (.file (← IO.FS.readFile path))
    catch _ => return some .directory
  return none

/-- The files that paths lead to, and the directories on the way. -/
def gather (paths : List String) : IO Files := do
  let home := (← IO.currentDir).toString
  let start : Files := ⟨Files.steps home, (placesOf default home).map (·, .directory)⟩
  (paths.flatMap (placesOf start)).foldlM (fun fs place => do
    match ← look place with
    | some entry => return fs.put place entry
    | none => return fs) start

/-- Writes what has changed. -/
def store (before after : Files) : IO Unit :=
  for (place, entry) in after.entries do
    if before.entryAt place ≠ some entry then
      match entry with
      | .directory => IO.FS.createDirAll (pathOf place)
      | .file text => IO.FS.writeFile (pathOf place) text

/-- Surroundings in which no request is answered. -/
def silence : Surroundings := Script.surroundings [] (fun _ => .unreachable) 0

end Provision.Cli

open Provision.Cli in
/-- Does what the words of the command line ask for. -/
def main (words : List String) : IO UInt32 := do
  let env ← environment
  let paths := match Invocation.ofWords words with
    | .ok i => i.paths env
    | .error _ => []
  let files ← gather paths
  let ended := execute env silence words { files := files }
  store files ended.session.files
  IO.print ended.output
  IO.eprint ended.errors
  return ended.status.toUInt32
