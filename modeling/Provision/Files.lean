import Provision.Text.Segments
import Provision.Text.Utf8

/-!
# Files

The part of a file system that matters here: texts and directories at places. A place is the list of the names that
lead to it from the root. A path is walked part by part: every part but the last has to lead to a directory, and two
dots lead back to the one above.
-/

namespace Provision

/-- What is at a place. -/
inductive Files.Entry where
  | directory
  | file (text : String)
deriving DecidableEq, Repr

/-- The names that lead from the root to a place. -/
abbrev Files.Place := List String

/-- The entries of a file system, and the place from which relative paths start. The root is a directory. -/
structure Files where
  home : Files.Place
  entries : List (Files.Place × Files.Entry)
deriving DecidableEq, Repr

namespace Files

instance : Inhabited Files := ⟨⟨[], []⟩⟩

/-- What is at a place, if anything is. -/
def entryAt (fs : Files) (place : Place) : Option Entry :=
  if place = [] then some .directory else fs.entries.lookup place

/-- Replaces the entry of a place in a list, or adds it at the end. -/
def putEntry (place : Place) (e : Entry) : List (Place × Entry) → List (Place × Entry)
  | [] => [(place, e)]
  | (p, old) :: rest => if p = place then (p, e) :: rest else (p, old) :: putEntry place e rest

/-- A file system with a new entry at a place. -/
def put (fs : Files) (place : Place) (e : Entry) : Files := { fs with entries := putEntry place e fs.entries }

/-- Whether a name is one that a file can have. -/
def isName (name : String) : Bool := !name.contains '\x00' && Text.bytes name.toList ≤ 255

/-- The place where a path starts. -/
def start (fs : Files) (path : String) : Place := if path.toList.head? = some '/' then [] else fs.home

/-- The parts of a path between slashes. -/
def parts (path : String) : List String := (Text.Segments.split '/' path.toList).map String.ofList

/-- The parts of a path that lead anywhere. -/
def steps (path : String) : List String := (parts path).filter fun s => s ≠ "" ∧ s ≠ "."

/-- Walks along parts, of which each has to lead to a directory. -/
def walk (fs : Files) : Place → List String → Option Place
  | place, [] => some place
  | place, part :: rest =>
    if part = ".." then walk fs place.dropLast rest
    else if fs.entryAt (place ++ [part]) = some .directory then walk fs (place ++ [part]) rest
    else none

/-- Walks along parts and makes the directories that are missing. The directories that were made stay, also if a
later part leads nowhere. -/
def walkMaking (fs : Files) : Place → List String → Files × Bool
  | _, [] => (fs, true)
  | place, part :: rest =>
    if part = ".." then walkMaking fs place.dropLast rest
    else
      match fs.entryAt (place ++ [part]) with
      | some .directory => walkMaking fs (place ++ [part]) rest
      | some (.file _) => (fs, false)
      | none =>
        if isName part then walkMaking (fs.put (place ++ [part]) .directory) (place ++ [part]) rest else (fs, false)

/-- The place of the file of a path; a path that ends in a slash or in dots is that of a directory. -/
def filePlace? (fs : Files) (path : String) : Option Place :=
  match (parts path).reverse with
  | [] => none
  | last :: before =>
    if last = "" ∨ last = "." ∨ last = ".." then none
    else (fs.walk (fs.start path) (before.reverse.filter fun s => s ≠ "" ∧ s ≠ ".")).map (· ++ [last])

/-- What is at the end of a path. -/
def at? (fs : Files) (path : String) : Option Entry :=
  match fs.filePlace? path with
  | some place => fs.entryAt place
  | none => if path = "" then none else (fs.walk (fs.start path) (steps path)).map fun _ => .directory

/-- The text of the file of a path. -/
def read? (fs : Files) (path : String) : Option String :=
  match fs.at? path with
  | some (.file text) => some text
  | _ => none

/-- Writes a text to the file of a path, if its directory is there. -/
def write? (fs : Files) (path text : String) : Option Files :=
  match fs.filePlace? path with
  | none => none
  | some place =>
    match fs.entryAt place with
    | some .directory => none
    | some (.file _) => some (fs.put place (.file text))
    | none => if place.getLast?.any isName then some (fs.put place (.file text)) else none

/-- The parts that lead to the directory of a path. -/
def above (path : String) : List String := (steps path).dropLast

/-- Makes the directory of a path, and all that lead to it. -/
def makeAbove (fs : Files) (path : String) : Files × Bool := fs.walkMaking (fs.start path) (above path)

/-- Writes a text to the file of a path, whose directory is made if it is not there. -/
def save (fs : Files) (path text : String) : Files × Bool :=
  match fs.makeAbove path with
  | (fs, false) => (fs, false)
  | (fs, true) =>
    match fs.write? path text with
    | some fs => (fs, true)
    | none => (fs, false)

theorem entryAt_put (fs : Files) {place : Place} (h : place ≠ []) (e : Entry) (other : Place) :
    (fs.put place e).entryAt other = if other = place then some e else fs.entryAt other := by
  have key : ∀ entries : List (Place × Entry),
      (putEntry place e entries).lookup other = if other = place then some e else entries.lookup other := by
    intro entries
    induction entries with
    | nil =>
      by_cases ho : other = place
      · simp [putEntry, ho]
      · simp [putEntry, List.lookup_cons, beq_false_of_ne ho, ho]
    | cons m rest ih =>
      obtain ⟨p, old⟩ := m
      rw [putEntry]
      split
      · rename_i hp
        subst hp
        by_cases ho : other = p
        · simp [ho]
        · simp [List.lookup_cons, beq_false_of_ne ho, ho]
      · rename_i hp
        by_cases ho : other = p
        · subst ho
          simp [hp]
        · simp only [List.lookup_cons, beq_false_of_ne ho]
          exact ih
  by_cases ho : other = []
  · subst ho
    simp [entryAt, Ne.symm h]
  · simp only [entryAt, ho, if_false, put, key]

theorem read?_of_write? {fs fs' : Files} {path text : String} (h : fs.write? path text = some fs')
    (hp : fs'.filePlace? path = fs.filePlace? path) : fs'.read? path = some text := by
  unfold write? at h
  unfold read? at?
  rw [hp]
  cases hf : fs.filePlace? path with
  | none => simp [hf] at h
  | some place =>
    have hne : place ≠ [] := by
      intro hn
      subst hn
      simp [hf, entryAt] at h
    have hput : fs' = fs.put place (.file text) := by
      simp only [hf] at h
      split at h
      · simp at h
      · simpa using h.symm
      · split at h
        · simpa using h.symm
        · simp at h
    simp [hput, entryAt_put fs hne]

end Files

end Provision
