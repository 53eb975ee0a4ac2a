import Provision.Cli.Commands
import Provision.Proofs.Files
import Provision.Proofs.Resource.Stored

/-!
# What the file of a state records

What is read as the state depends on the file alone (`run_readState`, `stateIn_congr`), and what is read can be written
again (`storable_of_stateIn`). Main statement: after a document was written, the same is known by the file as by the
document (`sameKnown_of_written`).
-/

namespace Provision.Cli

/-! ## Parts of commands -/

namespace Task

variable {α β : Type} {x : Task α} {f : α → Task β} {s : Session} {a : α} {e : Trouble}

theorem Keeps.run_eq (h : x.Keeps) (s : Session) : x.run s = ((x.run s).1, s) := Prod.ext rfl (h s)

theorem run_bind_of_ok {t : Session} (h : x.run s = (.ok a, t)) : (x >>= f).run s = (f a).run t := by rw [run_bind, h]

theorem run_bind_of_error {t : Session} (h : x.run s = (.error e, t)) : (x >>= f).run s = (.error e, t) := by
  rw [run_bind, h]

theorem run_ofExcept {ε : Type} (trouble : ε → Trouble) (x : Except ε α) (s : Session) :
    (ofExcept trouble x).run s = (x.mapError trouble, s) := by
  cases x <;> rfl

/-- A part that keeps the session and is followed by another. -/
theorem Keeps.ok_of_run_bind {b : β} (h : x.Keeps) (hb : ((x >>= f).run s).1 = .ok b) :
    ∃ a, x.run s = (.ok a, s) ∧ ((f a).run s).1 = .ok b := by
  rw [run_bind, h.run_eq] at hb
  cases hx : (x.run s).1 with
  | error e =>
    rw [hx] at hb
    cases hb
  | ok a =>
    rw [hx] at hb
    exact ⟨a, by rw [h.run_eq, hx], hb⟩

end Task

/-! ## What a file records -/

/-- What is known by a document: without an identity, nothing is. -/
def known? (d : Document) : Option Document := if d.id = "" then none else some d

theorem known?_of_id {d : Document} (h : d.id = "") : known? d = none := if_pos h

/-- What is read as the state from the file of a path. -/
def stateIn (fs : Files) (path : String) : Except Trouble (Option Document) := ((readState path).run { files := fs }).1

variable {path : String} {fs fs' : Files} {d : Document}

/-- What a text tells of a state. -/
def toldBy (path text : String) : Except Trouble (Option Document) :=
  ((Document.record.ofText text).mapError fun _ => .unparsableState path).map known?

theorem run_readState_eq (path : String) (s : Session) : (readState path).run s =
    (match s.files.at? path, s.files.read? path with
      | none, _ => .ok none
      | some _, none => .error (.unreadableState path)
      | some _, some text => toldBy path text, s) := by
  rw [readState, Task.run_bind]
  simp only [Task.files, ExceptT.run_mk]
  cases s.files.at? path with
  | none => rfl
  | some _ =>
    cases s.files.read? path with
    | none => rfl
    | some text =>
      dsimp only [toldBy]
      cases Document.record.ofText text <;> rfl

/-- **What is read as the state depends on the files only.** -/
theorem run_readState (path : String) (s : Session) : (readState path).run s = (stateIn s.files path, s) := by
  rw [stateIn, run_readState_eq, run_readState_eq]

/-- And on what is at the end of the path only. -/
theorem stateIn_congr (h : fs'.at? path = fs.at? path) : stateIn fs' path = stateIn fs path := by
  rw [stateIn, stateIn, run_readState_eq, run_readState_eq]
  dsimp only
  rw [h, Files.read?_congr h]

theorem stateIn_of_read? {text : String} (h : fs.read? path = some text) : stateIn fs path = toldBy path text := by
  rw [stateIn, run_readState_eq]
  simp only [Files.at?_eq_of_read? h, h]

/-- A document that a file records has an identity and can be written again. -/
theorem storable_of_stateIn (h : stateIn fs path = .ok (some d)) : d.id ≠ "" ∧ d.Storable := by
  rw [stateIn, run_readState_eq] at h
  dsimp only at h
  split at h
  · cases h
  · cases h
  · obtain ⟨d', hread, hknown⟩ := map_eq_ok_iff.1 h
    unfold known? at hknown
    split at hknown
    · cases hknown
    · cases hknown
      exact ⟨by assumption, Document.storable_of_ofText (mapError_eq_ok_iff.1 hread)⟩

/-- The same is known: the same failure, nothing, or documents that say the same. -/
def SameKnown (x y : Except Trouble (Option Document)) : Prop := EndAlike (Option.Rel Document.Same) x y

theorem sameKnown_refl (x : Except Trouble (Option Document)) : SameKnown x x := by
  cases x with
  | error e => exact .error e
  | ok known =>
    cases known with
    | none => exact .ok .none
    | some d => exact .ok (.some (.refl d))

theorem eq_of_sameKnown_none {x : Except Trouble (Option Document)} (h : SameKnown x (.ok none)) : x = .ok none := by
  cases h with
  | ok h =>
    cases h
    rfl

/-- **A document that was written to a file is known by the file.** -/
theorem sameKnown_of_written (h : d.Storable) (hw : fs.write? path d.toJson.pretty = some fs') :
    SameKnown (stateIn fs' path) (.ok (known? d)) := by
  rw [stateIn_of_read? (Files.read?_written hw), toldBy, Document.ofText_pretty h]
  refine .ok ?_
  have hsame := Document.same_retold h
  unfold known?
  rw [hsame.id]
  split
  · exact .none
  · exact .some hsame

end Provision.Cli
