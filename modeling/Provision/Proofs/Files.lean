import Provision.Files

/-!
# Reading back what was saved

A file that is written where no directory is changes no walk (`walk_put_file`), so its path leads to the same place as
before, and the file reads back (`read?_written`); it can be written again (`takes_of_written`). Main statement: a text
that was saved reads back (`read?_of_save`).
-/

namespace Provision.Files

variable {fs fs' : Files} {path text : String}

theorem ne_nil_of_entryAt {place : Place} (h : fs.entryAt place ≠ some .directory) : place ≠ [] := by
  rintro rfl
  exact h rfl

/-- A file in a place without a directory is in no one's way. -/
theorem walk_put_file {place : Place} (h : fs.entryAt place ≠ some .directory) (text : String) (parts : List String) :
    ∀ start, (fs.put place (.file text)).walk start parts = fs.walk start parts := by
  have hentry : ∀ other, ((fs.put place (.file text)).entryAt other = some .directory) =
      (fs.entryAt other = some .directory) := by
    intro other
    rw [entryAt_put fs (ne_nil_of_entryAt h)]
    by_cases hother : other = place
    · subst hother
      simp [h]
    · rw [if_neg hother]
  induction parts with
  | nil => exact fun _ => rfl
  | cons part rest ih =>
    intro start
    simp only [walk, hentry, ih]

theorem filePlace?_put_file {place : Place} (h : fs.entryAt place ≠ some .directory) (text path : String) :
    (fs.put place (.file text)).filePlace? path = fs.filePlace? path := by
  have hstart : (fs.put place (.file text)).start path = fs.start path := rfl
  unfold filePlace?
  rw [hstart]
  cases (parts path).reverse with
  | nil => rfl
  | cons last before => simp only [walk_put_file h]

/-- What is written is a file in a place without a directory. -/
theorem write?_cases (h : fs.write? path text = some fs') :
    ∃ place, fs.entryAt place ≠ some .directory ∧ fs' = fs.put place (.file text) := by
  unfold write? at h
  cases hplace : fs.filePlace? path with
  | none =>
    rw [hplace] at h
    cases h
  | some place =>
    rw [hplace] at h
    refine ⟨place, ?_, ?_⟩
    · intro hdirectory
      simp only [hdirectory] at h
      cases h
    · cases hentry : fs.entryAt place with
      | none =>
        simp only [hentry] at h
        split at h
        · exact (Option.some.inj h).symm
        · cases h
      | some old =>
        cases old with
        | directory =>
          simp only [hentry] at h
          cases h
        | file old =>
          simp only [hentry] at h
          exact (Option.some.inj h).symm

/-- **A text that was written reads back.** -/
theorem read?_written (h : fs.write? path text = some fs') : fs'.read? path = some text := by
  obtain ⟨place, hplace, rfl⟩ := write?_cases h
  exact read?_of_write? h (filePlace?_put_file hplace text path)

theorem at?_eq_of_read? (h : fs.read? path = some text) : fs.at? path = some (.file text) := by
  unfold read? at h
  split at h
  · rename_i hat
    cases h
    exact hat
  · cases h

/-- What is read depends on what is at the end of the path only. -/
theorem read?_congr (h : fs'.at? path = fs.at? path) : fs'.read? path = fs.read? path := by
  rw [read?, read?, h]

/-- Every text can be written to the file of a path. -/
def Takes (fs : Files) (path : String) : Prop := ∀ text, (fs.write? path text).isSome = true

theorem Takes.exists_written (h : fs.Takes path) (text : String) : ∃ fs', fs.write? path text = some fs' :=
  Option.isSome_iff_exists.1 (h text)

/-- A file that was written can be written again. -/
theorem takes_of_written (h : fs.write? path text = some fs') : fs'.Takes path := by
  have hat := at?_eq_of_read? (read?_written h)
  intro other
  unfold at? at hat
  unfold write?
  cases hplace : fs'.filePlace? path with
  | none =>
    rw [hplace] at hat
    dsimp only at hat
    split at hat
    · cases hat
    · obtain ⟨_, -, hdirectory⟩ := Option.map_eq_some_iff.1 hat
      cases hdirectory
  | some place =>
    rw [hplace] at hat
    dsimp only at hat
    simp only [hat, Option.isSome_some]

/-- **A text that was saved reads back.** -/
theorem read?_of_save (h : fs.save path text = (fs', true)) : fs'.read? path = some text := by
  unfold save at h
  rcases hmade : fs.makeAbove path with ⟨made, led⟩
  rw [hmade] at h
  cases led with
  | false => cases h
  | true =>
    cases hwritten : made.write? path text with
    | none =>
      simp only [hwritten] at h
      cases h
    | some written =>
      simp only [hwritten, Prod.mk.injEq, and_true] at h
      subst h
      exact read?_written hwritten

end Provision.Files
