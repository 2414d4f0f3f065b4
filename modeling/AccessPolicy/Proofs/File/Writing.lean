import AccessPolicy.File.Tree

/-!
# Writing files

What was written to a path is what is read from it. A path leads through directories only, and no
file is written where a directory stands, so writing a file takes no path elsewhere, not even the
one that it was written by.

* `FileTree.walk_put`: paths lead where they led before a file was put in its place;
* `FileTree.read_of_write`: what was written is read;
* `FileTree.exists_write_of_write`: a path that was written to can be written to again.
-/

namespace AccessPolicy.FileTree

variable {t t' : FileTree} {here place spot : Place} {path : String} {bytes : List UInt8}

theorem isGiven_of_hasDirectory (h : t.hasDirectory spot = false) : isGiven spot = false := by
  cases hgiven : isGiven spot with
  | false => rfl
  | true => simp [hasDirectory, find?, hgiven] at h

/-- A path leads through directories, so that what is put where there is none takes it nowhere
else. -/
private theorem follow_put (hspot : t.hasDirectory spot = false) (e : FileEntry)
    {names : List String} (h : t.follow here names = .ok place) :
    (t.put spot e).follow here names = .ok place := by
  induction names generalizing here with
  | nil => exact h
  | cons name rest ih =>
    rw [follow] at h ⊢
    cases hfound : t.find? here with
    | none => simp [hfound] at h
    | some entry =>
      cases entry with
      | file bytes => simp [hfound] at h
      | directory =>
        have hne : here ≠ spot := by
          rintro rfl
          simp [hasDirectory, hfound] at hspot
        rw [hfound] at h
        rw [find?_put_of_ne t hne, hfound]
        dsimp only at h ⊢
        split at h
        · simp at h
        · next hshort =>
          rw [if_neg hshort]
          split at h
          · next hself =>
            rw [if_pos hself]
            exact ih h
          · next hself =>
            rw [if_neg hself]
            split at h
            · next hup =>
              rw [if_pos hup]
              exact ih h
            · next hup =>
              rw [if_neg hup]
              exact ih h

/-- **Paths** lead where they led before something was put where no directory stood. -/
theorem walk_put (hspot : t.hasDirectory spot = false) (e : FileEntry)
    (h : t.walk path = .ok place) : (t.put spot e).walk path = .ok place := by
  unfold walk at h ⊢
  split at h
  · simp at h
  · next hne =>
    rw [if_neg hne]
    split at h
    · simp at h
    · next hshort =>
      rw [if_neg hshort]
      split at h
      · next hroot =>
        rw [if_pos hroot]
        exact follow_put hspot e h
      · next hroot =>
        rw [if_neg hroot]
        exact follow_put hspot e h

/-- **A file is written** at the place that its path leads to, unless a directory stands there. -/
theorem write_eq_ok_iff : t.write path bytes = .ok t' ↔ badPath? path = none ∧
    ∃ place, t.walk path = .ok place ∧ t.hasDirectory place = false ∧
      t' = t.put place (.file bytes) := by
  unfold write
  cases badPath? path with
  | some e => simp
  | none =>
    cases t.walk path with
    | error e => simp [bind, Except.bind]
    | ok place =>
      simp only [bind, Except.bind, true_and, Except.ok.injEq, exists_eq_left']
      cases t.hasDirectory place with
      | true => simp
      | false => simp [eq_comm]

/-- **What was written** is read. -/
theorem read_of_write (h : t.write path bytes = .ok t') : t'.read path = .ok bytes := by
  obtain ⟨hpath, place, hwalk, hplace, rfl⟩ := write_eq_ok_iff.mp h
  have hfound := find?_put_self t (isGiven_of_hasDirectory hplace) (.file bytes)
  rw [read, hpath]
  simp [walk_put hplace _ hwalk, hfound, bind, Except.bind]

/-- A path that was written to can be written to again. -/
theorem exists_write_of_write (h : t.write path bytes = .ok t') (bytes' : List UInt8) :
    ∃ t'', t'.write path bytes' = .ok t'' := by
  obtain ⟨hpath, place, hwalk, hplace, rfl⟩ := write_eq_ok_iff.mp h
  have hfound := find?_put_self t (isGiven_of_hasDirectory hplace) (.file bytes)
  exact ⟨_, write_eq_ok_iff.mpr
    ⟨hpath, place, walk_put hplace _ hwalk, by simp [hasDirectory, hfound], rfl⟩⟩

/-- Whether a file can be written at a path: file systems can hold it, the directories above it are
there or can be made, and the file can be opened. -/
def Writable (t : FileTree) (path : String) : Prop :=
  badPath? path = none ∧ ∃ t₁ t₂, t.makeDirectories (Path.parse path).parent = (t₁, .ok ()) ∧
    t₁.write (Path.parse path).text [] = .ok t₂

/-- The directories above a file that stands where one is are there. -/
theorem makeDirectories_here (t : FileTree) :
    t.makeDirectories ⟨"", []⟩ = (t, .ok ()) := by
  have htext : Path.text ⟨"", []⟩ = "." := by decide
  have hbad : badPath? "." = none := by decide
  have hwalk : t.walk "." = .ok [] := by with_unfolding_all rfl
  have hmake : t.makeDirectory "." = .error .exists := by
    simp [makeDirectory, hwalk, bind, Except.bind, find?, isGiven]
  have hdirectory : t.isDirectory "." = true := by
    simp [isDirectory, hwalk, hasDirectory, find?, isGiven]
  simp only [makeDirectories, htext, hbad, makeUp, hmake,
    ensureDirectory, hdirectory, if_true]

end AccessPolicy.FileTree
