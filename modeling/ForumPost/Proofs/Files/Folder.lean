import ForumPost.Files.Folder

/-!
# Writing into a folder

A path that a text can be written to names one file of the folder, or the null
device.  A write puts the text into that file and touches no other; a write to
the null device leaves the folder as it is.
-/

namespace ForumPost

namespace Folder

variable {folder after : Folder} {path content : Text} {names : List Text}

/-- The file that a path names for writing, by the names on the way to it.  The
null device is no file of the folder. -/
def named? (folder : Folder) (path : Text) : Option (List Text) :=
  if path = nullDevice then none else (folder.target path).toOption.map Spot.names

/-- Reading leaves a folder as it is. -/
theorem run_read (folder : Folder) (path : Text) :
    (files.read path).run folder = (folder.find path, folder) := rfl

/-- Writing changes a folder only if it succeeds. -/
theorem run_write (folder : Folder) (path content : Text) :
    (files.write path content).run folder =
      match folder.write path content with
      | .ok after => (none, after)
      | .error obstacle => (some obstacle, folder) := by
  have hrun : (files.write path content).run folder =
      (match folder.write path content with
        | .ok after => do set after; return none
        | .error obstacle => return some obstacle : StateM Folder _).run folder := rfl
  rw [hrun]
  cases folder.write path content <;> rfl

/-- The two ways in which a write succeeds. -/
theorem write_cases (hwrite : folder.write path content = .ok after) :
    (path = nullDevice ∧ after = folder) ∨
      ∃ names, folder.named? path = some names ∧ after = put names (.text content) folder := by
  rw [write] at hwrite
  by_cases hpath : path = nullDevice
  · rw [if_pos (by simpa using hpath), Except.ok.injEq] at hwrite
    exact .inl ⟨hpath, hwrite.symm⟩
  · rw [if_neg (by simpa using hpath)] at hwrite
    cases htarget : folder.target path with
    | error obstacle => simp [htarget, Except.map] at hwrite
    | ok spot =>
      have hafter : put spot.names (.text content) folder = after := by
        simpa [htarget, Except.map] using hwrite
      refine .inr ⟨spot.names, ?_, hafter.symm⟩
      simp [named?, hpath, htarget, Except.toOption]

/-- A write touches no file but the one that the path names. -/
theorem lookup_write_of_ne (hwrite : folder.write path content = .ok after)
    (hnames : folder.named? path ≠ some names) : after.lookup names = folder.lookup names := by
  rcases write_cases hwrite with ⟨-, rfl⟩ | ⟨found, hfound, rfl⟩
  · rfl
  · apply lookup_put_of_ne
    rintro rfl
    exact hnames hfound

/-- Where a path names a file, a write succeeds, and the file holds the text. -/
theorem exists_write (hnames : folder.named? path = some names) (content : Text) :
    ∃ after, folder.write path content = .ok after ∧
      after.lookup names = some (.text content) := by
  rw [named?] at hnames
  split at hnames
  · cases hnames
  · rename_i hpath
    cases htarget : folder.target path with
    | error obstacle => simp [htarget, Except.toOption] at hnames
    | ok spot =>
      have hspot : spot.names = names := by simpa [htarget, Except.toOption] using hnames
      refine ⟨put names (.text content) folder, ?_, lookup_put names _ folder⟩
      simp [write, hpath, htarget, Except.map, hspot]

end Folder

end ForumPost
