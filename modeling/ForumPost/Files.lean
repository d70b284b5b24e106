import ForumPost.Text.Basic

/-!
# Files

The program asks two things of a file system: what stands at a path, and to
write a text to a path.  `Files` holds these two operations in any monad, so
that the same program runs on a real file system and on a `Folder`, which is a
value.
-/

namespace ForumPost

/-- What stands at a path. -/
inductive Found where
  | nothing
  | folder
  /-- A file whose bytes are not text. -/
  | bytes
  | text (content : Text)
  deriving DecidableEq, Inhabited

/-- Why a text cannot be written to a path. -/
inductive Obstacle where
  /-- A folder on the way does not exist. -/
  | nothing
  /-- The path names a folder. -/
  | folder
  /-- Something on the way is not a folder. -/
  | notFolder
  /-- The reason that the file system gives. -/
  | other (reason : Text)
  deriving DecidableEq, Inhabited

namespace Obstacle

/-- The wording of an obstacle. -/
def message : Obstacle → Text
  | nothing => "No such file or directory (os error 2)".toList
  | folder => "Is a directory (os error 21)".toList
  | notFolder => "Not a directory (os error 20)".toList
  | other reason => reason

end Obstacle

/-- The operations on files that the program needs. -/
structure Files (m : Type → Type) where
  /-- What stands at a path. -/
  read : Text → m Found
  /-- Writes a text to a path, in the place of an older file; gives the
  obstacle, if there is one. -/
  write : Text → Text → m (Option Obstacle)

end ForumPost
