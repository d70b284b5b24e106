import ForumPost.Files

/-!
# Folders

A folder as a value: the files in it and below it.  A folder below it is there
as soon as it holds a file.

Paths are walked along name by name, as a file system does it: every name but
the last one has to lead to a folder, one dot stays where it is, and two dots
lead out of a folder.  Of what lies outside, only the folders around are known
to be there, and the null device, which holds nothing and takes everything.
-/

namespace ForumPost

/-- The bytes of a file: a text, or bytes that are not one. -/
inductive Contents where
  | text (content : Text)
  | bytes
  deriving DecidableEq, Inhabited

/-- The files of a folder, each with the names on the way to it. -/
abbrev Folder := List (List Text × Contents)

/-- A spot in the file system: so many folders out of the working folder, and
from there along names. -/
structure Spot where
  out : Nat := 0
  names : List Text := []
  deriving DecidableEq

namespace Spot

/-- The spot that a name leads to from a folder. -/
def enter (spot : Spot) (name : Text) : Spot :=
  if name == ".".toList then spot
  else if name == "..".toList then
    if spot.names.isEmpty then { spot with out := spot.out + 1 }
    else { spot with names := spot.names.dropLast }
  else { spot with names := spot.names ++ [name] }

end Spot

namespace Folder

/-- The names of a path. -/
def namesOf (path : Text) : List Text :=
  Text.piecesBetween (· == '/') path

/-- The path of the null device. -/
def nullDevice : Text :=
  "/dev/null".toList

/-- The file at a spot. -/
def file? (folder : Folder) (spot : Spot) : Option Contents :=
  if spot.out == 0 then folder.lookup spot.names else none

/-- Is there a folder at a spot? -/
def isFolder (folder : Folder) (spot : Spot) : Bool :=
  spot.names.isEmpty ||
    spot.out == 0 && folder.any fun entry =>
      spot.names.isPrefixOf entry.1 && spot.names.length < entry.1.length

/-- Walks along names; every step starts from a folder. -/
def walk (folder : Folder) (spot : Spot) : List Text → Except Obstacle Spot
  | [] => .ok spot
  | name :: rest =>
    if folder.isFolder spot then folder.walk (spot.enter name) rest
    else if (folder.file? spot).isSome then .error .notFolder
    else .error .nothing

/-- Does a path from the top of the file system stay there? -/
def staysAtTop (path : Text) : Bool :=
  (namesOf path).all fun name => name == ".".toList || name == "..".toList

/-- The spot that a path leads to.  The empty path leads nowhere, and of the
paths from the top of the file system only those that stay there lead
somewhere: to a folder outside. -/
def spotOf (folder : Folder) (path : Text) : Except Obstacle Spot :=
  match path with
  | [] => .error .nothing
  | '/' :: rest => if staysAtTop rest then .ok { out := 1 } else .error .nothing
  | _ => folder.walk {} (namesOf path)

/-- Does a path name a folder by its form? -/
def namesFolder (path : Text) : Bool :=
  path.getLast? == some '/'

/-- What stands at a path. -/
def find (folder : Folder) (path : Text) : Found :=
  if path == nullDevice then .text []
  else
    match folder.spotOf path with
    | .error _ => .nothing
    | .ok spot =>
      if folder.isFolder spot then .folder
      else if namesFolder path then .nothing
      else
        match folder.file? spot with
        | some (.text content) => .text content
        | some .bytes => .bytes
        | none => .nothing

/-- Puts a file into a folder, in the place of one with the same names. -/
def put (names : List Text) (contents : Contents) : Folder → Folder
  | [] => [(names, contents)]
  | (other, old) :: rest =>
    if names == other then (names, contents) :: rest else (other, old) :: put names contents rest

/-- The spot of the file that a text is written to. -/
def target (folder : Folder) (path : Text) : Except Obstacle Spot := do
  let spot ← folder.spotOf path
  if folder.isFolder spot || namesFolder path then .error .folder
  else if spot.out == 0 then .ok spot
  else .error .nothing

/-- The folder after a text is written to a path, or the obstacle. -/
def write (folder : Folder) (path content : Text) : Except Obstacle Folder :=
  if path == nullDevice then .ok folder
  else (folder.target path).map fun spot => folder.put spot.names (.text content)

/-- The operations on files in a folder. -/
def files : Files (StateM Folder) where
  read path := do return (← get).find path
  write path content := do
    match (← get).write path content with
    | .ok folder =>
      set folder
      return none
    | .error obstacle => return some obstacle

/-- Another file keeps its contents when one is put into a folder. -/
theorem lookup_put_of_ne {names other : List Text} (hother : other ≠ names) (contents : Contents)
    (folder : Folder) : (put names contents folder).lookup other = folder.lookup other := by
  induction folder with
  | nil => simp [put, List.lookup_cons, beq_false_of_ne hother]
  | cons entry rest ih =>
    obtain ⟨first, old⟩ := entry
    by_cases hfirst : names = first
    · subst hfirst
      simp [put, List.lookup_cons, beq_false_of_ne hother]
    · have hne : (names == first) = false := beq_false_of_ne hfirst
      simp only [put, hne, Bool.false_eq_true, if_false, List.lookup_cons, ih]

/-- A file that is put into a folder is found there. -/
theorem lookup_put (names : List Text) (contents : Contents) (folder : Folder) :
    (put names contents folder).lookup names = some contents := by
  induction folder with
  | nil => simp [put]
  | cons entry rest ih =>
    obtain ⟨first, old⟩ := entry
    by_cases hfirst : names = first
    · subst hfirst
      simp [put]
    · have hne : (names == first) = false := beq_false_of_ne hfirst
      simp [put, hne, List.lookup_cons, ih]

end Folder

end ForumPost
