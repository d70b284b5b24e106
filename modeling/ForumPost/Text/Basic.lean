/-!
# Text

A text is the list of its characters.  Every rule of this library works on
that list, so that a statement about a text is a statement about a list; text
is packed into a `String` only where it enters or leaves the program.

The module holds the small rules that the rest shares:

* `strip` takes the edge characters off both ends;
* `collapse` turns each run of tabs and line feeds into one space, and
  `removeBreaks` takes those characters out;
* `replaceAll` replaces a pattern from the left, occurrences not overlapping;
* `lowerAscii` and `sameIgnoringCase` compare ASCII letters without case;
* `piecesBetween` cuts a text at the characters of a class.
-/

namespace ForumPost

/-- A text is the list of its characters. -/
abbrev Text := List Char

namespace Text

/-- The characters that `strip` takes off the ends of a text: tab, line feed,
vertical tab, form feed, carriage return, space and NUL.  Other spaces, such
as the no-break space, are content. -/
def isEdge (c : Char) : Bool :=
  c == '\t' || c == '\n' || c == '\x0b' || c == '\x0c' || c == '\r' || c == ' ' || c == '\x00'

/-- The characters that break a text into source lines and columns: tab and
line feed. -/
def isBreak (c : Char) : Bool :=
  c == '\t' || c == '\n'

/-- Drops the longest end of a text whose characters all satisfy `drop`. -/
def dropEndWhile (drop : Char → Bool) (text : Text) : Text :=
  (text.reverse.dropWhile drop).reverse

/-- Drops the characters that satisfy `drop` from both ends of a text. -/
def trim (drop : Char → Bool) (text : Text) : Text :=
  dropEndWhile drop (text.dropWhile drop)

/-- A text without the edge characters at its two ends. -/
def strip (text : Text) : Text :=
  trim isEdge text

/-- Does a text begin with a break? -/
def startsWithBreak : Text → Bool
  | [] => false
  | c :: _ => isBreak c

/-- Each maximal run of breaks becomes one space: the last break of a run is
written as a space, and the others are dropped. -/
def collapse : Text → Text
  | [] => []
  | c :: rest =>
    if isBreak c then
      if startsWithBreak rest then collapse rest else ' ' :: collapse rest
    else
      c :: collapse rest

/-- A text without its breaks. -/
def removeBreaks (text : Text) : Text :=
  text.filter fun c => !isBreak c

/-- `replaceFrom skip` leaves out the next `skip` characters, which belong to
an occurrence that is already replaced, and goes on from there. -/
def replaceFrom (pattern replacement : Text) : Nat → Text → Text
  | _, [] => []
  | skip + 1, _ :: rest => replaceFrom pattern replacement skip rest
  | 0, c :: rest =>
    if pattern.isPrefixOf (c :: rest) then
      replacement ++ replaceFrom pattern replacement (pattern.length - 1) rest
    else
      c :: replaceFrom pattern replacement 0 rest

/-- Replaces each occurrence of a non-empty pattern, leftmost first; the next
search starts behind the last occurrence. -/
def replaceAll (pattern replacement text : Text) : Text :=
  replaceFrom pattern replacement 0 text

/-- Puts a separator between neighbouring parts. -/
def join (separator : Text) (parts : List Text) : Text :=
  separator.intercalate parts

/-- Turns the ASCII capitals of a text into small letters. -/
def lowerAscii (text : Text) : Text :=
  text.map Char.toLower

/-- Equality that ignores the case of ASCII letters and of no others. -/
def sameIgnoringCase (first second : Text) : Bool :=
  lowerAscii first == lowerAscii second

/-- Puts a character in front of the first piece of a cut text; a text that
has no piece yet gets one. -/
def growFirst (c : Char) : List Text → List Text
  | [] => [[c]]
  | piece :: pieces => (c :: piece) :: pieces

/-- The pieces of a text between the characters that satisfy `cut`, the empty
ones left out. -/
def piecesBetween (cut : Char → Bool) (text : Text) : List Text :=
  (text.foldr (fun c pieces => if cut c then [] :: pieces else growFirst c pieces) [[]]).filter
    fun piece => !piece.isEmpty

/-! ## First lemmas -/

@[simp] theorem strip_nil : strip [] = [] := rfl

@[simp] theorem collapse_nil : collapse [] = [] := rfl

/-- Nothing is replaced in the empty text. -/
@[simp] theorem replaceAll_nil (pattern replacement : Text) :
    replaceAll pattern replacement [] = [] := rfl

end Text

end ForumPost
