import ForumPost.Text.Columns
import ForumPost.Text.Lines

/-!
# Fixed-width grids

A table drawn with letters of one width: rules made of `+` and `-`, and cells
between bars.  A cell may have several lines, and its row is as high as its
highest cell.  Each cell is padded with spaces to the width of its column, and
one more space stands at either side.

Cells may hold escape sequences of a terminal, which colour a text and take no
room.  The room that a line takes is therefore its columns less the hidden
characters of its escape sequences.  A sequence of several characters that
takes fewer columns than its characters do alone can be hidden in an escape
sequence; then more is hidden than there was, and no grid can be drawn.
-/

namespace ForumPost

namespace Grid

/-! ## The room that a line takes -/

/-- Where a character stands with regard to escape sequences. -/
inductive Spot where
  /-- Outside any escape sequence. -/
  | outside
  /-- Right behind an escape character. -/
  | escaped
  /-- Inside an escape sequence, up to its final letter m. -/
  | inside
  deriving DecidableEq

/-- The number of hidden characters: those of an escape sequence from its
bracket to its final letter, both included, that take a column. -/
def hiddenFrom : Spot → Text → Nat
  | _, [] => 0
  | .outside, c :: rest => hiddenFrom (if c == '\x1b' then .escaped else .outside) rest
  | .escaped, c :: rest => if c == '[' then 1 + hiddenFrom .inside rest else hiddenFrom .outside rest
  | .inside, c :: rest =>
    let room := if Text.ownColumns c == 0 then 0 else 1
    room + hiddenFrom (if c == 'm' then .outside else .inside) rest

/-- The number of hidden characters of a line. -/
def hidden (line : Text) : Nat :=
  hiddenFrom .outside line

/-- Is no more hidden in a line than it has columns? -/
def isDrawable (line : Text) : Bool :=
  hidden line ≤ Text.columns line

/-- The room that a line takes. -/
def room (line : Text) : Nat :=
  Text.columns line - hidden line

/-! ## Columns and rows -/

/-- The room of a cell: that of its widest line. -/
def cellRoom (cell : Text) : Nat :=
  ((Text.lines cell).map room).foldl max 0

/-- The number of lines of a row: at least one, and as many as its highest
cell has. -/
def rowHeight (cells : List Text) : Nat :=
  (cells.map fun cell => (Text.lines cell).length).foldl max 1

/-- The number of columns of a grid: that of its longest row. -/
def columnCount (rows : List (List Text)) : Nat :=
  (rows.map List.length).foldl max 0

/-- The cell of a row in a column; a short row has empty cells at its end. -/
def cellAt (cells : List Text) (column : Nat) : Text :=
  cells.getD column []

/-- The room of each column. -/
def columnRooms (rows : List (List Text)) : List Nat :=
  (List.range (columnCount rows)).map fun column =>
    (rows.map fun cells => cellRoom (cellAt cells column)).foldl max 0

/-- A line with spaces behind it up to the given room. -/
def padded (width : Nat) (line : Text) : Text :=
  line ++ List.replicate (width - room line) ' '

/-! ## Drawing -/

/-- Puts a border in front of the pieces of a line and behind each of them; a
line without pieces is two borders. -/
def bordered (border : Char) (pieces : List Text) : Text :=
  match pieces with
  | [] => [border, border]
  | _ => border :: pieces.flatMap fun piece => piece ++ [border]

/-- A rule across the columns of the given rooms. -/
def ruleLine (rooms : List Nat) : Text :=
  bordered '+' (rooms.map fun width => List.replicate (width + 2) '-')

/-- One line of a row. -/
def rowLine (rooms : List Nat) (cells : List Text) (index : Nat) : Text :=
  bordered '|' (rooms.mapIdx fun column width =>
    " ".toList ++ padded width ((Text.lines (cellAt cells column)).getD index []) ++ " ".toList)

/-- The lines of a row. -/
def rowLines (rooms : List Nat) (cells : List Text) : List Text :=
  (List.range (rowHeight cells)).map (rowLine rooms cells)

/-- The lines of a grid: a rule, the headers, a rule, the rows and a rule. -/
def gridLines (headers : List Text) (rows : List (List Text)) : List Text :=
  let rooms := columnRooms (headers :: rows)
  [ruleLine rooms] ++ rowLines rooms headers ++ [ruleLine rooms] ++
    rows.flatMap (rowLines rooms) ++ [ruleLine rooms]

/-- Can every line of every cell be drawn? -/
def isDrawableGrid (headers : List Text) (rows : List (List Text)) : Bool :=
  (headers :: rows).all fun cells => cells.all fun cell => (Text.lines cell).all isDrawable

/-- A grid with its headers and rows, unless a cell cannot be drawn. -/
def draw? (headers : List Text) (rows : List (List Text)) : Option Text :=
  if isDrawableGrid headers rows then
    some (Text.join ['\n'] (gridLines headers rows))
  else
    none

end Grid

end ForumPost
