import ForumPost.Article.Node

/-!
# Tables of an article

A table is read off its element as a caption, headers, rows and footer lines.
Spans of cells are not interpreted, and what a cell holds counts as its text.

Only the children of the table element are looked at.  A cell of the body that
has no text is dropped, so that a row with an empty cell in its middle becomes
shorter; `Table.padded` fills it up at its end.
-/

namespace ForumPost

/-- The texts of a table. -/
structure Table where
  caption : Text := []
  headers : List Text := []
  rows : List (List Text) := []
  footer : List Text := []
  deriving DecidableEq, Inhabited

namespace Table

/-- The headers in a table head: the header cells of each of its rows. -/
def headersOf (head : Node) : List Text :=
  (head.allBelow .tableRow).flatMap fun row =>
    (row.allBelow .headerCell).map fun cell => Text.strip cell.words

/-- The cells of a body row: the texts of its children on one line each, the
empty ones dropped. -/
def cellsOf (row : Node) : List Text :=
  (row.children.map fun cell => Text.strip (Text.removeBreaks cell.words)).filter
    fun cell => !cell.isEmpty

/-- The line of a footer row: the texts of its children, separated by
spaces. -/
def footerLineOf (row : Node) : Text :=
  Text.strip (Text.removeBreaks (Text.join " ".toList (row.children.map Node.words)))

/-- Adds what a child of the table element holds.  Of several captions the
last one counts. -/
def withPart (table : Table) (part : Node) : Table :=
  match part.kind with
  | .caption => { table with caption := Text.strip part.words }
  | .tableHead => { table with headers := table.headers ++ headersOf part }
  | .tableBody => { table with rows := table.rows ++ (part.allBelow .tableRow).map cellsOf }
  | .tableFoot => { table with footer := table.footer ++ (part.allBelow .tableRow).map footerLineOf }
  | _ => table

/-- The table that an element holds. -/
def ofNode (node : Node) : Table :=
  node.children.foldl withPart {}

/-- The number of cells in the longest of the header row and the rows. -/
def width (table : Table) : Nat :=
  (table.rows.map List.length).foldl max table.headers.length

/-- Has every row as many cells as there are headers? -/
def isRectangular (table : Table) : Bool :=
  table.rows.all fun row => row.length == table.headers.length

/-- A row with empty cells at its end up to the given number of cells. -/
def padRow (width : Nat) (row : List Text) : List Text :=
  row ++ List.replicate (width - row.length) []

/-- The table with its header row and rows filled up to its width. -/
def padded (table : Table) : Table :=
  { table with
    headers := padRow table.width table.headers
    rows := table.rows.map (padRow table.width) }

/-! ## First lemmas -/

/-- A padded row is at least as long as asked for. -/
theorem length_padRow (width : Nat) (row : List Text) :
    (padRow width row).length = max row.length width := by
  simp [padRow]
  omega

/-- A row that is long enough stays as it is. -/
theorem padRow_of_le {width : Nat} {row : List Text} (hlength : width ≤ row.length) :
    padRow width row = row := by
  simp [padRow, Nat.sub_eq_zero_of_le hlength]

end Table

end ForumPost
