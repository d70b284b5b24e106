import Mathlib.Data.List.Forall2
import ForumPost.Article.Table
import ForumPost.Proofs.Article.Places
import ForumPost.Proofs.Text.Compact
import ForumPost.Proofs.Text.Strip

/-!
# The rows of a table

A table gathers its rows from all of its bodies in document order
(`Table.rows_ofNode`).  Each is read off a row element, and each row element of a
body that is not inside of another one gives a row
(`Table.rows_eq_map_cellsOf`).

A cell of a row is one line of text: the breaks are taken out of it
(`Table.not_isBreak_of_mem_rows`).  Its ends are stripped, and nothing else is
lost, so that the row holds the text of its element, child by child
(`Table.ReadsElement`).  Filling up rows adds cells without any character, so
that it neither adds breaks nor takes any away, and so that the cells of a row are
those in front of its first empty cell.

Header cells are stripped and no more than that.  They may hold breaks inside.  The
lines of the footer have their breaks taken out like the cells of the body
(`Table.isFooterLine_of_mem_footer`).
-/

namespace ForumPost

namespace Table

/-! ## Row elements and rows -/

/-- The rows that a child of the table element holds. -/
def rowsIn (part : Node) : List (List Text) :=
  if part.kind = .tableBody then (part.allBelow .tableRow).map cellsOf else []

theorem rows_withPart (table : Table) (part : Node) :
    (table.withPart part).rows = table.rows ++ rowsIn part := by
  rw [withPart, rowsIn]
  split <;> simp_all

theorem rows_foldl_withPart (table : Table) (parts : List Node) :
    (parts.foldl withPart table).rows = table.rows ++ parts.flatMap rowsIn := by
  induction parts generalizing table with
  | nil => simp
  | cons part rest ih =>
    rw [List.foldl_cons, ih, rows_withPart, List.flatMap_cons, List.append_assoc]

/-- The rows of a table are those of its bodies, one body after the other. -/
theorem rows_ofNode (node : Node) : (ofNode node).rows = node.children.flatMap rowsIn := by
  have hrows := rows_foldl_withPart {} node.children
  rwa [List.nil_append] at hrows

/-- The row elements in the bodies of a table element, in document order.  A row element
inside of another one is part of a table in a cell, and does not count. -/
def rowElements (node : Node) : List Node :=
  (node.children.filter fun part => part.kind = .tableBody).flatMap (Node.outermost .tableRow)

/-- Every row element gives its row. -/
theorem rows_eq_map_cellsOf (node : Node) :
    (ofNode node).rows = (rowElements node).map cellsOf := by
  rw [rows_ofNode, rowElements]
  induction node.children with
  | nil => rfl
  | cons part rest ih =>
    rw [List.flatMap_cons, ih, List.filter_cons]
    by_cases hkind : part.kind = .tableBody
    · simp [rowsIn, hkind, Node.allBelow_eq_outermost]
    · simp [rowsIn, hkind]

theorem exists_of_mem_rows {node : Node} {row : List Text} (hrow : row ∈ (ofNode node).rows) :
    ∃ element, row = cellsOf element := by
  rw [rows_eq_map_cellsOf] at hrow
  obtain ⟨element, -, rfl⟩ := List.mem_map.mp hrow
  exact ⟨element, rfl⟩

/-! ## The cells of a row -/

/-- A cell of the body: a text on one line, with other characters than the edge
characters at both ends. -/
structure IsBodyCell (cell : Text) : Prop where
  ne_nil : cell ≠ []
  first : ∀ c ∈ cell.head?, Text.isEdge c = false
  last : ∀ c ∈ cell.getLast?, Text.isEdge c = false
  oneLine : ∀ c ∈ cell, Text.isBreak c = false

/-- Every cell that is read off a row element is such a text. -/
theorem isBodyCell_of_mem_cellsOf {element : Node} {cell : Text} (hcell : cell ∈ cellsOf element) :
    IsBodyCell cell := by
  obtain ⟨hmem, hkept⟩ := List.mem_filter.mp hcell
  obtain ⟨child, -, rfl⟩ := List.mem_map.mp hmem
  exact
    { ne_nil := by simpa using hkept
      first := fun c hc => Text.not_edge_of_head?_strip hc
      last := fun c hc => Text.not_edge_of_getLast?_strip hc
      oneLine := fun c hc => Text.not_isBreak_of_mem_removeBreaks (Text.mem_of_mem_strip hc) }

/-- A body cell is one line. -/
theorem not_isBreak_of_mem_rows {node : Node} {row : List Text} {cell : Text} {c : Char}
    (hrow : row ∈ (ofNode node).rows) (hcell : cell ∈ row) (hc : c ∈ cell) :
    Text.isBreak c = false := by
  obtain ⟨element, rfl⟩ := exists_of_mem_rows hrow
  exact (isBodyCell_of_mem_cellsOf hcell).oneLine c hc

/-- The cells hold the texts of those children that have more than edge characters. -/
theorem map_compact_cellsOf (element : Node) :
    (cellsOf element).map Text.compact =
      (element.children.map fun child => Text.compact child.words).filter (· ≠ []) := by
  rw [cellsOf]
  induction element.children with
  | nil => rfl
  | cons child rest ih =>
    have hempty : Text.strip (Text.removeBreaks child.words) = [] ↔
        Text.compact child.words = [] := by
      rw [Text.strip_eq_nil_iff, Text.compact_removeBreaks]
    by_cases hchild : Text.compact child.words = []
    · simpa [hempty, hchild] using ih
    · simpa [hempty, hchild] using ih

/-- So they hold the text of the element, up to edge characters. -/
theorem compact_flatten_cellsOf (element : Node) :
    Text.compact (cellsOf element).flatten =
      Text.compact (element.children.flatMap Node.words) := by
  rw [Text.compact_flatten, List.flatMap_def, map_compact_cellsOf, List.flatten_filter_ne_nil,
    ← List.flatMap_def, List.flatMap_def (f := Node.words), Text.compact_flatten, List.flatMap_map]

/-! ## Footer lines -/

/-- A line of the footer: a text without breaks that does not begin with an edge
character. -/
structure IsFooterLine (line : Text) : Prop where
  first : ∀ c ∈ line.head?, Text.isEdge c = false
  oneLine : ∀ c ∈ line, Text.isBreak c = false

theorem isFooterLine_footerLineOf (row : Node) : IsFooterLine (footerLineOf row) where
  first _ hc := Text.not_edge_of_head?_strip hc
  oneLine _ hc := Text.not_isBreak_of_mem_removeBreaks (Text.mem_of_mem_strip hc)

theorem footer_withPart (table : Table) (part : Node) :
    (table.withPart part).footer = table.footer ++
      (if part.kind = .tableFoot then part.allBelow .tableRow else []).map footerLineOf := by
  rw [withPart]
  split <;> simp_all

/-- Every line of the footer is such a text. -/
theorem isFooterLine_of_mem_footer {node : Node} :
    ∀ line ∈ (ofNode node).footer, IsFooterLine line := by
  refine List.foldlRecOn (motive := fun table => ∀ line ∈ table.footer, IsFooterLine line)
    node.children withPart ?_ ?_
  · simp
  · intro table htable part _ line hline
    rw [footer_withPart] at hline
    rcases List.mem_append.mp hline with hline | hline
    · exact htable line hline
    · obtain ⟨row, -, rfl⟩ := List.mem_map.mp hline
      exact isFooterLine_footerLineOf row

/-! ## Filled up rows -/

/-- Filling up a row adds empty cells. -/
theorem mem_padRow {width : Nat} {row : List Text} {cell : Text} (hcell : cell ∈ padRow width row) :
    cell ∈ row ∨ cell = [] := by
  rcases List.mem_append.mp hcell with hrow | hempty
  · exact .inl hrow
  · exact .inr (List.mem_replicate.mp hempty).2

/-- The body holds no line feeds, filled up or not. -/
theorem not_mem_padded_rows (node : Node) :
    ∀ row ∈ (ofNode node).padded.rows, ∀ cell ∈ row, '\n' ∉ cell := by
  intro row hrow cell hcell hmem
  obtain ⟨short, hshort, rfl⟩ := List.mem_map.mp hrow
  rcases mem_padRow hcell with hcell | rfl
  · have hbreak := not_isBreak_of_mem_rows hshort hcell hmem
    exact absurd hbreak (by decide)
  · simp at hmem

/-- What does not hold of the empty text holds of a cell before a row is filled up exactly
if it does so afterwards. -/
theorem exists_cell_padRow_iff {p : Text → Prop} (hnil : ¬ p []) {width : Nat} {row : List Text} :
    (∃ cell ∈ padRow width row, p cell) ↔ ∃ cell ∈ row, p cell := by
  constructor
  · rintro ⟨cell, hcell, hp⟩
    rcases mem_padRow hcell with hrow | rfl
    · exact ⟨cell, hrow, hp⟩
    · exact absurd hp hnil
  · rintro ⟨cell, hcell, hp⟩
    exact ⟨cell, List.mem_append_left _ hcell, hp⟩

theorem exists_mem_padRow_iff {width : Nat} {row : List Text} {c : Char} :
    (∃ cell ∈ padRow width row, c ∈ cell) ↔ ∃ cell ∈ row, c ∈ cell :=
  exists_cell_padRow_iff (p := (c ∈ ·)) List.not_mem_nil

/-- The header row and the rows are filled up alike. -/
theorem exists_cell_padded_iff {p : Text → Prop} (hnil : ¬ p []) {table : Table} :
    (∃ cells ∈ table.padded.headers :: table.padded.rows, ∃ cell ∈ cells, p cell) ↔
      ∃ cells ∈ table.headers :: table.rows, ∃ cell ∈ cells, p cell := by
  simp only [padded, List.exists_mem_cons_iff, List.mem_map, exists_exists_and_eq_and,
    exists_cell_padRow_iff hnil]

/-- Behind the cells of a row, filling up puts empty ones, and the row holds none. -/
theorem takeWhile_padRow {width : Nat} {row : List Text} (hrow : ∀ cell ∈ row, cell ≠ []) :
    (padRow width row).takeWhile (· ≠ []) = row := by
  have hkept : ∀ cell ∈ row, decide (cell ≠ []) = true := by simpa using hrow
  rw [padRow, List.takeWhile_append_of_pos hkept, List.takeWhile_replicate]
  simp

/-! ## What the rows hold -/

/-- The cells of the row hold the text of the children of the element, up to edge
characters, and do so child by child. -/
structure ReadsElement (element : Node) (row : List Text) : Prop where
  content : Text.compact row.flatten = Text.compact (element.children.flatMap Node.words)
  childByChild : row.map Text.compact =
    (element.children.map fun child => Text.compact child.words).filter (· ≠ [])
  isBodyCell : ∀ cell ∈ row, IsBodyCell cell

theorem readsElement_cellsOf (element : Node) : ReadsElement element (cellsOf element) where
  content := compact_flatten_cellsOf element
  childByChild := map_compact_cellsOf element
  isBodyCell _ hcell := isBodyCell_of_mem_cellsOf hcell

/-- What the rows of a table hold.  They are those of the row elements in its bodies, one
for each and in the same order.  Up to edge characters, the cells of a row hold the text of
the children of its element: there is one cell for each child that has other characters in
its text.  No cell is empty, begins or ends with an edge character, or holds a break.  So
when the table is filled up, the cells of each row in front of its first empty cell are
those that were read. -/
theorem rows_keep_cells (node : Node) :
    List.Forall₂ ReadsElement (rowElements node) (ofNode node).rows ∧
    (ofNode node).padded.rows.map (List.takeWhile (· ≠ [])) = (ofNode node).rows := by
  constructor
  · rw [rows_eq_map_cellsOf, List.forall₂_map_right_iff, List.forall₂_same]
    exact fun element _ => readsElement_cellsOf element
  · have hcut : ∀ row ∈ (ofNode node).rows,
        (List.takeWhile (· ≠ []) ∘ padRow (ofNode node).width) row = row := by
      intro row hrow
      obtain ⟨element, rfl⟩ := exists_of_mem_rows hrow
      exact takeWhile_padRow fun cell hcell => (isBodyCell_of_mem_cellsOf hcell).ne_nil
    rw [padded, List.map_map, List.map_congr_left (g := fun row => row) hcut, List.map_id']

end Table

end ForumPost
