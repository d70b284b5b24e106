import ForumPost.Article.Table
import ForumPost.Markup
import ForumPost.Proofs.Article.TableRows
import ForumPost.Proofs.Largest
import ForumPost.Proofs.Markup.Grid
import ForumPost.Proofs.Pairs
import ForumPost.Proofs.Text.Columns

/-!
# The lines of a grid

What a grid without escape characters looks like, line by line.  Here is what its
parts have to satisfy; none of it says how they are made.

* A piece shows a line in a column: the line, as many spaces as the column is wider,
  and a space at either side (`Grid.IsPiece`).
* The lines of a row are as many as its highest cell has, and each shows one line of
  each cell, or nothing where a cell has no more (`Grid.DrawsRow`).
* The columns are as many as the longest row has cells, each as wide as the widest
  line in it, and the lines of the rows stand between rules (`Grid.Shows`).

A grid is drawn like that (`Style.grid_aligned`).  From it follows what a reader sees: all
lines take the same columns, whatever signs stand in the cells
(`Grid.DrawsRow.columns_eq`), and a row whose cells hold no line feeds is one line
(`Grid.DrawsRow.onOneLine`), as every row is that is read off an article.
-/

namespace ForumPost

namespace Grid

open Text (columns)

/-! ## What is seen of a grid -/

/-- `piece` shows a line in a column of the given width. -/
def IsPiece (width : Nat) (line piece : Text) : Prop :=
  ∃ spaces, columns line + spaces = width ∧
    piece = ' ' :: line ++ List.replicate spaces ' ' ++ [' ']

/-- `drawn` are the lines of a row in columns of the given widths. -/
structure DrawsRow (widths : List Nat) (cells drawn : List Text) : Prop where
  height : IsGreatest {count | count ∈ 1 :: cells.map fun cell => (Text.lines cell).length}
    drawn.length
  line : ∀ (index : Nat) (line : Text), drawn[index]? = some line →
    ∃ pieces, line = bordered '|' pieces ∧ pieces.length = widths.length ∧
      ∀ (column width : Nat) (piece : Text), widths[column]? = some width →
        pieces[column]? = some piece → IsPiece width (shownLine cells column index) piece

/-- The lines of the cells in a column. -/
def columnLines (rows : List (List Text)) (column : Nat) : List Text :=
  rows.flatMap fun cells => Text.lines (cellAt cells column)

/-- `drawn` shows headers and rows: `widths` are the widths of the columns, `head` the
lines of the headers, and `blocks` the lines of each row. -/
structure Shows (headers : List Text) (rows : List (List Text)) (widths : List Nat)
    (head : List Text) (blocks : List (List Text)) (drawn : Text) : Prop where
  lines : drawn.splitOn '\n' =
    [ruleLine widths] ++ head ++ [ruleLine widths] ++ blocks.flatten ++ [ruleLine widths]
  columnCount : IsGreatest {count | count ∈ (headers :: rows).map List.length} widths.length
  isWidest : ∀ column width : Nat, widths[column]? = some width →
    IsGreatest {room | room ∈ 0 :: (columnLines (headers :: rows) column).map columns} width
  drawsHeaders : DrawsRow widths headers head
  drawsRows : List.Forall₂ (DrawsRow widths) rows blocks

/-! ## Lines of one width -/

section Bordered

variable {border : Char} {pieces : List Text}

theorem bordered_of_ne_nil (hne : pieces ≠ []) :
    bordered border pieces = border :: pieces.flatMap fun piece => piece ++ [border] := by
  cases pieces with
  | nil => exact absurd rfl hne
  | cons first rest => rfl

theorem infix_bordered {piece : Text} (hpiece : piece ∈ pieces) :
    piece <:+: bordered border pieces := by
  rw [bordered_of_ne_nil (List.ne_nil_of_mem hpiece)]
  obtain ⟨before, after, rfl⟩ := List.append_of_mem hpiece
  rw [List.flatMap_append, List.flatMap_cons]
  exact ⟨border :: before.flatMap (· ++ [border]), border :: after.flatMap (· ++ [border]),
    by simp⟩

variable {other : Char} {others : List Text} (hborder : Text.StandsAlone border)
  (hother : Text.StandsAlone other) (hpieces : pieces.map columns = others.map columns)
include hborder hother hpieces

theorem columns_flatMap_border_congr :
    columns (pieces.flatMap fun piece => piece ++ [border]) =
      columns (others.flatMap fun piece => piece ++ [other]) := by
  induction pieces generalizing others with
  | nil =>
    obtain rfl := List.map_eq_nil_iff.mp hpieces.symm
    rfl
  | cons piece rest ih =>
    obtain ⟨first, more, rfl, hfirst, hmore⟩ := List.map_eq_cons_iff.mp hpieces.symm
    rw [List.flatMap_cons, List.flatMap_cons, List.append_assoc, List.append_assoc,
      List.singleton_append, List.singleton_append, Text.columns_append hborder,
      Text.columns_append hother, Text.columns_cons hborder, Text.columns_cons hother, hfirst,
      ih hmore.symm]

/-- Pieces of the same columns give lines of the same columns, whatever the border. -/
theorem columns_bordered_congr :
    columns (bordered border pieces) = columns (bordered other others) := by
  cases pieces with
  | nil =>
    obtain rfl := List.map_eq_nil_iff.mp hpieces.symm
    simp [bordered, Text.columns_cons hborder, Text.columns_cons hother]
  | cons piece rest =>
    obtain ⟨first, more, rfl, -⟩ := List.map_eq_cons_iff.mp hpieces.symm
    simp only [bordered, Text.columns_cons hborder, Text.columns_cons hother,
      columns_flatMap_border_congr hborder hother hpieces]

end Bordered

theorem IsPiece.columns_eq {width : Nat} {line piece : Text} (hpiece : IsPiece width line piece) :
    columns piece = width + 2 := by
  obtain ⟨spaces, hwidth, rfl⟩ := hpiece
  have hspace : Text.StandsAlone ' ' := Text.standsAlone_of_mem (by decide)
  have hend : line ++ List.replicate spaces ' ' ++ [' '] =
      line ++ ' ' :: List.replicate spaces ' ' := by
    rw [List.append_assoc, ← List.replicate_succ', List.replicate_succ]
  rw [List.cons_append, List.cons_append, hend, Text.columns_cons hspace,
    Text.columns_append hspace, Text.columns_cons hspace, Text.columns_replicate hspace, ← hwidth]
  omega

/-- Every line of a row takes as many columns as a rule. -/
theorem DrawsRow.columns_eq {widths : List Nat} {cells drawn : List Text}
    (hrow : DrawsRow widths cells drawn) {line : Text} (hline : line ∈ drawn) :
    columns line = columns (ruleLine widths) := by
  obtain ⟨index, hindex⟩ := List.mem_iff_getElem?.mp hline
  obtain ⟨pieces, rfl, hlength, hpieces⟩ := hrow.line index line hindex
  have hdash : Text.StandsAlone '-' := Text.standsAlone_of_mem (by decide)
  refine columns_bordered_congr (Text.standsAlone_of_mem (by decide))
    (Text.standsAlone_of_mem (by decide)) ?_
  apply List.ext_getElem
  · simp [hlength]
  · intro column hpiece hwidth
    rw [List.length_map] at hpiece
    rw [List.length_map, List.length_map] at hwidth
    have hshown := hpieces column _ _ (List.getElem?_eq_getElem hwidth)
      (List.getElem?_eq_getElem hpiece)
    simp [hshown.columns_eq, Text.columns_replicate hdash]

section Shows

variable {headers : List Text} {rows : List (List Text)} {widths : List Nat} {head : List Text}
  {blocks : List (List Text)} {drawn : Text} (hshows : Shows headers rows widths head blocks drawn)
include hshows

/-- All lines of what is shown take as many columns as its rules. -/
theorem Shows.columns_eq {line : Text} (hline : line ∈ drawn.splitOn '\n') :
    columns line = columns (ruleLine widths) := by
  simp only [hshows.lines, List.mem_append, List.mem_singleton, List.mem_flatten] at hline
  rcases hline with (((rfl | hhead) | rfl) | ⟨block, hblock, hline⟩) | rfl
  · rfl
  · exact hshows.drawsHeaders.columns_eq hhead
  · rfl
  · obtain ⟨cells, -, hrow⟩ := exists_mem_of_forall₂ hshows.drawsRows.flip hblock
    exact hrow.columns_eq hline
  · rfl

theorem Shows.length_le {cells : List Text} (hcells : cells ∈ headers :: rows) :
    cells.length ≤ widths.length :=
  hshows.columnCount.2 (List.mem_map_of_mem hcells)

end Shows

/-! ## Rows on one line -/

/-- A row that takes one line, with all of its cells on it. -/
def OnOneLine (cells block : List Text) : Prop :=
  ∃ line, block = [line] ∧ ∀ cell ∈ cells, cell <:+: line

theorem IsPiece.infix {width : Nat} {line piece : Text} (hpiece : IsPiece width line piece) :
    line <:+: piece := by
  obtain ⟨spaces, -, rfl⟩ := hpiece
  exact ⟨[' '], List.replicate spaces ' ' ++ [' '], by simp⟩

section OnOneLine

variable {widths : List Nat} {cells block : List Text} (hrow : DrawsRow widths cells block)
include hrow

/-- What a column shows of a row is a part of the line. -/
theorem DrawsRow.shownLine_infix {index column : Nat} {line : Text}
    (hline : block[index]? = some line) (hcolumn : column < widths.length) :
    shownLine cells column index <:+: line := by
  obtain ⟨pieces, rfl, hlength, hpieces⟩ := hrow.line index line hline
  have hpiece : column < pieces.length := by rwa [hlength]
  have hshown := hpieces column _ _ (List.getElem?_eq_getElem hcolumn)
    (List.getElem?_eq_getElem hpiece)
  exact hshown.infix.trans (infix_bordered (List.getElem_mem hpiece))

/-- A row without line feeds takes one line. -/
theorem DrawsRow.length_eq_one (hcells : ∀ cell ∈ cells, '\n' ∉ cell) : block.length = 1 := by
  obtain ⟨hmem, hle⟩ := hrow.height
  rcases List.mem_cons.mp hmem with hone | hcell
  · exact hone
  · obtain ⟨cell, hcell, hheight⟩ := List.mem_map.mp hcell
    have hleast := hle (List.mem_cons_self ..)
    rcases eq_or_ne cell [] with rfl | hne
    · rw [← hheight] at hleast
      cases hleast
    · rw [← hheight, Text.lines_eq_singleton hne (hcells cell hcell)]
      rfl

/-- All of its cells are on that line. -/
theorem DrawsRow.onOneLine (hcount : cells.length ≤ widths.length)
    (hcells : ∀ cell ∈ cells, '\n' ∉ cell) : OnOneLine cells block := by
  obtain ⟨line, rfl⟩ := List.length_eq_one_iff.mp (hrow.length_eq_one hcells)
  refine ⟨line, rfl, fun cell hcell => ?_⟩
  rcases eq_or_ne cell [] with rfl | hne
  · exact List.nil_infix
  · obtain ⟨column, hfound⟩ := List.mem_iff_getElem?.mp hcell
    obtain ⟨hcolumn, -⟩ := List.getElem?_eq_some_iff.mp hfound
    have hshown : shownLine cells column 0 = cell := by
      rw [shownLine_eq hfound, Text.lines_eq_singleton hne (hcells cell hcell)]
      rfl
    have hinside : shownLine cells column 0 <:+: line :=
      hrow.shownLine_infix rfl (Nat.lt_of_lt_of_le hcolumn hcount)
    rwa [hshown] at hinside

end OnOneLine

/-! ## What is drawn is seen -/

/-- A line that fits into its column leaves the difference for spaces. -/
theorem isPiece_padded {width : Nat} {line : Text} (hroom : room line = columns line)
    (hfits : columns line ≤ width) :
    IsPiece width line (" ".toList ++ padded width line ++ " ".toList) := by
  refine ⟨width - columns line, Nat.add_sub_cancel' hfits, ?_⟩
  rw [padded, hroom]
  rfl

section Drawn

variable {rows : List (List Text)} (hescape : ∀ cells ∈ rows, ∀ cell ∈ cells, '\x1b' ∉ cell)
include hescape

/-- Nothing is hidden, so a line takes as much room as it has columns. -/
theorem room_eq_columns {cells : List Text} (hcells : cells ∈ rows) {column : Nat} {line : Text}
    (hline : line ∈ Text.lines (cellAt cells column)) : room line = columns line := by
  have hcell : '\x1b' ∉ cellAt cells column := by
    rw [cellAt, List.getD_eq_getElem?_getD]
    cases hfound : cells[column]? with
    | none => exact List.not_mem_nil
    | some cell => exact hescape cells hcells cell (List.mem_of_getElem? hfound)
  have hhidden : hidden line = 0 := hidden_eq_zero fun c hc heq =>
    hcell (heq ▸ Text.mem_of_mem_lines hline hc)
  rw [room, hhidden, Nat.sub_zero]

/-- A column is as wide as the widest line in it. -/
theorem isGreatest_columnRooms {column width : Nat}
    (hwidth : (columnRooms rows)[column]? = some width) :
    IsGreatest {room | room ∈ 0 :: (columnLines rows column).map columns} width := by
  have hroom : (rows.map fun cells => cellRoom (cellAt cells column)).foldl max 0 = width := by
    rw [columnRooms, List.getElem?_map] at hwidth
    obtain ⟨found, hfound, hroom⟩ := Option.map_eq_some_iff.mp hwidth
    obtain ⟨_, hcolumn⟩ := List.getElem?_eq_some_iff.mp hfound
    rwa [← hcolumn, List.getElem_range] at hroom
  rw [← hroom, columnLines, List.map_flatMap]
  apply isGreatest_flatMap
  intro cells hcells
  have hcolumns : (Text.lines (cellAt cells column)).map columns =
      (Text.lines (cellAt cells column)).map room :=
    List.map_congr_left fun line hline => (room_eq_columns hescape hcells hline).symm
  rw [hcolumns]
  exact isGreatest_foldl_max 0 _

/-- What a column shows fits into it. -/
theorem room_shownLine {cells : List Text} (hcells : cells ∈ rows) {column width : Nat}
    (hwidth : (columnRooms rows)[column]? = some width) (index : Nat) :
    room (shownLine cells column index) = columns (shownLine cells column index) ∧
      columns (shownLine cells column index) ≤ width := by
  rw [shownLine, List.getD_eq_getElem?_getD]
  cases hshown : (Text.lines (cellAt cells column))[index]? with
  | none => exact ⟨rfl, Nat.zero_le _⟩
  | some line =>
    have hmem := List.mem_of_getElem? hshown
    have hinside : line ∈ columnLines rows column := List.mem_flatMap.mpr ⟨cells, hcells, hmem⟩
    refine ⟨room_eq_columns hescape hcells hmem, ?_⟩
    exact (isGreatest_columnRooms hescape hwidth).2
      (List.mem_cons_of_mem _ (List.mem_map_of_mem hinside))

/-- The lines of a row show its cells. -/
theorem drawsRow_rowLines {cells : List Text} (hcells : cells ∈ rows) :
    DrawsRow (columnRooms rows) cells (rowLines (columnRooms rows) cells) where
  height := by
    rw [rowLines, List.length_map, List.length_range]
    exact isGreatest_foldl_max 1 _
  line := by
    intro index line hline
    obtain ⟨found, hfound, rfl⟩ := Option.map_eq_some_iff.mp (List.getElem?_map ▸ hline)
    obtain ⟨_, rfl⟩ := List.getElem?_eq_some_iff.mp hfound
    rw [List.getElem_range]
    refine ⟨_, rfl, List.length_mapIdx, ?_⟩
    intro column width piece hwidth hpiece
    rw [List.getElem?_mapIdx, hwidth] at hpiece
    obtain rfl := Option.some.inj hpiece
    obtain ⟨hroom, hfits⟩ := room_shownLine hescape hcells hwidth index
    exact isPiece_padded hroom hfits

end Drawn

/-! ## The text of a grid -/

theorem length_columnRooms (rows : List (List Text)) :
    (columnRooms rows).length = columnCount rows := by
  rw [columnRooms, List.length_map, List.length_range]

/-- No row has more cells than there are columns. -/
theorem length_le_columnRooms {rows : List (List Text)} {cells : List Text}
    (hcells : cells ∈ rows) : cells.length ≤ (columnRooms rows).length := by
  rw [length_columnRooms]
  exact (isGreatest_foldl_max 0 _).2 (List.mem_cons_of_mem _ (List.mem_map_of_mem hcells))

theorem mem_gridLines_of_mem_rowLines {headers : List Text} {rows : List (List Text)}
    {cells : List Text} {line : Text} (hcells : cells ∈ headers :: rows)
    (hline : line ∈ rowLines (columnRooms (headers :: rows)) cells) :
    line ∈ gridLines headers rows := by
  simp only [gridLines, List.mem_append, List.mem_flatMap]
  rcases List.mem_cons.mp hcells with rfl | hcells
  · exact .inl (.inl (.inl (.inr hline)))
  · exact .inl (.inr ⟨cells, hcells, hline⟩)

theorem not_mem_gridLines {headers : List Text} {rows : List (List Text)} {line : Text}
    (hline : line ∈ gridLines headers rows) : '\n' ∉ line := by
  rcases mem_gridLines hline with rfl | ⟨cells, -, index, rfl⟩
  · intro hmem
    exact satisfies_ruleLine (p := (· ≠ '\n')) _ (by decide) (by decide) _ hmem rfl
  · intro hmem
    refine satisfies_rowLine (p := (· ≠ '\n')) _ index (by decide) (by decide) ?_ _ hmem rfl
    intro cell hcell line hline c hc heq
    exact Text.not_mem_of_mem_lines hline (heq ▸ hc)

theorem splitOn_join_gridLines (headers : List Text) (rows : List (List Text)) :
    (Text.join ['\n'] (gridLines headers rows)).splitOn '\n' = gridLines headers rows :=
  List.splitOn_intercalate '\n' (fun _ hline => not_mem_gridLines hline) (by simp [gridLines])

theorem head?_bordered (border : Char) (pieces : List Text) :
    (bordered border pieces).head? = some border := by
  cases pieces <;> rfl

/-- Every line of a grid begins with a border. -/
theorem head?_of_mem_gridLines {headers : List Text} {rows : List (List Text)} {line : Text}
    (hline : line ∈ gridLines headers rows) : line.head? = some '+' ∨ line.head? = some '|' := by
  rcases mem_gridLines hline with rfl | ⟨cells, -, index, rfl⟩
  · exact .inl (head?_bordered '+' _)
  · exact .inr (head?_bordered '|' _)

theorem getLast?_bordered (border : Char) (pieces : List Text) :
    (bordered border pieces).getLast? = some border := by
  rcases List.eq_nil_or_concat pieces with rfl | ⟨front, last, rfl⟩
  · rfl
  · rw [List.concat_eq_append, bordered_of_ne_nil (by simp), List.flatMap_append,
      List.flatMap_singleton, ← List.append_assoc, ← List.cons_append, List.getLast?_concat]

/-- A grid ends in the corner of its last rule. -/
theorem getLast?_join_gridLines (headers : List Text) (rows : List (List Text)) :
    (Text.join ['\n'] (gridLines headers rows)).getLast? = some '+' := by
  have hrule : ∀ rooms, (ruleLine rooms).getLast? = some '+' := fun rooms =>
    getLast?_bordered '+' _
  have hne : ruleLine (columnRooms (headers :: rows)) ≠ [] := fun hnil => by
    have hlast := hrule (columnRooms (headers :: rows))
    rw [hnil] at hlast
    cases hlast
  rw [gridLines, Text.getLast?_join_concat _ _ hne, hrule]

/-- What is drawn shows the headers and the rows. -/
theorem shows_join_gridLines {headers : List Text} {rows : List (List Text)}
    (hescape : ∀ cells ∈ headers :: rows, ∀ cell ∈ cells, '\x1b' ∉ cell) :
    let widths := columnRooms (headers :: rows)
    Shows headers rows widths (rowLines widths headers) (rows.map (rowLines widths))
      (Text.join ['\n'] (gridLines headers rows)) := by
  intro widths
  refine ⟨?_, ?_, fun column width => isGreatest_columnRooms hescape,
    drawsRow_rowLines hescape (List.mem_cons_self ..), ?_⟩
  · rw [splitOn_join_gridLines, gridLines, List.flatMap_def]
  · have hlongest := isGreatest_foldl_max headers.length (rows.map List.length)
    rwa [length_columnRooms, columnCount, List.map_cons, List.foldl_cons, Nat.zero_max]
  · rw [List.forall₂_map_right_iff, List.forall₂_same]
    exact fun cells hcells => drawsRow_rowLines hescape (List.mem_cons_of_mem headers hcells)

end Grid

open Grid

/-- How a grid is drawn whose cells hold no escape characters, whatever their number and
the number of their lines.  It consists of a rule, the lines of the headers, a rule, the
lines of the rows one after the other, and a rule; the lines and the widths of the columns
are those that the cells ask for.  All lines take the same columns.  No line feed stands at
its end, so that only one that is put there is trimmed off, and each row that is read off
an article is on one line. -/
theorem Style.grid_aligned (site : Site) (headers : List Text) (rows : List (List Text))
    (hescape : ∀ cells ∈ headers :: rows, ∀ cell ∈ cells, '\x1b' ∉ cell) :
    ∃ drawn widths head blocks,
      ({ dialect := .rpgGeek, site } : Style).grid headers rows = .ok drawn ∧
      Shows headers rows widths head blocks drawn ∧
      (∀ line ∈ drawn.splitOn '\n', Text.columns line = Text.columns (ruleLine widths)) ∧
      drawn.getLast? = some '+' ∧
      Text.trimBlankEnd (drawn ++ ['\n']) = drawn ∧
      ∀ node, rows = (Table.ofNode node).padded.rows → List.Forall₂ OnOneLine rows blocks := by
  have hnone : ∀ cells ∈ headers :: rows, ∀ cell ∈ cells, ∀ c ∈ cell, c ≠ '\x1b' :=
    fun cells hcells cell hcell c hc heq => hescape cells hcells cell hcell (heq ▸ hc)
  have hdrawn := draw?_eq_some_iff.mpr ⟨isDrawableGrid_of_noEscape hnone, rfl⟩
  have hshows := shows_join_gridLines hescape
  have hlast := getLast?_join_gridLines headers rows
  refine ⟨_, _, _, _, ?_, hshows, ?_, hlast, ?_, ?_⟩
  · rw [Style.grid, hdrawn]
  · intro line hline
    exact hshows.columns_eq hline
  · have hblank : ∀ c ∈ (Text.join ['\n'] (gridLines headers rows)).getLast?,
        Text.isBlank c = false := by
      rw [hlast]
      rintro c ⟨⟩
      rfl
    rw [Text.trimBlankEnd, Text.dropEndWhile_concat rfl, Text.dropEndWhile_eq_self hblank]
  · intro node hrows
    refine forall₂_imp_of_mem (fun cells hcells block _ hrow => ?_) hshows.drawsRows
    refine hrow.onOneLine (hshows.length_le (List.mem_cons_of_mem _ hcells)) ?_
    exact Table.not_mem_padded_rows node cells (hrows ▸ hcells)

/-- A header of two lines, wide signs, a short row and one that has no cells. -/
theorem Style.grid_aligned_ragged :
    let text (content : String) := Node.text content.toList
    let element (kind : Kind) (children : List Node) := Node.element kind [] [] [] children
    let cell (kind : Kind) (content : String) := element kind [text content]
    let head := element .tableHead
      [element .tableRow [cell .headerCell "A\nB", cell .headerCell "漢字"]]
    let body := element .tableBody
      [element .tableRow [cell .dataCell "x\ny"], element .tableRow [],
        element .tableRow [cell .dataCell "1", cell .dataCell "2", cell .dataCell "3"]]
    let table := (Table.ofNode (element .table [head, body])).padded
    let drawn := ("+----+------+---+\n| A  | 漢字 |   |\n| B  |      |   |\n+----+------+---+\n" ++
      "| xy |      |   |\n|    |      |   |\n| 1  | 2    | 3 |\n+----+------+---+").toList
    (∀ cells ∈ table.headers :: table.rows, ∀ cell ∈ cells, '\x1b' ∉ cell) ∧
      ({ dialect := .rpgGeek } : Style).grid table.headers table.rows = .ok drawn ∧
      ∃ widths head blocks, Shows table.headers table.rows widths head blocks drawn ∧
        List.Forall₂ OnOneLine table.rows blocks ∧ Text.trimBlankEnd (drawn ++ ['\n']) = drawn := by
  intro text element cell head body table drawn
  have hescape : ∀ cells ∈ table.headers :: table.rows, ∀ cell ∈ cells, '\x1b' ∉ cell := by
    decide +kernel
  have hdrawn : ({ dialect := .rpgGeek } : Style).grid table.headers table.rows = .ok drawn := by
    decide +kernel
  obtain ⟨other, widths, head, blocks, hgrid, hshows, -, -, htrimmed, hrows⟩ :=
    Style.grid_aligned {} table.headers table.rows hescape
  obtain rfl : drawn = other := Except.ok.inj (hdrawn.symm.trans hgrid)
  exact ⟨hescape, hdrawn, widths, head, blocks, hshows, hrows _ rfl, htrimmed⟩

end ForumPost
