import Mathlib.Data.List.Flatten
import ForumPost.Markup.Reddit
import ForumPost.Proofs.Text.Compact

/-!
# Reading pipe tables

A row of a pipe table is read from the left.  Behind the bar in front of the
row, a cell goes on up to the next bar that has no backslash in front of it;
a bar that has one belongs to the cell, and the backslash does not.

The writer puts a backslash in front of each bar of a cell, but not in front of
a backslash.  So a cell that ends in a backslash takes the bar behind it, and
is one cell with the next one.  `fuse` says what the cells of a row become
that way, and a reader finds exactly this (`readCells_cellsText`):

* a row is read back exactly if none of its cells ends in a backslash, and
  otherwise it has fewer columns than cells (`readRow?_pipeRow_iff`,
  `columns?_pipeRow_iff`);
* two rows are written alike exactly if they fuse alike (`pipeRow_inj`).

The rows of a table stand on one line each unless a cell holds a line feed
(`splitOn_table`).
-/

namespace ForumPost

namespace Reddit

/-! ## The reader -/

/-- The cells that are read of a text, and what is left behind the last bar that
ends a cell.  `opened` is what is read already of the first cell. -/
def readCells (opened : Text) : Text → List Text × Text
  | [] => ([], opened)
  | '\\' :: '|' :: rest => readCells (opened ++ ['|']) rest
  | '|' :: rest => Prod.map (opened :: ·) id (readCells [] rest)
  | c :: rest => readCells (opened ++ [c]) rest

/-- The cells of a row.  A text that does not begin with a bar, or whose last
cell has no bar behind it, is no row. -/
def readRow? : Text → Option (List Text)
  | '|' :: rest =>
    match readCells [] rest with
    | (cells, []) => some cells
    | _ => none
  | _ => none

/-- The number of columns of a row. -/
def columns? (line : Text) : Option Nat :=
  (readRow? line).map List.length

/-- Does a cell take the bar behind it?  It does if it ends in a backslash. -/
def takesBar (cell : Text) : Bool :=
  cell.getLast? == some '\\'

/-- The cells of a row as they are read: a cell that takes the bar behind it has
the bar in the place of its last backslash, and goes on with the next cell.
Beside them stands what is left open at the end. -/
def fuse (opened : Text) : List Text → List Text × Text
  | [] => ([], opened)
  | cell :: rest =>
    if takesBar cell then fuse (opened ++ cell.dropLast ++ ['|']) rest
    else Prod.map ((opened ++ cell) :: ·) id (fuse [] rest)

/-- The text of cells, each with the bar behind it. -/
def cellsText (cells : List Text) : Text :=
  cells.flatMap fun cell => escapeBars cell ++ ['|']

theorem pipeRow_eq (cells : List Text) : pipeRow cells = '|' :: cellsText cells := rfl

@[simp] theorem cellsText_nil : cellsText [] = [] := rfl

@[simp] theorem cellsText_cons (cell : Text) (rest : List Text) :
    cellsText (cell :: rest) = escapeBars cell ++ '|' :: cellsText rest := by
  simp [cellsText]

/-! ## Escaped cells -/

@[simp] theorem escapeBars_nil : escapeBars [] = [] := rfl

@[simp] theorem escapeBars_append (first second : Text) :
    escapeBars (first ++ second) = escapeBars first ++ escapeBars second := by
  simp [escapeBars]

@[simp] theorem escapeBars_bar (rest : Text) :
    escapeBars ('|' :: rest) = '\\' :: '|' :: escapeBars rest := rfl

theorem escapeBars_cons_of_ne {c : Char} (hc : c ≠ '|') (rest : Text) :
    escapeBars (c :: rest) = c :: escapeBars rest := by
  simp [escapeBars, hc]

/-- A cell that is not empty begins with something other than a bar when it is
escaped. -/
theorem head?_escapeBars_ne {cell : Text} (hcell : cell ≠ []) (rest : Text) :
    (escapeBars cell ++ rest).head? ≠ some '|' := by
  cases cell with
  | nil => exact absurd rfl hcell
  | cons c more =>
    by_cases hc : c = '|'
    · subst hc
      simp
    · rw [escapeBars_cons_of_ne hc]
      simpa using hc

/-- Escaping adds backslashes only. -/
theorem mem_escapeBars_iff {c : Char} (hc : c ≠ '\\') {cell : Text} :
    c ∈ escapeBars cell ↔ c ∈ cell := by
  induction cell with
  | nil => simp
  | cons first rest ih =>
    by_cases hfirst : first = '|'
    · subst hfirst
      simp [hc, ih]
    · rw [escapeBars_cons_of_ne hfirst, List.mem_cons, List.mem_cons, ih]

/-- A row holds the characters of its cells, bars and backslashes. -/
theorem mem_pipeRow_iff {c : Char} (hbar : c ≠ '|') (hbackslash : c ≠ '\\') {cells : List Text} :
    c ∈ pipeRow cells ↔ ∃ cell ∈ cells, c ∈ cell := by
  have hcells : c ∈ cellsText cells ↔ ∃ cell ∈ cells, c ∈ cell := by
    simp [cellsText, List.mem_flatMap, mem_escapeBars_iff hbackslash, hbar]
  rw [pipeRow_eq, List.mem_cons, hcells]
  simp [hbar]

/-! ## Reading what is written -/

theorem takesBar_cons_cons (c next : Char) (rest : Text) :
    takesBar (c :: next :: rest) = takesBar (next :: rest) := by
  simp [takesBar]

/-- A cell that takes the bar behind it ends in a backslash. -/
theorem dropLast_append_backslash {cell : Text} (hcell : takesBar cell = true) :
    cell.dropLast ++ ['\\'] = cell := by
  have hlast : cell.getLast? = some '\\' := by simpa [takesBar] using hcell
  obtain ⟨front, rfl⟩ := List.getLast?_eq_some_iff.mp hlast
  rw [List.dropLast_concat]

/-- A character belongs to the cell unless it is a bar, or a backslash in front
of one. -/
theorem readCells_cons {c : Char} (hbar : c ≠ '|') {rest : Text}
    (hrest : c ≠ '\\' ∨ rest.head? ≠ some '|') (opened : Text) :
    readCells opened (c :: rest) = readCells (opened ++ [c]) rest := by
  rw [readCells.eq_def]
  split <;> simp_all

/-- An escaped cell is read up to the bar behind it, unless it takes that bar. -/
theorem readCells_escapeBars (opened cell rest : Text) :
    readCells opened (escapeBars cell ++ '|' :: rest) =
      if takesBar cell then readCells (opened ++ cell.dropLast ++ ['|']) rest
      else Prod.map ((opened ++ cell) :: ·) id (readCells [] rest) := by
  induction cell generalizing opened with
  | nil => simp [takesBar, readCells]
  | cons c more ih =>
    cases more with
    | nil =>
      by_cases hbackslash : c = '\\'
      · subst hbackslash
        simp [takesBar, escapeBars_cons_of_ne, readCells]
      · by_cases hbar : c = '|'
        · subst hbar
          simp [takesBar, readCells]
        · have htakes : takesBar [c] = false := by simpa [takesBar] using hbackslash
          rw [htakes, escapeBars_cons_of_ne hbar, escapeBars_nil, List.cons_append,
            List.nil_append, readCells_cons hbar (.inl hbackslash)]
          simp [readCells]
    | cons next tail =>
      -- A bar that comes next is escaped, so that `c` has no bar right behind it.
      have hread : readCells opened (escapeBars (c :: next :: tail) ++ '|' :: rest) =
          readCells (opened ++ [c]) (escapeBars (next :: tail) ++ '|' :: rest) := by
        by_cases hbar : c = '|'
        · subst hbar
          rfl
        · rw [escapeBars_cons_of_ne hbar, List.cons_append]
          exact readCells_cons hbar (.inr (head?_escapeBars_ne (by simp) _)) opened
      rw [hread, ih, takesBar_cons_cons, List.dropLast_cons_cons]
      simp

/-- A reader finds the fused cells of what is written. -/
theorem readCells_cellsText (opened : Text) (cells : List Text) :
    readCells opened (cellsText cells) = fuse opened cells := by
  induction cells generalizing opened with
  | nil => rfl
  | cons cell rest ih => rw [cellsText_cons, readCells_escapeBars, fuse, ih, ih]

/-- Nothing of what is written is lost when cells fuse. -/
theorem cellsText_fuse (opened : Text) (cells : List Text) :
    cellsText (fuse opened cells).1 ++ escapeBars (fuse opened cells).2 =
      escapeBars opened ++ cellsText cells := by
  induction cells generalizing opened with
  | nil => simp [fuse]
  | cons cell rest ih =>
    rw [fuse, cellsText_cons]
    split
    · rename_i htakes
      have hcell : escapeBars cell = escapeBars cell.dropLast ++ ['\\'] := by
        conv => lhs; rw [← dropLast_append_backslash htakes, escapeBars_append]
        rfl
      rw [ih, hcell]
      simp
    · have hrest := ih []
      simp only [Prod.map_fst, Prod.map_snd, id_eq, cellsText_cons, escapeBars_append,
        escapeBars_nil, List.nil_append, List.append_assoc, List.cons_append] at hrest ⊢
      rw [hrest]

/-- A cell that takes the bar behind it is one column less. -/
theorem length_fuse (opened : Text) (cells : List Text) :
    (fuse opened cells).1.length = cells.countP fun cell => !takesBar cell := by
  induction cells generalizing opened with
  | nil => rfl
  | cons cell rest ih =>
    rw [fuse]
    split
    · rename_i htakes
      rw [ih, List.countP_cons_of_neg (by simp [htakes])]
    · rename_i htakes
      have htakes : takesBar cell = false := by simpa using htakes
      rw [List.countP_cons_of_pos (by simp [htakes]), Prod.map_fst, List.length_cons, ih]

/-- Cells that take no bar stay apart. -/
theorem fuse_eq_self {cells : List Text} (hcells : ∀ cell ∈ cells, takesBar cell = false) :
    fuse [] cells = (cells, []) := by
  induction cells with
  | nil => rfl
  | cons cell rest ih =>
    obtain ⟨hcell, hrest⟩ := List.forall_mem_cons.mp hcells
    rw [fuse, hcell, ih hrest]
    rfl

theorem length_fuse_eq_iff {cells : List Text} :
    (fuse [] cells).1.length = cells.length ↔ ∀ cell ∈ cells, takesBar cell = false := by
  rw [length_fuse, List.countP_eq_length]
  simp

theorem readRow?_pipeRow (cells : List Text) :
    readRow? (pipeRow cells) =
      if (fuse [] cells).2 = [] then some (fuse [] cells).1 else none := by
  rw [pipeRow_eq, readRow?, readCells_cellsText]
  rcases fuse [] cells with ⟨read, left⟩
  cases left <;> rfl

/-- A row has as many columns as cells exactly if no cell takes the bar behind
it. -/
theorem columns?_pipeRow_iff {cells : List Text} :
    columns? (pipeRow cells) = some cells.length ↔ ∀ cell ∈ cells, takesBar cell = false := by
  rw [columns?, readRow?_pipeRow]
  constructor
  · intro hcolumns
    split at hcolumns
    · exact length_fuse_eq_iff.mp (Option.some.inj hcolumns)
    · cases hcolumns
  · intro hcells
    rw [fuse_eq_self hcells]
    rfl

/-- Under the same condition it is read back. -/
theorem readRow?_pipeRow_iff {cells : List Text} :
    readRow? (pipeRow cells) = some cells ↔ ∀ cell ∈ cells, takesBar cell = false := by
  constructor
  · intro hread
    apply columns?_pipeRow_iff.mp
    rw [columns?, hread, Option.map_some]
  · intro hcells
    rw [readRow?_pipeRow, fuse_eq_self hcells]
    rfl

/-- Two rows are written alike exactly if they fuse alike. -/
theorem pipeRow_inj {first second : List Text} :
    pipeRow first = pipeRow second ↔ fuse [] first = fuse [] second := by
  constructor
  · intro hrows
    have htexts : cellsText first = cellsText second := List.cons.inj hrows |>.2
    rw [← readCells_cellsText, ← readCells_cellsText, htexts]
  · intro hfuse
    have htexts : cellsText first = cellsText second := by
      have hfirst := cellsText_fuse [] first
      have hsecond := cellsText_fuse [] second
      rw [hfuse, hsecond] at hfirst
      simpa using hfirst.symm
    rw [pipeRow_eq, pipeRow_eq, htexts]

/-! ## The lines of a table -/

/-- The row that aligns the columns of a table. -/
def alignment (headers : List Text) : Text :=
  pipeRow (headers.map fun _ => ":-".toList)

theorem columns?_alignment (headers : List Text) :
    columns? (alignment headers) = some headers.length := by
  have hcells : ∀ cell ∈ headers.map fun _ => ":-".toList, takesBar cell = false := by
    intro cell hcell
    obtain ⟨header, -, rfl⟩ := List.mem_map.mp hcell
    decide
  have hcolumns := columns?_pipeRow_iff.mpr hcells
  rwa [List.length_map] at hcolumns

theorem splitOn_eq_singleton {text : Text} (hmem : '\n' ∉ text) : text.splitOn '\n' = [text] := by
  have hline : ∀ line ∈ [text], '\n' ∉ line := by simpa using hmem
  have hsplit := List.splitOn_intercalate '\n' hline (by simp)
  rwa [List.intercalate_singleton] at hsplit

/-- A text is a single line exactly if it holds no line feed. -/
theorem length_splitOn_eq_one_iff {text : Text} :
    (text.splitOn '\n').length = 1 ↔ '\n' ∉ text := by
  constructor
  · intro hlength hmem
    obtain ⟨front, back, rfl⟩ := List.append_of_mem hmem
    have hfront := List.length_pos_iff.mpr (List.splitOn_ne_nil '\n' front)
    have hback := List.length_pos_iff.mpr (List.splitOn_ne_nil '\n' back)
    rw [List.splitOn_append_cons_self, List.length_append] at hlength
    omega
  · intro hmem
    rw [splitOn_eq_singleton hmem]
    rfl

theorem not_mem_pipeRow {cells : List Text} (hcells : ∀ cell ∈ cells, '\n' ∉ cell) :
    '\n' ∉ pipeRow cells := by
  rw [mem_pipeRow_iff (by decide) (by decide)]
  rintro ⟨cell, hcell, hmem⟩
  exact hcells cell hcell hmem

theorem not_mem_alignment (headers : List Text) : '\n' ∉ alignment headers := by
  apply not_mem_pipeRow
  intro cell hcell
  obtain ⟨header, -, rfl⟩ := List.mem_map.mp hcell
  decide

/-- A table is an empty line, the lines of its headers, which are one unless a
header holds a line feed, the alignment and its rows. -/
theorem splitOn_table (headers : List Text) {rows : List (List Text)}
    (hrows : ∀ row ∈ rows, ∀ cell ∈ row, '\n' ∉ cell) :
    (table headers rows).splitOn '\n' =
      [] :: ((pipeRow headers).splitOn '\n' ++ alignment headers :: rows.map pipeRow) := by
  have hlines : ∀ line ∈ alignment headers :: rows.map pipeRow, '\n' ∉ line := by
    refine List.forall_mem_cons.mpr ⟨not_mem_alignment headers, ?_⟩
    intro line hline
    obtain ⟨row, hrow, rfl⟩ := List.mem_map.mp hline
    exact not_mem_pipeRow (hrows row hrow)
  have htable : table headers rows = [] ++ '\n' :: (pipeRow headers ++
      '\n' :: Text.join ['\n'] (alignment headers :: rows.map pipeRow)) := by
    rw [table, Text.join_cons_cons, alignment]
    simp
  rw [htable, List.splitOn_append_cons_self, List.splitOn_append_cons_self, Text.join,
    List.splitOn_intercalate '\n' hlines (by simp)]
  rfl

/-- What is read of a row, and of a pipe table under it.  A row is read as its
cells after they fuse, so that it is read back exactly if none of its cells ends in
a backslash, and another row is written alike exactly if it fuses alike.  With the
row as its headers, every line of a rectangular table without line feeds has as many
columns as there are headers, under the same condition on its cells. -/
theorem pipeTable_read_iff (headers : List Text) :
    (readRow? (pipeRow headers) =
      if (fuse [] headers).2 = [] then some (fuse [] headers).1 else none) ∧
    (readRow? (pipeRow headers) = some headers ↔
      ∀ cell ∈ headers, cell.getLast? ≠ some '\\') ∧
    (∀ cells, pipeRow headers = pipeRow cells ↔ fuse [] headers = fuse [] cells) ∧
    ∀ rows : List (List Text),
      (∀ cells ∈ headers :: rows, ∀ cell ∈ cells, '\n' ∉ cell) →
      (∀ row ∈ rows, row.length = headers.length) →
      ((∀ line ∈ ((table headers rows).splitOn '\n').tail,
          columns? line = some headers.length) ↔
        ∀ cells ∈ headers :: rows, ∀ cell ∈ cells, cell.getLast? ≠ some '\\') := by
  have hlast : ∀ cell : Text, takesBar cell = false ↔ cell.getLast? ≠ some '\\' := by
    intro cell
    simp [takesBar]
  simp only [← hlast]
  refine ⟨readRow?_pipeRow headers, readRow?_pipeRow_iff, fun cells => pipeRow_inj, ?_⟩
  intro rows hlines hlengths
  obtain ⟨hheaders, hrows⟩ := List.forall_mem_cons.mp hlines
  have hheaderLine : (pipeRow headers).splitOn '\n' = [pipeRow headers] :=
    splitOn_eq_singleton (not_mem_pipeRow hheaders)
  rw [splitOn_table headers hrows, hheaderLine]
  simp only [List.tail_cons, List.singleton_append, List.forall_mem_cons, List.forall_mem_map,
    columns?_alignment, true_and, columns?_pipeRow_iff]
  apply and_congr_right
  intro _
  apply forall₂_congr
  intro row hrow
  rw [← hlengths row hrow, columns?_pipeRow_iff]

/-- A table with bars and backslashes in its cells that is read as three lines of
two columns. -/
theorem pipeTable_read_two :
    let headers := ["a|b".toList, "c\\d".toList]
    let rows := [["\\|".toList, []]]
    (∀ cells ∈ headers :: rows, ∀ cell ∈ cells, '\n' ∉ cell) ∧
      (∀ row ∈ rows, row.length = headers.length) ∧
      readRow? (pipeRow headers) = some headers ∧
      ∀ line ∈ ((table headers rows).splitOn '\n').tail, columns? line = some headers.length := by
  intro headers rows
  have hlines : ∀ cells ∈ headers :: rows, ∀ cell ∈ cells, '\n' ∉ cell := by decide
  have hlengths : ∀ row ∈ rows, row.length = headers.length := by decide
  have hlast : ∀ cells ∈ headers :: rows, ∀ cell ∈ cells, cell.getLast? ≠ some '\\' := by decide
  obtain ⟨-, hread, -, htable⟩ := pipeTable_read_iff headers
  exact ⟨hlines, hlengths, hread.mpr (hlast headers (List.mem_cons_self ..)),
    (htable rows hlines hlengths).mpr hlast⟩

/-- Two cells that are read as one: the row is not read back, another row is
written alike, and the line lacks a column. -/
theorem pipeRow_joins_cells :
    let cells := ["a\\".toList, "b".toList]
    (∀ cell ∈ cells, '\n' ∉ cell) ∧ readRow? (pipeRow cells) = some ["a|b".toList] ∧
      readRow? (pipeRow cells) ≠ some cells ∧ pipeRow cells = pipeRow ["a|b".toList] ∧
      columns? (pipeRow cells) ≠ some cells.length := by
  decide

end Reddit

end ForumPost
