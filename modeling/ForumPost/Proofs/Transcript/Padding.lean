import ForumPost.Proofs.Largest
import ForumPost.Proofs.Pairs
import ForumPost.Transcript

/-!
# Filling up tables

A table is written with all its rows filled up to its width.  The width is that of
the longest of the header row and the rows, so that no row has to be cut
(`Table.resizeRow_of_le`), and some row stays as it is.

What comes out is the least rectangular table that the table can be filled up to
(`Table.FilledUpTo`, `Table.padded_filledUpTo`).  A table that is rectangular already
is left alone, and no other one is (`Table.padded_eq_self_iff`).  Two tables that
differ in empty cells at the ends of their rows, and have the same width, are filled
up to the same table, and so are written alike (`padded_least_rectangular`).
-/

namespace ForumPost

namespace Table

/-! ## Rows that are filled up -/

/-- The second row is the first one with empty cells at its end, or none. -/
def RowFilledUp (row filled : List Text) : Prop :=
  ∃ count, filled = row ++ List.replicate count []

/-- A row of exactly `width` cells: it is cut if it is longer, and filled up if it is
shorter. -/
def resizeRow (width : Nat) (row : List Text) : List Text :=
  row.take width ++ List.replicate (width - row.length) []

/-- A row that is no longer than asked for is not cut. -/
theorem resizeRow_of_le {width : Nat} {row : List Text} (hrow : row.length ≤ width) :
    resizeRow width row = padRow width row := by
  rw [resizeRow, List.take_of_length_le hrow, padRow]

theorem rowFilledUp_padRow (width : Nat) (row : List Text) : RowFilledUp row (padRow width row) :=
  ⟨width - row.length, rfl⟩

/-- Filling up a row twice is filling it up to the longer one of both. -/
theorem padRow_of_rowFilledUp {width : Nat} {row filled : List Text}
    (hfilled : RowFilledUp row filled) (hwidth : filled.length ≤ width) :
    padRow width filled = padRow width row := by
  obtain ⟨count, rfl⟩ := hfilled
  rw [List.length_append, List.length_replicate] at hwidth
  have hcount : count + (width - (row.length + count)) = width - row.length := by omega
  rw [padRow, padRow, List.length_append, List.length_replicate, List.append_assoc,
    List.replicate_append_replicate, hcount]

/-- A row that is filled up to some length comes by all lengths in between. -/
theorem rowFilledUp_of_le {width : Nat} {row filled : List Text} (hfilled : RowFilledUp row filled)
    (hrow : row.length ≤ width) (hwidth : width ≤ filled.length) :
    RowFilledUp (padRow width row) filled := by
  have hpadded : padRow filled.length row = filled := by
    rw [← padRow_of_rowFilledUp hfilled (Nat.le_refl _), padRow_of_le (Nat.le_refl _)]
  refine ⟨filled.length - width, ?_⟩
  have hcount : width - row.length + (filled.length - width) = filled.length - row.length := by
    omega
  conv => lhs; rw [← hpadded]
  rw [padRow, padRow, List.append_assoc, List.replicate_append_replicate, hcount]

theorem take_padRow {width longer : Nat} {row : List Text} (hrow : row.length ≤ width)
    (hwidth : width ≤ longer) : (padRow longer row).take width = padRow width row := by
  have hcount : min (width - row.length) (longer - row.length) = width - row.length := by omega
  rw [padRow, List.take_append, List.take_of_length_le hrow, List.take_replicate, hcount, padRow]

/-- Two rows that can be filled up to the same row are filled up alike. -/
theorem padRow_eq_padRow {width : Nat} {first second filled : List Text}
    (hfirst : RowFilledUp first filled) (hsecond : RowFilledUp second filled)
    (hfirstWidth : first.length ≤ width) (hsecondWidth : second.length ≤ width) :
    padRow width first = padRow width second := by
  have hlonger : width ≤ max width filled.length := Nat.le_max_left _ _
  have hfilled : filled.length ≤ max width filled.length := Nat.le_max_right _ _
  rw [← take_padRow hfirstWidth hlonger, ← take_padRow hsecondWidth hlonger,
    ← padRow_of_rowFilledUp hfirst hfilled, ← padRow_of_rowFilledUp hsecond hfilled]

/-! ## The rows of a table -/

/-- The header row and the rows. -/
def allRows (table : Table) : List (List Text) :=
  table.headers :: table.rows

/-- The width is the greatest number of cells. -/
theorem isGreatest_width (table : Table) :
    IsGreatest {count | count ∈ table.allRows.map List.length} table.width :=
  isGreatest_foldl_max table.headers.length (table.rows.map List.length)

theorem length_le_width {table : Table} {row : List Text} (hrow : row ∈ table.allRows) :
    row.length ≤ table.width :=
  (isGreatest_width table).2 (List.mem_map_of_mem hrow)

theorem allRows_padded (table : Table) :
    table.padded.allRows = table.allRows.map (padRow table.width) := rfl

/-- Each row of a padded table is as long as the table is wide. -/
theorem length_of_mem_padded {table : Table} {row : List Text}
    (hrow : row ∈ table.padded.allRows) : row.length = table.width := by
  rw [allRows_padded] at hrow
  obtain ⟨short, hshort, rfl⟩ := List.mem_map.mp hrow
  rw [length_padRow, Nat.max_eq_right (length_le_width hshort)]

theorem isRectangular_iff {table : Table} :
    table.isRectangular = true ↔ ∀ row ∈ table.allRows, row.length = table.width := by
  rw [isRectangular, List.all_eq_true]
  constructor
  · intro hrows
    have hall : ∀ row ∈ table.allRows, row.length = table.headers.length := by
      refine List.forall_mem_cons.mpr ⟨rfl, fun row hrow => ?_⟩
      simpa using hrows row hrow
    obtain ⟨row, hrow, hlength⟩ := List.mem_map.mp (isGreatest_width table).1
    have hwidth : table.width = table.headers.length := by rw [← hlength, hall row hrow]
    rwa [hwidth]
  · intro hall row hrow
    have hheaders := hall table.headers (List.mem_cons_self ..)
    have hlength := hall row (List.mem_cons_of_mem _ hrow)
    simp [hlength, hheaders]

/-- A table stays as it is exactly if it is rectangular. -/
theorem padded_eq_self_iff {table : Table} :
    table.padded = table ↔ table.isRectangular = true := by
  rw [isRectangular_iff]
  constructor
  · intro hself row hrow
    rw [← hself] at hrow
    exact length_of_mem_padded hrow
  · intro hall
    have hrow : ∀ row ∈ table.allRows, padRow table.width row = row := fun row hrow =>
      padRow_of_le (Nat.le_of_eq (hall row hrow).symm)
    obtain ⟨hheaders, hrows⟩ := List.forall_mem_cons.mp hrow
    have hmap : table.rows.map (padRow table.width) = table.rows := by
      rw [List.map_congr_left (g := fun row => row) hrows, List.map_id']
    rw [padded, hheaders, hmap]

theorem width_eq_of_rectangular {table : Table} (hrectangular : table.isRectangular = true) :
    table.width = table.headers.length :=
  (isRectangular_iff.mp hrectangular table.headers (List.mem_cons_self ..)).symm

theorem isRectangular_padded (table : Table) : table.padded.isRectangular = true := by
  have hheaders : table.padded.headers.length = table.width :=
    length_of_mem_padded (List.mem_cons_self ..)
  rw [isRectangular, List.all_eq_true]
  intro row hrow
  have hlength := length_of_mem_padded (List.mem_cons_of_mem _ hrow)
  simp [hlength, hheaders]

theorem padded_padded (table : Table) : table.padded.padded = table.padded :=
  padded_eq_self_iff.mpr (isRectangular_padded table)

theorem width_padded (table : Table) : table.padded.width = table.width := by
  rw [width_eq_of_rectangular (isRectangular_padded table)]
  exact length_of_mem_padded (List.mem_cons_self ..)

/-! ## Tables that are filled up -/

/-- The second table is the first one with its rows filled up. -/
structure FilledUpTo (table filled : Table) : Prop where
  caption : filled.caption = table.caption
  footer : filled.footer = table.footer
  rows : List.Forall₂ RowFilledUp table.allRows filled.allRows

theorem filledUpTo_padded (table : Table) : table.FilledUpTo table.padded where
  caption := rfl
  footer := rfl
  rows := by
    rw [allRows_padded, List.forall₂_map_right_iff, List.forall₂_same]
    exact fun row _ => rowFilledUp_padRow table.width row

/-- No rectangular table that a table can be filled up to is narrower. -/
theorem width_le_of_filledUpTo {table filled : Table} (hfilled : table.FilledUpTo filled) :
    table.width ≤ filled.width := by
  obtain ⟨row, hrow, hlength⟩ := List.mem_map.mp (isGreatest_width table).1
  obtain ⟨other, hother, count, rfl⟩ := exists_mem_of_forall₂ hfilled.rows hrow
  have hwidth := length_le_width hother
  rw [List.length_append] at hwidth
  omega

/-- Any rectangular table that a table can be filled up to is the padded table, or can be
reached from there. -/
theorem padded_filledUpTo {table filled : Table} (hfilled : table.FilledUpTo filled)
    (hrectangular : filled.isRectangular = true) : table.padded.FilledUpTo filled where
  caption := hfilled.caption
  footer := hfilled.footer
  rows := by
    rw [allRows_padded, List.forall₂_map_left_iff]
    refine forall₂_imp_of_mem (fun row hrow other hother hpair => ?_) hfilled.rows
    apply rowFilledUp_of_le hpair (length_le_width hrow)
    rw [isRectangular_iff.mp hrectangular other hother]
    exact width_le_of_filledUpTo hfilled

/-! ## Tables that differ in empty cells -/

/-- Two tables that differ in empty cells at the ends of their rows only. -/
structure SameButEmptyEnds (first second : Table) : Prop where
  caption : second.caption = first.caption
  footer : second.footer = first.footer
  rows : List.Forall₂
    (fun row other => ∃ filled, RowFilledUp row filled ∧ RowFilledUp other filled)
    first.allRows second.allRows

/-- Filled up, they are the same if they have the same width. -/
theorem SameButEmptyEnds.padded_eq {first second : Table} (hsame : first.SameButEmptyEnds second)
    (hwidth : first.width = second.width) : first.padded = second.padded := by
  have hrows : List.Forall₂ (fun row other => padRow first.width row = padRow second.width other)
      first.allRows second.allRows := by
    refine forall₂_imp_of_mem (fun row hrow other hother hpair => ?_) hsame.rows
    obtain ⟨filled, hfirst, hsecond⟩ := hpair
    have hother := length_le_width hother
    rw [← hwidth] at hother ⊢
    exact padRow_eq_padRow hfirst hsecond (length_le_width hrow) hother
  have hall : first.padded.allRows = second.padded.allRows := by
    rw [← List.forall₂_eq_eq_eq, allRows_padded, allRows_padded, List.forall₂_map_left_iff,
      List.forall₂_map_right_iff]
    exact hrows
  obtain ⟨hheaders, htable⟩ := List.cons.inj hall
  rw [Table.mk.injEq]
  exact ⟨hsame.caption.symm, hheaders, htable, hsame.footer.symm⟩

end Table

/-! ## Written tables -/

/-- A table is written like the table it is filled up to. -/
theorem Style.table_padded (style : Style) (table : Table) :
    style.table table.padded = style.table table := by
  rw [Style.table, Table.padded_padded, Style.table]

namespace Table

/-- What filling up does to a table, whatever the lengths of its rows.  It adds empty
cells behind the header row and the rows until each is as long as the longest of them,
which stays as it is, and it changes nothing else.  No row is cut, though cutting to the
width or filling up to it would do the same.  Of all rectangular tables that the table
can be filled up to it gives the least.  The table stays as it is exactly if it was
rectangular, filling up again does nothing, and the width is the same as before.  Both
dialects write the table like the filled up one, and so write two tables alike that
have the same width and differ in empty cells at the ends of their rows only. -/
theorem padded_least_rectangular (table : Table) :
    table.FilledUpTo table.padded ∧
    (∀ row ∈ table.padded.allRows, row.length = table.width) ∧
    (∃ (index : Nat) (row : List Text),
      table.allRows[index]? = some row ∧ table.padded.allRows[index]? = some row) ∧
    (∀ filled, table.FilledUpTo filled → filled.isRectangular = true →
      table.padded.FilledUpTo filled) ∧
    table.padded.allRows = table.allRows.map (resizeRow table.width) ∧
    (table.padded = table ↔ table.isRectangular = true) ∧
    table.padded.padded = table.padded ∧
    table.padded.width = table.width ∧
    (∀ style : Style, style.table table = style.table table.padded) ∧
    ∀ other, table.SameButEmptyEnds other → table.width = other.width →
      ∀ style : Style, style.table table = style.table other := by
  refine ⟨filledUpTo_padded table, fun row hrow => length_of_mem_padded hrow, ?_,
    fun filled => padded_filledUpTo, ?_, padded_eq_self_iff, padded_padded table,
    width_padded table, fun style => (style.table_padded table).symm, ?_⟩
  · -- The longest row is as long as the table is wide.
    obtain ⟨row, hrow, hlength⟩ := List.mem_map.mp (isGreatest_width table).1
    obtain ⟨index, hindex⟩ := List.mem_iff_getElem?.mp hrow
    refine ⟨index, row, hindex, ?_⟩
    rw [allRows_padded, List.getElem?_map, hindex, Option.map_some,
      padRow_of_le (Nat.le_of_eq hlength.symm)]
  · rw [allRows_padded]
    exact List.map_congr_left fun row hrow => (resizeRow_of_le (length_le_width hrow)).symm
  · intro other hsame hwidth style
    rw [← style.table_padded table, ← style.table_padded other, hsame.padded_eq hwidth]

/-- A table with a short header row, a row in full length, an empty row and a row with
an empty cell at its end.  It is written like the table without that cell. -/
theorem padded_least_rectangular_ragged :
    let table : Table :=
      { headers := ["A".toList], rows := [["1".toList, "2".toList], [], ["3".toList, []]] }
    let other : Table := { table with rows := [["1".toList, "2".toList], [], ["3".toList]] }
    table.SameButEmptyEnds other ∧ table.width = other.width ∧ table.width = 2 ∧
      table.padded.allRows =
        [["A".toList, []], ["1".toList, "2".toList], [[], []], ["3".toList, []]] ∧
      ∀ style : Style, style.table table = style.table other := by
  intro table other
  have hsame : table.SameButEmptyEnds other := by
    have hself (row : List Text) : ∃ filled, RowFilledUp row filled ∧ RowFilledUp row filled :=
      ⟨row, ⟨0, (List.append_nil row).symm⟩, ⟨0, (List.append_nil row).symm⟩⟩
    refine ⟨rfl, rfl, .cons (hself _) (.cons (hself _) (.cons (hself _) (.cons ?_ .nil)))⟩
    exact ⟨["3".toList, []], ⟨0, rfl⟩, ⟨1, rfl⟩⟩
  have hwidth : table.width = other.width := by decide
  obtain ⟨-, -, -, -, -, -, -, -, -, hwritten⟩ := padded_least_rectangular table
  exact ⟨hsame, hwidth, by decide, by decide, hwritten other hsame hwidth⟩

end Table

end ForumPost
