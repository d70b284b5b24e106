import ForumPost.Proofs.Markup.GridLines
import ForumPost.Proofs.Text.Occurrences

/-!
# What is found in a grid

A text without borders, dashes and line ends, and without a space at its ends, is found
in a grid exactly if it is found in one of the cells (`Grid.infix_join_gridLines_iff`).
It is found in a line of a row if it is found in a line of a cell, since neither the
borders nor the spaces around a line are part of it, and each line of each cell is shown.

The grid is drawn as it is, with or without escape characters in its cells.
-/

namespace ForumPost

namespace Grid

/-- A text that is not found in what is drawn around the cells. -/
structure IsSought (part : Text) : Prop where
  ne_nil : part ≠ []
  unbordered : ∀ c ∈ "+-|\n\r".toList, c ∉ part
  first : part.head? ≠ some ' '
  last : part.getLast? ≠ some ' '

variable {part : Text}

/-! ## Pieces between borders -/

theorem infix_bordered_iff {border : Char} (hborder : border ∉ part) (hne : part ≠ [])
    {pieces : List Text} :
    part <:+: bordered border pieces ↔ ∃ piece ∈ pieces, part <:+: piece := by
  have hskip (rest : Text) : part <:+: border :: rest ↔ part <:+: rest := by
    have hfront : part <:+: [] ++ border :: rest ↔ part <:+: [] ∨ part <:+: rest :=
      Text.infix_append_cons_iff hborder
    rwa [List.nil_append, List.infix_nil, or_iff_right hne] at hfront
  have hpieces : part <:+: pieces.flatMap (fun piece => piece ++ [border]) ↔
      ∃ piece ∈ pieces, part <:+: piece := by
    induction pieces with
    | nil => simpa using hne
    | cons piece rest ih =>
      rw [List.flatMap_cons, List.append_assoc, List.singleton_append,
        Text.infix_append_cons_iff hborder, ih, List.exists_mem_cons_iff]
  cases pieces with
  | nil => simp [bordered, hskip, hne]
  | cons first rest => rw [bordered_of_ne_nil (List.cons_ne_nil first rest), hskip, hpieces]

namespace IsSought

variable (hpart : IsSought part)
include hpart

theorem not_infix_ruleLine (rooms : List Nat) : ¬ part <:+: ruleLine rooms := by
  rw [ruleLine, infix_bordered_iff (hpart.unbordered '+' (by decide)) hpart.ne_nil]
  rintro ⟨piece, hpiece, hinside⟩
  obtain ⟨width, -, rfl⟩ := List.mem_map.mp hpiece
  obtain ⟨c, rest, rfl⟩ := List.exists_cons_of_ne_nil hpart.ne_nil
  have hdash := List.eq_of_mem_replicate (hinside.subset (List.mem_cons_self ..))
  exact hpart.unbordered '-' (by decide) (hdash ▸ List.mem_cons_self ..)

/-- The spaces around a line are not part of what is found. -/
theorem infix_piece_iff {width : Nat} {line : Text} :
    part <:+: " ".toList ++ padded width line ++ " ".toList ↔ part <:+: line := by
  have hfront : ¬ part <+: ' ' :: (line ++ List.replicate (width - room line + 1) ' ') := by
    intro hfront
    obtain ⟨c, rest, rfl⟩ := List.exists_cons_of_ne_nil hpart.ne_nil
    obtain ⟨rfl, -⟩ := List.cons_prefix_cons.mp hfront
    exact hpart.first rfl
  have hpiece : " ".toList ++ padded width line ++ " ".toList =
      ' ' :: (line ++ List.replicate (width - room line + 1) ' ') := by
    simp [padded, List.replicate_succ']
  have hlast := List.getLast?_eq_some_getLast hpart.ne_nil
  have hspace : part.getLast hpart.ne_nil ≠ ' ' := fun heq => hpart.last (heq ▸ hlast)
  have hapart : Text.Apart part line (List.replicate (width - room line + 1) ' ') :=
    .of_getLast hlast fun hmem => hspace (List.eq_of_mem_replicate hmem)
  rw [hpiece, List.infix_cons_iff, or_iff_right hfront, hapart.infix_append_iff,
    or_iff_left (Text.not_infix_replicate hlast hspace _)]

theorem infix_rowLine_iff {rooms : List Nat} {cells : List Text} {index : Nat} :
    part <:+: rowLine rooms cells index ↔
      ∃ column < rooms.length, part <:+: shownLine cells column index := by
  rw [rowLine, infix_bordered_iff (hpart.unbordered '|' (by decide)) hpart.ne_nil]
  constructor
  · rintro ⟨piece, hpiece, hinside⟩
    obtain ⟨column, hcolumn, rfl⟩ := List.mem_mapIdx.mp hpiece
    exact ⟨column, hcolumn, hpart.infix_piece_iff.mp hinside⟩
  · rintro ⟨column, hcolumn, hinside⟩
    exact ⟨_, List.mem_mapIdx.mpr ⟨column, hcolumn, rfl⟩, hpart.infix_piece_iff.mpr hinside⟩

/-! ## Lines of cells -/

/-- What is found in a line of a row is found in one of its cells. -/
theorem exists_of_infix_rowLine {rooms : List Nat} {cells : List Text} {index : Nat}
    (hinside : part <:+: rowLine rooms cells index) : ∃ cell ∈ cells, part <:+: cell := by
  obtain ⟨column, -, hline⟩ := hpart.infix_rowLine_iff.mp hinside
  rcases shownLine_cases cells column index with hnone | ⟨cell, hcell, -, hshown⟩
  · rw [hnone, List.infix_nil] at hline
    exact absurd hline hpart.ne_nil
  · exact ⟨cell, hcell, hline.trans (Text.infix_of_mem_lines (List.mem_of_getElem? hshown))⟩

/-- What is found in a cell of a row is found in one of the lines of the row. -/
theorem exists_infix_rowLine {rooms : List Nat} {cells : List Text} {cell : Text}
    (hwidth : cells.length ≤ rooms.length) (hcell : cell ∈ cells) (hinside : part <:+: cell) :
    ∃ line ∈ rowLines rooms cells, part <:+: line := by
  obtain ⟨column, hfound⟩ := List.mem_iff_getElem?.mp hcell
  obtain ⟨hcolumn, -⟩ := List.getElem?_eq_some_iff.mp hfound
  obtain ⟨line, hline, hpartLine⟩ := (Text.infix_iff_exists_mem_lines
    (hpart.unbordered '\n' (by decide)) (hpart.unbordered '\r' (by decide)) hpart.ne_nil).mp hinside
  obtain ⟨index, hindex, hshown⟩ := List.mem_iff_getElem.mp hline
  have hheight : (Text.lines cell).length ≤ rowHeight cells :=
    (isGreatest_foldl_max 1 _).2 (List.mem_cons_of_mem _ (List.mem_map_of_mem hcell))
  refine ⟨rowLine rooms cells index, ?_, ?_⟩
  · exact List.mem_map_of_mem (List.mem_range.mpr (Nat.lt_of_lt_of_le hindex hheight))
  · refine hpart.infix_rowLine_iff.mpr ⟨column, Nat.lt_of_lt_of_le hcolumn hwidth, ?_⟩
    rwa [shownLine_eq hfound, ← List.getElem_eq_getD (h := hindex), hshown]

/-- A text is found in a grid exactly if it is found in one of its cells. -/
theorem infix_join_gridLines_iff {headers : List Text} {rows : List (List Text)} :
    part <:+: Text.join ['\n'] (gridLines headers rows) ↔
      ∃ cells ∈ headers :: rows, ∃ cell ∈ cells, part <:+: cell := by
  rw [Text.infix_join_iff (hpart.unbordered '\n' (by decide)) hpart.ne_nil]
  constructor
  · rintro ⟨line, hline, hinside⟩
    rcases mem_gridLines hline with rfl | ⟨cells, hcells, index, rfl⟩
    · exact absurd hinside (hpart.not_infix_ruleLine _)
    · exact ⟨cells, hcells, hpart.exists_of_infix_rowLine hinside⟩
  · rintro ⟨cells, hcells, cell, hcell, hinside⟩
    obtain ⟨line, hline, hfound⟩ := hpart.exists_infix_rowLine
      (length_le_columnRooms hcells) hcell hinside
    exact ⟨line, mem_gridLines_of_mem_rowLines hcells hline, hfound⟩

end IsSought

end Grid

end ForumPost
