import ForumPost.Markup.Grid
import ForumPost.Proofs.Text.Compact
import ForumPost.Proofs.Text.Lines

/-!
# The characters of a grid

Two facts about fixed-width grids.  A grid without escape characters can always
be drawn, since nothing in it is hidden (`Grid.draw?_isSome`).  And what is
drawn consists of the characters of the cells, of bars, crosses, dashes, spaces
and line feeds (`Grid.satisfies_draw?`).  Each of its lines is a rule or a line of
a row (`Grid.mem_gridLines`), and a cell shows a line of its own or nothing there
(`Grid.shownLine_cases`).
-/

namespace ForumPost

namespace Grid

/-! ## Grids that can be drawn -/

/-- Without an escape character nothing is hidden. -/
theorem hidden_eq_zero {line : Text} (hline : ∀ c ∈ line, c ≠ '\x1b') : hidden line = 0 := by
  rw [hidden]
  induction line with
  | nil => rfl
  | cons c rest ih =>
    have hfirst : (c == '\x1b') = false := by simpa using hline c (List.mem_cons_self ..)
    simp only [hiddenFrom, hfirst]
    exact ih fun other hother => hline other (List.mem_cons_of_mem c hother)

theorem isDrawable_of_noEscape {line : Text} (hline : ∀ c ∈ line, c ≠ '\x1b') :
    isDrawable line = true := by
  simp [isDrawable, hidden_eq_zero hline]

/-- A grid is drawn as its lines. -/
theorem draw?_eq_some_iff {headers : List Text} {rows : List (List Text)} {drawn : Text} :
    draw? headers rows = some drawn ↔
      isDrawableGrid headers rows = true ∧ drawn = Text.join ['\n'] (gridLines headers rows) := by
  rw [draw?]
  split
  · rename_i hdrawable
    rw [Option.some.injEq, eq_comm, and_iff_right hdrawable]
  · rename_i hdrawable
    simp [hdrawable]

theorem isDrawableGrid_of_noEscape {headers : List Text} {rows : List (List Text)}
    (hcells : ∀ cells ∈ headers :: rows, ∀ cell ∈ cells, ∀ c ∈ cell, c ≠ '\x1b') :
    isDrawableGrid headers rows = true := by
  simp only [isDrawableGrid, List.all_eq_true]
  intro cells hrow cell hcell line hline
  apply isDrawable_of_noEscape
  intro c hc
  exact hcells cells hrow cell hcell c (Text.mem_of_mem_lines hline hc)

/-- A grid whose cells hold no escape character can be drawn. -/
theorem draw?_isSome {headers : List Text} {rows : List (List Text)}
    (hcells : ∀ cells ∈ headers :: rows, ∀ cell ∈ cells, ∀ c ∈ cell, c ≠ '\x1b') :
    (draw? headers rows).isSome = true := by
  rw [draw?_eq_some_iff.mpr ⟨isDrawableGrid_of_noEscape hcells, rfl⟩]
  rfl

/-! ## What is drawn -/

/-- Every line of a grid is a rule or a line of one of its rows. -/
theorem mem_gridLines {headers : List Text} {rows : List (List Text)} {line : Text}
    (hline : line ∈ gridLines headers rows) :
    line = ruleLine (columnRooms (headers :: rows)) ∨
      ∃ cells ∈ headers :: rows, ∃ index,
        line = rowLine (columnRooms (headers :: rows)) cells index := by
  have hrow : ∀ cells ∈ headers :: rows,
      line ∈ rowLines (columnRooms (headers :: rows)) cells → ∃ cells ∈ headers :: rows, ∃ index,
        line = rowLine (columnRooms (headers :: rows)) cells index := by
    intro cells hmem hline
    obtain ⟨index, -, rfl⟩ := List.mem_map.mp hline
    exact ⟨cells, hmem, index, rfl⟩
  simp only [gridLines, List.mem_append, List.mem_singleton, List.mem_flatMap] at hline
  rcases hline with (((hrule | hline) | hrule) | ⟨cells, hmem, hline⟩) | hrule
  · exact .inl hrule
  · exact .inr (hrow headers (List.mem_cons_self ..) hline)
  · exact .inl hrule
  · exact .inr (hrow cells (List.mem_cons_of_mem headers hmem) hline)
  · exact .inl hrule

/-- The line that stands in a cell, or nothing where the cell has no more lines. -/
def shownLine (cells : List Text) (column index : Nat) : Text :=
  (Text.lines (cellAt cells column)).getD index []

theorem shownLine_eq {cells : List Text} {column : Nat} {cell : Text}
    (hcell : cells[column]? = some cell) (index : Nat) :
    shownLine cells column index = (Text.lines cell).getD index [] := by
  have hat : cellAt cells column = cell := by
    rw [cellAt, List.getD_eq_getElem?_getD, hcell]
    rfl
  rw [shownLine, hat]

/-- A missing line is empty, and so is every line of a missing cell. -/
theorem shownLine_cases (cells : List Text) (column index : Nat) :
    shownLine cells column index = [] ∨
      ∃ cell ∈ cells, cellAt cells column = cell ∧
        (Text.lines cell)[index]? = some (shownLine cells column index) := by
  rw [shownLine, List.getD_eq_getElem?_getD]
  cases hline : (Text.lines (cellAt cells column))[index]? with
  | none => exact .inl rfl
  | some line =>
    right
    rw [cellAt, List.getD_eq_getElem?_getD] at hline ⊢
    cases hfound : cells[column]? with
    | none => simp [hfound, Text.lines] at hline
    | some cell =>
      rw [hfound] at hline
      exact ⟨cell, List.mem_of_getElem? hfound, rfl, hline⟩

section Drawn

variable {p : Char → Prop}

theorem satisfies_bordered {border : Char} {pieces : List Text} (hborder : p border)
    (hpieces : ∀ piece ∈ pieces, ∀ c ∈ piece, p c) : ∀ c ∈ bordered border pieces, p c := by
  intro c hc
  cases pieces with
  | nil =>
    simp only [bordered, List.mem_cons, List.not_mem_nil, or_false, or_self] at hc
    rw [hc]
    exact hborder
  | cons first rest =>
    simp only [bordered, List.mem_cons, List.mem_flatMap] at hc
    rcases hc with rfl | ⟨piece, hpiece, hc⟩
    · exact hborder
    · rcases List.mem_append.mp hc with hc | hc
      · exact hpieces piece (List.mem_cons.mpr hpiece) c hc
      · rw [List.mem_singleton.mp hc]
        exact hborder

theorem satisfies_ruleLine (rooms : List Nat) (hcross : p '+') (hdash : p '-') :
    ∀ c ∈ ruleLine rooms, p c := by
  apply satisfies_bordered hcross
  intro piece hpiece c hc
  obtain ⟨width, -, rfl⟩ := List.mem_map.mp hpiece
  rw [(List.mem_replicate.mp hc).2]
  exact hdash

theorem satisfies_rowLine (rooms : List Nat) {cells : List Text} (index : Nat)
    (hbar : p '|') (hspace : p ' ')
    (hlines : ∀ cell ∈ cells, ∀ line ∈ Text.lines cell, ∀ c ∈ line, p c) :
    ∀ c ∈ rowLine rooms cells index, p c := by
  apply satisfies_bordered hbar
  intro piece hpiece c hc
  obtain ⟨column, hcolumn, rfl⟩ := List.mem_mapIdx.mp hpiece
  simp only [padded, List.mem_append] at hc
  rcases hc with (hc | hc | hc) | hc
  · rw [List.mem_singleton.mp hc]
    exact hspace
  · rcases shownLine_cases cells column index with hnone | ⟨cell, hcell, -, hline⟩
    · rw [← shownLine, hnone] at hc
      simp at hc
    · exact hlines cell hcell _ (List.mem_of_getElem? hline) c hc
  · rw [(List.mem_replicate.mp hc).2]
    exact hspace
  · rw [List.mem_singleton.mp hc]
    exact hspace

/-- A grid is drawn with characters of its cells, borders, spaces and line
feeds. -/
theorem satisfies_draw? {headers : List Text} {rows : List (List Text)} {drawn : Text}
    (hdrawn : draw? headers rows = some drawn) (hborders : ∀ c ∈ "+-| \n".toList, p c)
    (hcells : ∀ cells ∈ headers :: rows, ∀ cell ∈ cells, ∀ c ∈ cell, p c) :
    ∀ c ∈ drawn, p c := by
  obtain ⟨-, rfl⟩ := draw?_eq_some_iff.mp hdrawn
  intro c hc
  rcases Text.mem_join hc with hfeed | ⟨line, hline, hc⟩
  · rw [List.mem_singleton.mp hfeed]
    exact hborders '\n' (by decide)
  · rcases mem_gridLines hline with rfl | ⟨cells, hmem, index, rfl⟩
    · exact satisfies_ruleLine _ (hborders '+' (by decide)) (hborders '-' (by decide)) c hc
    · refine satisfies_rowLine _ index (hborders '|' (by decide)) (hborders ' ' (by decide)) ?_ c hc
      intro cell hcell line hline c hc
      exact hcells cells hmem cell hcell c (Text.mem_of_mem_lines hline hc)

end Drawn

end Grid

end ForumPost
