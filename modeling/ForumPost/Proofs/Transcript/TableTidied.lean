import ForumPost.Proofs.Article.TableRows
import ForumPost.Proofs.Markup.GridCells
import ForumPost.Proofs.Markup.RpgGeek
import ForumPost.Proofs.Text.Tidying
import ForumPost.Proofs.Transcript.Rules

/-!
# Finishing a table

Finishing a block takes out spaces behind line feeds and behind links, and knows nothing
of blocks in which every space counts.  A table on RPGGeek is such a block.  It is left as
it is nevertheless, unless its own texts hold what is taken out (`Style.table_tidied_iff`).

* A table is written as blocks with line feeds in between: its opening, its caption, its
  grid, its footer and its closing (`RpgGeek.tableBlocks`).  None begins with a space, so
  that nothing is found that is not found in one of them.
* In the grid every line begins with a border, and a gap behind a link is found where it
  is found in a cell.
* The lines of the footer are stripped and without line feeds, so that only the caption
  can hold a line feed with a space behind it.
-/

namespace ForumPost

namespace Fragments

/-! ## Blocks with line feeds in between -/

theorem indented_infix_append_cons_iff {first second : Text} (hspace : second.head? ≠ some ' ') :
    indented 1 <:+: first ++ '\n' :: second ↔
      indented 1 <:+: first ∨ indented 1 <:+: second := by
  have hapart : Text.Apart (indented 1) first ('\n' :: second) := .of_next (by simp [indented])
  have hfront : ¬ indented 1 <+: '\n' :: second := fun hfront =>
    hspace (Text.singleton_prefix_iff.mp (List.cons_prefix_cons.mp hfront).2)
  rw [hapart.infix_append_iff, List.infix_cons_iff, or_iff_right hfront]

/-- A line feed between blocks has no space behind it if no block begins with one. -/
theorem indented_infix_join_iff {blocks : List Text}
    (hblocks : ∀ block ∈ blocks, block.head? ≠ some ' ') :
    indented 1 <:+: Text.join ['\n'] blocks ↔ ∃ block ∈ blocks, indented 1 <:+: block := by
  induction blocks with
  | nil => simp [indented]
  | cons block rest ih =>
    obtain ⟨-, hrest⟩ := List.forall_mem_cons.mp hblocks
    rw [List.exists_mem_cons_iff]
    cases rest with
    | nil => simp
    | cons next others =>
      have hspace : (Text.join ['\n'] (next :: others)).head? ≠ some ' ' := by
        have hnext := hrest next (List.mem_cons_self ..)
        rw [Text.join_cons]
        cases next with
        | nil => cases others <;> simp
        | cons c more => exact hnext
      rw [Text.join_cons_cons, List.append_assoc, List.singleton_append,
        indented_infix_append_cons_iff hspace, ih hrest]

/-- No line feed with a space behind it is found in lines that do not begin with spaces. -/
theorem not_indented_infix_join {lines : List Text} (hlines : ∀ line ∈ lines, '\n' ∉ line)
    (hspaces : ∀ line ∈ lines, line.head? ≠ some ' ') :
    ¬ indented 1 <:+: Text.join ['\n'] lines := by
  rw [indented_infix_join_iff hspaces]
  rintro ⟨line, hline, hinside⟩
  exact hlines line hline (hinside.subset (List.mem_cons_self ..))

theorem linkGap_isSought : Grid.IsSought linkGap where
  ne_nil := linkGap_ne_nil
  unbordered c hc := by
    have hborders : ("+-|\n\r".toList.all fun c => !linkGap.contains c) = true := by decide
    simpa using List.all_eq_true.mp hborders c hc
  first := by decide
  last := by decide

end Fragments

open Fragments (linkGap indented)

/-! ## The blocks of a table -/

namespace RpgGeek

/-- The blocks of a table that stand on lines of their own. -/
def tableBlocks (table : Table) (grid : Text) : List Text :=
  ["[c]".toList] ++ (if table.caption.isEmpty then [] else [caption table.caption]) ++ [grid] ++
    (if table.footer.isEmpty then [] else [tableFooter (Text.join ['\n'] table.footer)]) ++
    ["[/c]".toList]

variable {table : Table} {grid : Text}

theorem exists_mem_tableBlocks_iff {p : Text → Prop} :
    (∃ block ∈ tableBlocks table grid, p block) ↔
      p "[c]".toList ∨ (table.caption ≠ [] ∧ p (caption table.caption)) ∨ p grid ∨
        (table.footer ≠ [] ∧ p (tableFooter (Text.join ['\n'] table.footer))) ∨
        p "[/c]".toList := by
  cases hcaption : table.caption <;> cases hfooter : table.footer <;>
    simp [tableBlocks, hcaption, hfooter]

theorem tableContainer_eq (content : Text) :
    tableContainer content = "[c]".toList ++ '\n' :: (content ++ '\n' :: "[/c]".toList) := rfl

/-- A table is written as its blocks. -/
theorem tableContainer_eq_join :
    tableContainer
      ((if table.caption.isEmpty then [] else caption table.caption ++ ['\n']) ++ grid ++
        (if table.footer.isEmpty then []
        else '\n' :: tableFooter (Text.join ['\n'] table.footer))) =
      Text.join ['\n'] (tableBlocks table grid) := by
  rw [tableContainer_eq, tableBlocks]
  split <;> split <;>
    simp only [Text.join_cons_cons, Text.join_singleton, List.append_assoc, List.cons_append,
      List.nil_append, List.append_nil]

theorem head?_tagged (tag : String) (value : Option Text) (text : Text) :
    (tagged tag value text).head? = some '[' := rfl

/-- No block begins with a space. -/
theorem not_space_of_mem_tableBlocks (hgrid : grid.head? ≠ some ' ') :
    ∀ block ∈ tableBlocks table grid, block.head? ≠ some ' ' := by
  intro block hblock hspace
  rcases (exists_mem_tableBlocks_iff (p := (·.head? = some ' '))).mp ⟨block, hblock, hspace⟩ with
    hopening | ⟨-, hcaption⟩ | hfound | ⟨-, hfooter⟩ | hclosing
  · exact absurd hopening (by decide)
  · rw [caption, head?_tagged] at hcaption
    exact absurd hcaption (by decide)
  · exact hgrid hfound
  · rw [tableFooter, head?_tagged] at hfooter
    exact absurd hfooter (by decide)
  · exact absurd hclosing (by decide)

section Sought

variable {part : Text} (hpart : part ∈ [linkGap, indented 1])
include hpart

theorem infix_tagged_iff {tag : String} (htag : tag ∈ ["b", "i"]) {text : Text} :
    part <:+: tagged tag none text ↔ part <:+: text := by
  have hopening : ∀ part ∈ [linkGap, indented 1], ∀ tag ∈ ["b", "i"],
      (∀ ending ∈ ("[".toList ++ opening tag none ++ "]".toList).tails,
        ending ≠ [] → ¬ ending <+: part) ∧
      ¬ part <:+: "[".toList ++ opening tag none ++ "]".toList := by decide
  have hclosing : ∀ part ∈ [linkGap, indented 1], ∀ tag ∈ ["b", "i"],
      (∀ beginning ∈ ("[".toList ++ '/' :: tag.toList ++ "]".toList).inits,
        beginning ≠ [] → ¬ beginning <:+ part) ∧
      ¬ part <:+: "[".toList ++ '/' :: tag.toList ++ "]".toList := by decide
  obtain ⟨htails, hnoneOpening⟩ := hopening part hpart tag htag
  obtain ⟨hinits, hnoneClosing⟩ := hclosing part hpart tag htag
  rw [tagged_eq, Text.infix_enclosed_iff htails hinits hnoneOpening hnoneClosing]

/-- What finishing looks for is found in the caption, in the grid or in the footer. -/
theorem infix_join_tableBlocks_iff (hgrid : grid.head? ≠ some ' ') :
    part <:+: Text.join ['\n'] (tableBlocks table grid) ↔
      part <:+: table.caption ∨ part <:+: grid ∨ part <:+: Text.join ['\n'] table.footer := by
  have hjoin : part <:+: Text.join ['\n'] (tableBlocks table grid) ↔
      ∃ block ∈ tableBlocks table grid, part <:+: block := by
    rcases List.mem_pair.mp hpart with rfl | rfl
    · exact Text.infix_join_iff (by decide) Fragments.linkGap_ne_nil
    · exact Fragments.indented_infix_join_iff (not_space_of_mem_tableBlocks hgrid)
  have hends : ∀ part ∈ [linkGap, indented 1],
      part ≠ [] ∧ ¬ part <:+: "[c]".toList ∧ ¬ part <:+: "[/c]".toList := by decide
  obtain ⟨hne, hopening, hclosing⟩ := hends part hpart
  have hcaption : table.caption ≠ [] ∧ part <:+: caption table.caption ↔
      part <:+: table.caption := by
    rw [caption, infix_tagged_iff hpart (by decide), and_iff_right_iff_imp]
    rintro hinside hnil
    exact hne (List.infix_nil.mp (hnil ▸ hinside))
  have hfooter : table.footer ≠ [] ∧ part <:+: tableFooter (Text.join ['\n'] table.footer) ↔
      part <:+: Text.join ['\n'] table.footer := by
    rw [tableFooter, infix_tagged_iff hpart (by decide), and_iff_right_iff_imp]
    rintro hinside hnil
    rw [hnil, Text.join_nil, List.infix_nil] at hinside
    exact hne hinside
  rw [hjoin, exists_mem_tableBlocks_iff, or_iff_right hopening, or_iff_left hclosing, hcaption,
    hfooter]

end Sought

/-- The first block begins with a bracket, and the last one ends in one. -/
theorem strip_join_tableBlocks :
    Text.strip (Text.join ['\n'] (tableBlocks table grid)) =
      Text.join ['\n'] (tableBlocks table grid) := by
  apply Text.strip_eq_self
  · rw [tableBlocks, List.append_assoc, List.append_assoc, List.append_assoc,
      List.singleton_append, Text.join_cons]
    rintro c ⟨⟩
    rfl
  · rw [tableBlocks, Text.getLast?_join_concat _ _ (by decide)]
    rintro c ⟨⟩
    rfl

end RpgGeek

open RpgGeek

namespace Table

/-- All texts of a table. -/
def texts (table : Table) : List Text :=
  table.caption :: table.headers ++ table.rows.flatten ++ table.footer

/-- The grid that is drawn of a table. -/
def drawnGrid (table : Table) : Text :=
  Text.join ['\n'] (Grid.gridLines table.padded.headers table.padded.rows)

theorem head?_drawnGrid (table : Table) : table.drawnGrid.head? ≠ some ' ' := by
  have hrule := Grid.head?_bordered '+' ((Grid.columnRooms
    (table.padded.headers :: table.padded.rows)).map fun width => List.replicate (width + 2) '-')
  rw [drawnGrid, Grid.gridLines, List.append_assoc, List.append_assoc, List.append_assoc,
    List.singleton_append, Text.join_cons, Grid.ruleLine, List.head?_append, hrule]
  simp

/-- A gap behind a link is found in the caption, in a cell or in a line of the footer. -/
theorem linkGap_infix_texts_iff {table : Table} :
    linkGap <:+: table.caption ∨ linkGap <:+: table.drawnGrid ∨
        linkGap <:+: Text.join ['\n'] table.footer ↔
      ∃ text ∈ table.texts, linkGap <:+: text := by
  have hnil : ¬ linkGap <:+: [] := by decide
  have hlines : linkGap <:+: Text.join ['\n'] table.footer ↔
      ∃ line ∈ table.footer, linkGap <:+: line :=
    Text.infix_join_iff (by decide) Fragments.linkGap_ne_nil
  rw [drawnGrid, Fragments.linkGap_isSought.infix_join_gridLines_iff,
    exists_cell_padded_iff hnil, hlines]
  have hrows : (∃ cells ∈ table.rows, ∃ cell ∈ cells, linkGap <:+: cell) ↔
      ∃ cell ∈ table.rows.flatten, linkGap <:+: cell := by
    constructor
    · rintro ⟨cells, hcells, cell, hcell, hinside⟩
      exact ⟨cell, List.mem_flatten.mpr ⟨cells, hcells, hcell⟩, hinside⟩
    · rintro ⟨cell, hcell, hinside⟩
      obtain ⟨cells, hcells, hcell⟩ := List.mem_flatten.mp hcell
      exact ⟨cells, hcells, cell, hcell, hinside⟩
  rw [List.exists_mem_cons_iff, hrows, texts, List.append_assoc, List.cons_append,
    List.exists_mem_cons_iff]
  simp only [List.mem_append, or_and_right, exists_or, or_assoc]

/-- A line feed with a space behind it is found in the caption or not at all. -/
theorem indented_infix_ofNode_iff (node : Node) :
    indented 1 <:+: (ofNode node).caption ∨ indented 1 <:+: (ofNode node).drawnGrid ∨
        indented 1 <:+: Text.join ['\n'] (ofNode node).footer ↔
      indented 1 <:+: (ofNode node).caption := by
  have hgrid : ¬ indented 1 <:+: (ofNode node).drawnGrid := by
    apply Fragments.not_indented_infix_join
    · exact fun line hline => Grid.not_mem_gridLines hline
    · intro line hline hspace
      rcases Grid.head?_of_mem_gridLines hline with hborder | hborder
      · exact absurd (hspace.symm.trans hborder) (by decide)
      · exact absurd (hspace.symm.trans hborder) (by decide)
  have hfooter : ¬ indented 1 <:+: Text.join ['\n'] (ofNode node).footer := by
    apply Fragments.not_indented_infix_join
    · intro line hline hfeed
      exact absurd ((isFooterLine_of_mem_footer line hline).oneLine _ hfeed) (by decide)
    · intro line hline hspace
      exact absurd ((isFooterLine_of_mem_footer line hline).first _ hspace) (by decide)
  rw [or_iff_left hfooter, or_iff_left hgrid]

end Table

/-- A table that is written for RPGGeek is written as its blocks. -/
theorem Style.eq_join_of_table {site : Site} {table : Table} {written : Text}
    (hwritten : ({ dialect := .rpgGeek, site } : Style).table table = .ok written) :
    written = Text.join ['\n'] (tableBlocks table table.drawnGrid) := by
  simp only [Style.table, Style.grid] at hwritten
  cases hdrawn : Grid.draw? table.padded.headers table.padded.rows with
  | none =>
    rw [hdrawn] at hwritten
    cases hwritten
  | some grid =>
    obtain ⟨-, rfl⟩ := Grid.draw?_eq_some_iff.mp hdrawn
    rw [hdrawn] at hwritten
    cases hwritten
    exact tableContainer_eq_join

/-- When a table on RPGGeek can be finished without harm.  If it can be written, it gives
one fragment.  A block of this fragment alone is left as it is exactly if the caption has
no line feed with a space behind it, and no text of the table has a gap behind a link. -/
theorem Style.table_tidied_iff (site : Site) (node : Node) (hkind : node.kind = .table)
    (hwritten : (({ dialect := .rpgGeek, site } : Style).transcribe node).failure = none) :
    ∃ fragment, ({ dialect := .rpgGeek, site } : Style).transcribe node = .single fragment ∧
      (Fragments.tidied [fragment] = fragment ↔
        ¬ indented 1 <:+: (Table.ofNode node).caption ∧
          ∀ text ∈ (Table.ofNode node).texts, ¬ linkGap <:+: text) := by
  have hrule : ({ dialect := .rpgGeek, site } : Style).transcribe node =
      .ofResult (({ dialect := .rpgGeek, site } : Style).table (.ofNode node)) := by
    rw [transcribe_eq_writtenBy, Node.rule, hkind]
    rfl
  rw [hrule] at hwritten ⊢
  cases htable : ({ dialect := .rpgGeek, site } : Style).table (.ofNode node) with
  | error failure =>
    rw [htable] at hwritten
    cases hwritten
  | ok fragment =>
    refine ⟨fragment, rfl, ?_⟩
    obtain rfl := Style.eq_join_of_table htable
    have hgrid := (Table.ofNode node).head?_drawnGrid
    have hgap : linkGap ∈ [linkGap, indented 1] := List.mem_cons_self ..
    have hindent : indented 1 ∈ [linkGap, indented 1] :=
      List.mem_cons_of_mem _ (List.mem_singleton_self _)
    rw [Fragments.tidied_eq_self_iff strip_join_tableBlocks,
      infix_join_tableBlocks_iff hgap hgrid, infix_join_tableBlocks_iff hindent hgrid,
      Table.linkGap_infix_texts_iff, Table.indented_infix_ofNode_iff, and_comm]
    simp only [not_exists, not_and]

/-- A table with a caption, a header of two lines, of which the second is indented, a column
without any text, and a footer. -/
theorem Style.table_tidied_header_lines :
    let text (content : String) := Node.text content.toList
    let element (kind : Kind) (children : List Node) := Node.element kind [] [] [] children
    let cell (kind : Kind) (content : String) := element kind [text content]
    let node := element .table
      [element .caption [text "Costs"],
        element .tableHead [element .tableRow [cell .headerCell "A\n  B\n", cell .headerCell ""]],
        element .tableBody [element .tableRow [cell .dataCell "1 "]],
        element .tableFoot [element .tableRow [cell .dataCell "one", cell .dataCell "two"],
          element .tableRow [cell .dataCell " three"]]]
    let style : Style := { dialect := .rpgGeek }
    let fragment := ("[c]\n[b]Costs[/b]\n+-----+--+\n| A   |  |\n|   B |  |\n+-----+--+\n" ++
      "| 1   |  |\n+-----+--+\n[i]one two\nthree[/i]\n[/c]").toList
    node.kind = .table ∧ style.transcribe node = .single fragment ∧
      Fragments.tidied [fragment] = fragment := by
  intro text element cell node style fragment
  have htranscript : style.transcribe node = .single fragment := by decide +kernel
  have hcaption : ¬ indented 1 <:+: (Table.ofNode node).caption := by decide +kernel
  have htexts : ∀ text ∈ (Table.ofNode node).texts, ¬ linkGap <:+: text := by decide +kernel
  obtain ⟨written, hwritten, htidied⟩ :=
    Style.table_tidied_iff {} node rfl (congrArg Transcript.failure htranscript)
  obtain rfl : fragment = written := by
    have hfragments := congrArg Transcript.fragments (htranscript.symm.trans hwritten)
    exact (List.singleton_inj.mp hfragments)
  exact ⟨rfl, htranscript, htidied.mpr ⟨hcaption, htexts⟩⟩

end ForumPost
