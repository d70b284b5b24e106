import ForumPost.Article.Table
import ForumPost.Proofs.Article.Tree
import ForumPost.Proofs.Text.Compact

/-!
# The characters of a table

A table is read off its element, and every text that it holds is made of texts
below that element and of spaces.  So a class of characters that contains the
space and the texts of the article contains every text of the table
(`Table.textsSatisfy_ofNode`).
-/

namespace ForumPost

namespace Table

/-- Every character of a table satisfies `p`. -/
structure TextsSatisfy (p : Char → Prop) (table : Table) : Prop where
  caption : ∀ c ∈ table.caption, p c
  headers : ∀ cell ∈ table.headers, ∀ c ∈ cell, p c
  rows : ∀ row ∈ table.rows, ∀ cell ∈ row, ∀ c ∈ cell, p c
  footer : ∀ line ∈ table.footer, ∀ c ∈ line, p c

section TextsSatisfy

variable {p : Char → Prop} {node : Node}

private theorem satisfies_headersOf (hnode : node.TextsSatisfy p) :
    ∀ cell ∈ headersOf node, ∀ c ∈ cell, p c := by
  intro cell hcell c hc
  obtain ⟨row, hrow, hcell⟩ := List.mem_flatMap.mp hcell
  obtain ⟨header, hheader, rfl⟩ := List.mem_map.mp hcell
  have hrowTexts := hnode.of_mem (Node.mem_preorder_of_mem_allBelow hrow)
  have hheaderTexts := hrowTexts.of_mem (Node.mem_preorder_of_mem_allBelow hheader)
  exact hheaderTexts.words c (Text.mem_of_mem_strip hc)

private theorem satisfies_cellsOf (hnode : node.TextsSatisfy p) :
    ∀ cell ∈ cellsOf node, ∀ c ∈ cell, p c := by
  intro cell hcell c hc
  obtain ⟨child, hchild, rfl⟩ := List.mem_map.mp (List.mem_filter.mp hcell).1
  have hword : c ∈ child.words := Text.mem_of_mem_removeBreaks (Text.mem_of_mem_strip hc)
  exact (hnode.child hchild).words c hword

private theorem satisfies_footerLineOf (hspace : p ' ') (hnode : node.TextsSatisfy p) :
    ∀ c ∈ footerLineOf node, p c := by
  intro c hc
  have hjoin := Text.mem_of_mem_removeBreaks (Text.mem_of_mem_strip hc)
  rcases Text.mem_join hjoin with hseparator | ⟨part, hpart, hc⟩
  · rw [List.mem_singleton.mp hseparator]
    exact hspace
  · obtain ⟨child, hchild, rfl⟩ := List.mem_map.mp hpart
    exact (hnode.child hchild).words c hc

private theorem TextsSatisfy.withPart {table : Table} (htable : table.TextsSatisfy p)
    (hspace : p ' ') (hnode : node.TextsSatisfy p) : (table.withPart node).TextsSatisfy p := by
  rw [Table.withPart]
  split
  · exact { htable with caption := fun c hc => hnode.words c (Text.mem_of_mem_strip hc) }
  · refine { htable with headers := fun cell hcell => ?_ }
    rcases List.mem_append.mp hcell with hold | hnew
    · exact htable.headers cell hold
    · exact satisfies_headersOf hnode cell hnew
  · refine { htable with rows := fun row hrow => ?_ }
    rcases List.mem_append.mp hrow with hold | hnew
    · exact htable.rows row hold
    · obtain ⟨found, hfound, rfl⟩ := List.mem_map.mp hnew
      exact satisfies_cellsOf (hnode.of_mem (Node.mem_preorder_of_mem_allBelow hfound))
  · refine { htable with footer := fun line hline => ?_ }
    rcases List.mem_append.mp hline with hold | hnew
    · exact htable.footer line hold
    · obtain ⟨found, hfound, rfl⟩ := List.mem_map.mp hnew
      exact satisfies_footerLineOf hspace (hnode.of_mem (Node.mem_preorder_of_mem_allBelow hfound))
  · exact htable

/-- A table holds characters of the article, and spaces. -/
theorem textsSatisfy_ofNode (hspace : p ' ') (hnode : node.TextsSatisfy p) :
    (ofNode node).TextsSatisfy p := by
  suffices hfold : ∀ (parts : List Node) (table : Table), (∀ part ∈ parts, part ∈ node.children) →
      table.TextsSatisfy p → (parts.foldl Table.withPart table).TextsSatisfy p by
    exact hfold node.children {} (fun _ hpart => hpart) ⟨by simp, by simp, by simp, by simp⟩
  intro parts
  induction parts with
  | nil => exact fun table _ htable => htable
  | cons part rest ih =>
    intro table hparts htable
    have hpart := hnode.child (hparts part (List.mem_cons_self ..))
    exact ih (table.withPart part) (fun other hother => hparts other (List.mem_cons_of_mem part hother))
      (htable.withPart hspace hpart)

private theorem satisfies_padRow {width : Nat} {row : List Text}
    (hrow : ∀ cell ∈ row, ∀ c ∈ cell, p c) : ∀ cell ∈ padRow width row, ∀ c ∈ cell, p c := by
  intro cell hcell
  rcases List.mem_append.mp hcell with hold | hnew
  · exact hrow cell hold
  · rw [(List.mem_replicate.mp hnew).2]
    simp

/-- The header row and the rows are treated alike by what draws a table. -/
theorem TextsSatisfy.cells {table : Table} (htable : table.TextsSatisfy p) :
    ∀ cells ∈ table.headers :: table.rows, ∀ cell ∈ cells, ∀ c ∈ cell, p c := by
  intro cells hcells
  rcases List.mem_cons.mp hcells with rfl | hrow
  · exact htable.headers
  · exact htable.rows cells hrow

/-- Filling up a table adds no character. -/
theorem TextsSatisfy.padded {table : Table} (htable : table.TextsSatisfy p) :
    table.padded.TextsSatisfy p := by
  refine ⟨htable.caption, satisfies_padRow htable.headers, fun row hrow => ?_, htable.footer⟩
  obtain ⟨short, hshort, rfl⟩ := List.mem_map.mp hrow
  exact satisfies_padRow (htable.rows short hshort)

end TextsSatisfy

end Table

end ForumPost
