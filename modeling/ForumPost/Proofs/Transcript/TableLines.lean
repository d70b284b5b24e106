import ForumPost.Proofs.Article.TableRows
import ForumPost.Proofs.Markup.PipeTable
import ForumPost.Transcript

/-!
# The lines of a table on Reddit

A table without caption and footer is written for Reddit as an empty line and
behind it one line for each row, between bars.  Every row of the body is one
line, whatever its cells hold, since no cell of the body holds a line feed.

The header row is a different matter: a header keeps the line feeds inside of
it, and each of them splits the row.  So a table has one line for each row
exactly if no header holds a line feed (`table_rowPerLine_iff`).
-/

namespace ForumPost

namespace Reddit

/-- An empty line, and behind it a line for the headers, one for the alignment
and one for each row, all of them between bars. -/
def RowPerLine (rows : Nat) (written : Text) : Prop :=
  ∃ lines, written.splitOn '\n' = [] :: lines ∧ lines.length = 2 + rows ∧
    ∀ line ∈ lines, line.head? = some '|' ∧ line.getLast? = some '|'

/-- A row stands between bars. -/
theorem ends_pipeRow (cells : List Text) :
    (pipeRow cells).head? = some '|' ∧ (pipeRow cells).getLast? = some '|' := by
  refine ⟨rfl, ?_⟩
  rcases List.eq_nil_or_concat cells with rfl | ⟨front, last, rfl⟩
  · rfl
  · have hrow : pipeRow (front ++ [last]) = (pipeRow front ++ escapeBars last) ++ ['|'] := by
      simp [pipeRow]
    rw [List.concat_eq_append, hrow, List.getLast?_concat]

/-- Only the headers decide whether each row has a line. -/
theorem rowPerLine_iff {headers : List Text} {rows : List (List Text)}
    (hrows : ∀ row ∈ rows, ∀ cell ∈ row, '\n' ∉ cell) :
    RowPerLine rows.length (table headers rows) ↔ '\n' ∉ pipeRow headers := by
  have hsplit := splitOn_table headers hrows
  constructor
  · rintro ⟨lines, hlines, hlength, -⟩
    rw [hsplit, List.cons.injEq] at hlines
    rw [← hlines.2, List.length_append, List.length_cons, List.length_map] at hlength
    apply length_splitOn_eq_one_iff.mp
    omega
  · intro hheaders
    rw [splitOn_eq_singleton hheaders] at hsplit
    refine ⟨_, hsplit, ?_, ?_⟩
    · simp only [List.length_append, List.length_cons, List.length_map, List.length_nil]
      omega
    · intro line hline
      rcases List.mem_cons.mp hline with rfl | hline
      · exact ends_pipeRow headers
      · rcases List.mem_cons.mp hline with rfl | hline
        · exact ends_pipeRow _
        · obtain ⟨row, -, rfl⟩ := List.mem_map.mp hline
          exact ends_pipeRow row

end Reddit

open Reddit

/-- Without a caption and a footer, a table on Reddit is its grid. -/
theorem Style.table_reddit (site : Site) (table : Table) :
    ({ dialect := .reddit, site } : Style).table { table with caption := [], footer := [] } =
      .ok (Reddit.table table.padded.headers table.padded.rows) := by
  simp [Style.table, Style.grid, Style.tableContainer, Reddit.tableContainer, Table.padded,
    Table.width]

/-- The lines of a table that is read off an article.  Behind an empty line come
the lines of the header row, then the alignment, and then one line for each row.
All in all there is one line for each row exactly if no header holds a line
feed. -/
theorem table_rowPerLine_iff (site : Site) (node : Node) :
    let table := { Table.ofNode node with caption := [], footer := [] }
    ∃ written, ({ dialect := .reddit, site } : Style).table table = .ok written ∧
      written.splitOn '\n' =
        [] :: ((pipeRow table.padded.headers).splitOn '\n' ++
          alignment table.padded.headers :: table.padded.rows.map pipeRow) ∧
      (RowPerLine table.rows.length written ↔ ∀ header ∈ table.headers, '\n' ∉ header) := by
  intro table
  have hrows := Table.not_mem_padded_rows node
  have hlength : table.rows.length = (Table.ofNode node).padded.rows.length := by
    simp [table, Table.padded]
  have hheaders : '\n' ∉ pipeRow (Table.ofNode node).padded.headers ↔
      ∀ header ∈ table.headers, '\n' ∉ header := by
    rw [mem_pipeRow_iff (by decide) (by decide), Table.padded, Table.exists_mem_padRow_iff]
    simp [table]
  refine ⟨_, Style.table_reddit site (Table.ofNode node), splitOn_table _ hrows, ?_⟩
  rw [hlength, rowPerLine_iff hrows, hheaders]

/-- A table whose header row takes two lines. -/
theorem header_splits_row :
    let text (content : String) := Node.text content.toList
    let element (kind : Kind) (children : List Node) := Node.element kind [] [] [] children
    let head := element .tableHead [element .tableRow [element .headerCell [text "a\nb"]]]
    let body := element .tableBody [element .tableRow [element .dataCell [text "x\ny"]]]
    let table := { Table.ofNode (element .table [head, body]) with caption := [], footer := [] }
    ({ dialect := .reddit } : Style).table table = .ok "\n|a\nb|\n|:-|\n|xy|".toList ∧
      ¬ RowPerLine table.rows.length "\n|a\nb|\n|:-|\n|xy|".toList := by
  intro text element head body table
  have hwritten : ({ dialect := .reddit } : Style).table table =
      .ok "\n|a\nb|\n|:-|\n|xy|".toList := by
    decide +kernel
  refine ⟨hwritten, ?_⟩
  rintro ⟨lines, hlines, -, hbars⟩
  have hsplit : "\n|a\nb|\n|:-|\n|xy|".toList.splitOn '\n' =
      [[], "|a".toList, "b|".toList, "|:-|".toList, "|xy|".toList] := by decide
  rw [hsplit, List.cons.injEq] at hlines
  have hfirst : "|a".toList ∈ lines := by simp [← hlines.2]
  exact absurd (hbars _ hfirst).2 (by decide)

end ForumPost
