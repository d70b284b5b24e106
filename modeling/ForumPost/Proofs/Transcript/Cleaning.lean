import ForumPost.Proofs.Article.TableRows
import ForumPost.Proofs.Text.Runs
import ForumPost.Proofs.Transcript.Rules

/-!
# What is written on one line

The text of a footer, the cells of a table body and the lines of a table footer are
cleaned of tabs and line feeds, each in its own way: a footer is collapsed and not
stripped, and the texts of a table have their breaks taken out before they are stripped.
Neither dialect puts a break back into a footer (`Style.oneLine_footer`).

`cleaning_exact` gathers what cleaning does to one text and to two texts in a row, and
what follows for the parts of a post.
-/

namespace ForumPost

open Text (OneLine)

/-- A text on one line stays there between tags on one line. -/
theorem RpgGeek.oneLine_tagged {tag : String} {value : Option Text} {text : Text}
    (htag : OneLine tag.toList) (hvalue : ∀ shown ∈ value, OneLine shown) (htext : OneLine text) :
    OneLine (tagged tag value text) := by
  have hpart : OneLine (value.elim [] fun shown => '=' :: shown) := by
    cases value with
    | none => decide
    | some shown =>
      have hsign : OneLine ['='] := by decide
      exact hsign.append (hvalue shown rfl)
  have hopening : OneLine "[".toList := by decide
  have hslash : OneLine "[/".toList := by decide
  have hclosing : OneLine "]".toList := by decide
  exact ((((((hopening.append htag).append hpart).append hclosing).append htext).append
    hslash).append htag).append hclosing

/-- The marks of a footer hold no breaks. -/
theorem Style.oneLine_footer (style : Style) {text : Text} (htext : OneLine text) :
    OneLine (style.footer text) := by
  rw [footer]
  cases style.dialect with
  | reddit => exact htext
  | rpgGeek =>
    have hsize : OneLine (toString 8).toList := by decide
    have hsized : OneLine (RpgGeek.sized 8 text) :=
      RpgGeek.oneLine_tagged (by decide) (by simpa using hsize) htext
    exact RpgGeek.oneLine_tagged (by decide) (by simp) hsized

/-- A footer gives one fragment, on one line. -/
theorem Style.transcribe_footer (style : Style) {node : Node} (hkind : node.kind = .footer) :
    ∃ fragment, style.transcribe node = .single fragment ∧ OneLine fragment := by
  have hrule : node.rule = .footer := by rw [Node.rule, hkind]
  refine ⟨style.footer (Text.collapse node.words), ?_,
    style.oneLine_footer (Text.oneLine_collapse node.words)⟩
  rw [transcribe_eq_writtenBy, hrule, writtenBy]

/-- What cleaning does to a text, to two texts in a row, and to the parts of a post.

* Removing breaks leaves all other characters.
* Collapsing leaves a space of each run of breaks, and the other runs as they are.  Two
  texts may be collapsed one by one, unless the first ends in a break and the second
  begins with one.  Then there is one space less.
* What is cleaned once stays as it is.
* Stripping leaves the longest part without edge characters at its ends, and may come
  before collapsing or after.
* The fragment of a footer, in either dialect, and the cells and footer lines of a table
  hold no tab and no line feed. -/
theorem cleaning_exact (first second : Text) :
    (Text.removeBreaks first = first.filter fun c => c ≠ '\t' ∧ c ≠ '\n') ∧
    Text.removeBreaks (Text.removeBreaks first) = Text.removeBreaks first ∧
    OneLine (Text.collapse first) ∧
    (∀ parts, Text.IsRuns first parts ↔ first.runs = parts) ∧
    (Text.collapse first =
      first.runs.flatMap fun run => if Text.startsWithBreak run then [' '] else run) ∧
    Text.collapse (Text.collapse first) = Text.collapse first ∧
    (¬ (first.endsInBreak ∧ second.startsWithBreak) →
      Text.collapse (first ++ second) = Text.collapse first ++ Text.collapse second) ∧
    (first.endsInBreak ∧ second.startsWithBreak →
      ∃ front back, Text.collapse first = front ++ [' '] ∧ Text.collapse second = ' ' :: back ∧
        Text.collapse (first ++ second) = front ++ ' ' :: back) ∧
    Text.IsCore first (Text.strip first) ∧
    Text.strip (Text.collapse first) = Text.collapse (Text.strip first) ∧
    (∀ (style : Style) (node : Node), node.kind = .footer →
      ∃ fragment, style.transcribe node = .single fragment ∧ OneLine fragment) ∧
    (∀ node : Node, (∀ row ∈ (Table.ofNode node).rows, ∀ cell ∈ row, OneLine cell) ∧
      ∀ line ∈ (Table.ofNode node).footer, OneLine line) := by
  have hremoved : Text.removeBreaks first = first.filter fun c => c ≠ '\t' ∧ c ≠ '\n' := by
    refine List.filter_congr fun c _ => ?_
    rw [Bool.eq_iff_iff]
    simp [Text.isBreak]
  have hcut (hapart : ¬ (first.endsInBreak ∧ second.startsWithBreak)) :
      Text.collapse (first ++ second) = Text.collapse first ++ Text.collapse second :=
    Text.collapse_append fun hends => Bool.eq_false_iff.mpr fun hstarts => hapart ⟨hends, hstarts⟩
  have htable (node : Node) : (∀ row ∈ (Table.ofNode node).rows, ∀ cell ∈ row, OneLine cell) ∧
      ∀ line ∈ (Table.ofNode node).footer, OneLine line :=
    ⟨fun row hrow cell hcell =>
        Text.oneLine_iff.mpr fun c hc => Table.not_isBreak_of_mem_rows hrow hcell hc,
      fun line hline => Text.oneLine_iff.mpr (Table.isFooterLine_of_mem_footer line hline).oneLine⟩
  exact ⟨hremoved, Text.removeBreaks_removeBreaks first, Text.oneLine_collapse first,
    fun parts => Text.isRuns_iff, Text.collapse_eq_runs first, Text.collapse_collapse first, hcut,
    fun hboth => Text.collapse_append_of_breaks hboth.1 hboth.2, Text.isCore_strip first,
    Text.strip_collapse first, fun style node => style.transcribe_footer, htable⟩

/-- Two texts of a footer.  One way round, a run of breaks lies in both of them, and the
other way round they may be collapsed one by one. -/
theorem cleaning_exact_both_ways :
    let first : Text := " a\r\n".toList
    let second : Text := "\t\nb\n ".toList
    let footer := Node.element .footer "footer".toList [] [] [.text first, .text second]
    let style : Style := { dialect := .rpgGeek }
    (first.endsInBreak ∧ second.startsWithBreak) ∧
      ¬ (second.endsInBreak ∧ first.startsWithBreak) ∧
      (∃ front back, Text.collapse first = front ++ [' '] ∧ Text.collapse second = ' ' :: back ∧
        Text.collapse (first ++ second) = front ++ ' ' :: back) ∧
      Text.collapse (second ++ first) = Text.collapse second ++ Text.collapse first ∧
      footer.kind = .footer ∧
      ∃ fragment, style.transcribe footer = .single fragment ∧ OneLine fragment := by
  intro first second footer style
  have hmeet : first.endsInBreak ∧ second.startsWithBreak := by decide
  have hapart : ¬ (second.endsInBreak ∧ first.startsWithBreak) := by decide
  obtain ⟨-, -, -, -, -, -, -, htogether, -, -, hfooter, -⟩ := cleaning_exact first second
  obtain ⟨-, -, -, -, -, -, honeByOne, -⟩ := cleaning_exact second first
  exact ⟨hmeet, hapart, htogether hmeet, honeByOne hapart, rfl, hfooter style footer rfl⟩

end ForumPost
