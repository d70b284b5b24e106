import Mathlib.Data.List.Basic
import ForumPost.Proofs.Markup.Quotation
import ForumPost.Proofs.Transcript.Rules

/-!
# What a quotation quotes

A quotation on Reddit puts a mark in front of each fragment of its children, and not
in front of each line.  `quotation_lines_iff` says which quotations are quoted line
by line all the same.

* A fragment may bring the marks along.  Whether all of them do is decided node by
  node, for the nodes that the transcript comes by (`keepsQuote_fragments_iff`).  A
  text does if marks stand behind its line feeds, and a text of one line has none.
  List items, tables and open game content put in line feeds of their own, so that no
  quotation with any of them in it is quoted line by line.
* In a quotation that is a part of another one, each line needs two marks, and so on.
  The line between two parts has one.  So `Node.keepsMarks` asks of a quotation in a
  quotation that it has a single part, and of every other part that it keeps the marks
  of all the quotations around it (`othersMarked_quoteLines_iff`).
-/

namespace ForumPost

/-- Do the line feeds that are put in when a number of parts are gathered have the marks
of the quotations around? -/
def Gathering.keepsQuote (depth parts : Nat) : Gathering → Bool
  | listItem | gameContent => false
  | quotation => depth ≤ 1 || parts ≤ 1
  | paragraph | sidenote => true

namespace Node

/-- Does a node keep the marks of quotations around it, as far as it goes by itself?
A text does so if it brings the marks along.  A list item, a table and open game
content hold line feeds of their own, and a quotation holds them if it has several
parts, with one mark behind each. -/
def keepsQuote (style : Style) (depth : Nat) (node : Node) : Bool :=
  match node.rule with
  | .plain | .inline | .heading _ => Reddit.keepsQuote depth (Text.strip node.words)
  | .newThought => Reddit.keepsQuote depth node.words
  | .anchor =>
    match node.attribute? "href" with
    | none => true
    | some url =>
      Reddit.keepsQuote depth (Text.strip node.words) &&
        ("#".toList.isPrefixOf url || Reddit.keepsQuote depth url)
  | .table => false
  | .gather gathering =>
    gathering.keepsQuote depth (style.transcribeAll node.children).fragments.length
  | .leftOut | .footer | .image | .passOn | .stray | .unknownWrapper => true

end Node

/-! ## Line feeds of the markup -/

namespace Style

variable {style : Style} {depth : Nat}

theorem keepsQuote_listItem (parts : List Text) :
    Reddit.keepsQuote (depth + 1) (listItem parts) = false := by
  refine eq_false_of_ne_true fun hkeeps => ?_
  have hmarks := Reddit.keepsQuote_iff.mp hkeeps [] ⟨_, (listItem_eq parts).symm⟩
  exact absurd (List.prefix_nil.mp hmarks) (List.cons_ne_nil _ _)

theorem keepsQuote_openGameContent (parts : List Text) :
    Reddit.keepsQuote (depth + 1) (style.openGameContent parts) = false := by
  have hsecond : '\n' ≠ '>' := by decide
  apply Reddit.keepsQuote_eq_false hsecond
  have hclosing : parts ++ ["END OPEN GAME CONTENT".toList] ≠ [] := by simp
  obtain ⟨second, others, hrest⟩ := List.exists_cons_of_ne_nil hclosing
  rw [openGameContent, List.cons_append, hrest, List.map_cons, List.map_cons, Text.join_cons,
    List.flatMap_cons, List.append_assoc]
  exact List.infix_append_of_infix_right (List.prefix_append _ _).isInfix

theorem keepsQuote_table (hdialect : style.dialect = .reddit) {table : Table} {written : Text}
    (hwritten : style.table table = .ok written) :
    Reddit.keepsQuote (depth + 1) written = false := by
  have hbar : '|' ≠ '>' := by decide
  apply Reddit.keepsQuote_eq_false hbar
  unfold Style.table grid tableContainer at hwritten
  simp only [hdialect, Except.ok.injEq] at hwritten
  have hgrid (headers : List Text) (rows : List (List Text)) :
      ['\n', '|'] <+: Reddit.table headers rows := by
    rw [Reddit.table, Text.join_cons, Reddit.pipeRow]
    exact List.prefix_append _ _
  rw [← hwritten, Reddit.tableContainer, List.append_assoc]
  exact List.infix_append_of_infix_right ((hgrid _ _).trans (List.prefix_append _ _)).isInfix

/-- What gathers fragments keeps the marks if the fragments do, and if the line feeds
that it puts in do. -/
theorem keepsQuote_gathered (hdialect : style.dialect = .reddit) (gathering : Gathering)
    (parts : Fragments) :
    Reddit.keepsQuote (depth + 1) (style.gathered gathering parts) =
      (gathering.keepsQuote (depth + 1) parts.length &&
        parts.all (Reddit.keepsQuote (depth + 1))) := by
  cases gathering with
  | listItem => exact keepsQuote_listItem parts
  | gameContent => exact keepsQuote_openGameContent parts
  | paragraph => exact Reddit.keepsQuote_joined parts
  | sidenote =>
    rw [gathered, sidenote, hdialect]
    exact Reddit.keepsQuote_sidenote parts
  | quotation =>
    rw [gathered, quotation, hdialect, Bool.eq_iff_iff]
    simp [Reddit.keepsQuote_quotation_iff, Gathering.keepsQuote]

/-! ## What nodes keep -/

/-- A text keeps the marks as it is written, without its edge characters. -/
theorem keepsQuote_plainText_iff (depth : Nat) (text : Text) :
    (∀ fragment ∈ (plainText text).fragments, Reddit.keepsQuote depth fragment = true) ↔
      Reddit.keepsQuote depth (Text.strip text) = true := by
  rw [plainText]
  cases hstrip : Text.strip text with
  | nil => simp [Reddit.keepsQuote]
  | cons c rest => simp

/-- A link keeps the marks if its text does, and its address where that is written. -/
theorem keepsQuote_anchor_iff (hdialect : style.dialect = .reddit) (depth : Nat) (url text : Text) :
    (∀ fragment ∈ (style.anchor (some url) text).fragments,
      Reddit.keepsQuote depth fragment = true) ↔
      (Reddit.keepsQuote depth (Text.strip text) &&
        ("#".toList.isPrefixOf url || Reddit.keepsQuote depth url)) = true := by
  rw [anchor]
  split
  · rename_i hhash
    rw [Transcript.fragments_single, List.forall_mem_singleton, hhash, Bool.true_or, Bool.and_true]
  · rename_i hhash
    rw [Transcript.fragments_single, List.forall_mem_singleton, link, hdialect,
      eq_false_of_ne_true hhash, Bool.false_or]
    exact Bool.eq_iff_iff.mp (Reddit.keepsQuote_link url (Text.strip text))

/-- A node that does not descend keeps the marks as far as its own fragment does. -/
theorem keepsQuote_own_iff (hdialect : style.dialect = .reddit) (depth : Nat) {node : Node}
    (hdescends : node.rule.descends = false) (hwritten : (style.transcribe node).failure = none) :
    (∀ fragment ∈ (style.transcribe node).fragments,
      Reddit.keepsQuote (depth + 1) fragment = true) ↔
      node.keepsQuote style (depth + 1) = true := by
  rw [Node.keepsQuote]
  rw [transcribe_eq_writtenBy] at hwritten ⊢
  cases hrule : node.rule with
  | leftOut => simp [writtenBy]
  | plain => exact keepsQuote_plainText_iff (depth + 1) node.words
  | footer =>
    rw [writtenBy, Transcript.fragments_single, List.forall_mem_singleton, footer, hdialect]
    exact iff_of_true (Reddit.keepsQuote_of_not_mem (Text.not_mem_collapse node.words)) rfl
  | newThought =>
    rw [writtenBy, Transcript.fragments_single, List.forall_mem_singleton, newThought, hdialect]
    exact Bool.eq_iff_iff.mp (Reddit.keepsQuote_newThought node.words)
  | inline =>
    rw [hrule] at hwritten
    obtain ⟨written, hinline, hfragments⟩ := Transcript.ofResult_of_failure_eq_none hwritten
    rw [writtenBy, hfragments, List.forall_mem_singleton,
      Reddit.keepsQuote_inline ((inlineElement_eq_ok hinline).1 hdialect)]
  | heading level =>
    rw [hrule] at hwritten
    obtain ⟨written, hheading, hfragments⟩ := Transcript.ofResult_of_failure_eq_none hwritten
    rw [writtenBy, hfragments, List.forall_mem_singleton,
      Reddit.keepsQuote_heading ((heading_eq_ok hheading).1 hdialect)]
  | table =>
    rw [hrule] at hwritten
    obtain ⟨written, htable, hfragments⟩ := Transcript.ofResult_of_failure_eq_none hwritten
    rw [writtenBy, hfragments, List.forall_mem_singleton, keepsQuote_table hdialect htable]
  | stray | unknownWrapper =>
    rw [hrule] at hwritten
    cases hwritten
  | image =>
    rw [writtenBy]
    cases node.firstImageSource? with
    | none => simp [imageOf]
    | some source => simp [imageOf, image, hdialect, Reddit.keepsQuote]
  | anchor =>
    rw [writtenBy]
    cases node.attribute? "href" with
    | none => simp [anchor]
    | some url => exact keepsQuote_anchor_iff hdialect (depth + 1) url node.words
  | passOn | gather gathering =>
    rw [hrule] at hdescends
    cases hdescends

/-- The fragments of a node keep the marks of quotations around them exactly if every
node that the transcript comes by does. -/
theorem keepsQuote_fragments_iff (hdialect : style.dialect = .reddit) (depth : Nat) {node : Node}
    (hwritten : (style.transcribe node).failure = none) :
    (∀ fragment ∈ (style.transcribe node).fragments,
      Reddit.keepsQuote (depth + 1) fragment = true) ↔
      ∀ found ∈ node.handled, found.keepsQuote style (depth + 1) = true := by
  induction node using Node.inductionOnChildren with
  | step node ih =>
    have hchildren : (style.transcribeAll node.children).failure = none →
        ((∀ fragment ∈ (style.transcribeAll node.children).fragments,
            Reddit.keepsQuote (depth + 1) fragment = true) ↔
          ∀ child ∈ node.children, ∀ found ∈ child.handled,
            found.keepsQuote style (depth + 1) = true) := by
      intro hbelow
      obtain ⟨hnone, hfragments⟩ := style.fragments_transcribeAll hbelow
      rw [hfragments, List.forall_mem_flatMap]
      exact forall₂_congr fun child hchild => ih child hchild (hnone child hchild)
    rw [Node.forall_mem_handled_iff]
    cases hdescends : node.rule.descends with
    | false => simpa using keepsQuote_own_iff hdialect depth hdescends hwritten
    | true =>
      rw [Node.keepsQuote]
      rw [transcribe_eq_writtenBy] at hwritten ⊢
      cases hrule : node.rule with
      | passOn =>
        rw [hrule] at hwritten
        simpa [writtenBy] using hchildren hwritten
      | gather gathering =>
        rw [hrule, writtenBy, Transcript.failure_gather] at hwritten
        rw [writtenBy, Transcript.fragments_gather hwritten, List.forall_mem_singleton,
          keepsQuote_gathered hdialect, Bool.and_eq_true, List.all_eq_true, hchildren hwritten]
        simp
      | _ =>
        rw [hrule] at hdescends
        cases hdescends

/-- A quotation that can be written is one fragment. -/
theorem fragments_of_quotation (style : Style) (hdialect : style.dialect = .reddit) {node : Node}
    (hrule : node.rule = .gather .quotation) (hwritten : (style.transcribe node).failure = none) :
    (style.transcribeAll node.children).failure = none ∧
      (style.transcribe node).fragments =
        [Reddit.quotation (style.transcribeAll node.children).fragments] := by
  rw [transcribe_eq_writtenBy, hrule, writtenBy, Transcript.failure_gather] at hwritten
  rw [transcribe_eq_writtenBy, hrule, writtenBy, Transcript.fragments_gather hwritten, gathered,
    quotation, hdialect]
  exact ⟨hwritten, rfl⟩

end Style

/-! ## Quotations in quotations -/

namespace Node

mutual

/-- The lines of each fragment of a node, each with the number of quotations that it
stands in.  A quotation counts where it is a part of the node or of a quotation that
counts; one in the midst of a paragraph begins no line. -/
def quoteLines (style : Style) : Node → List (List (Nat × Text))
  | text content => (style.transcribe (text content)).fragments.map Reddit.plainLines
  | comment => (style.transcribe comment).fragments.map Reddit.plainLines
  | element kind tag attributes classes children =>
    let node := element kind tag attributes classes children
    if node.rule = .gather .quotation then [Reddit.quotedLines (quoteLinesOf style children)]
    else if node.rule = .passOn then quoteLinesOf style children
    else (style.transcribe node).fragments.map Reddit.plainLines

/-- The lines of each fragment of nodes. -/
def quoteLinesOf (style : Style) : List Node → List (List (Nat × Text))
  | [] => []
  | node :: rest => node.quoteLines style ++ quoteLinesOf style rest

end

mutual

/-- Do the lines of a node have the marks of all quotations that they stand in, when
the node is a part of the innermost of `depth` quotations? -/
def keepsMarks (style : Style) (depth : Nat) : Node → Bool
  | text content => (text content).keepsQuote style depth
  | comment => comment.keepsQuote style depth
  | element kind tag attributes classes children =>
    let node := element kind tag attributes classes children
    if node.rule = .gather .quotation then
      (style.transcribeAll children).fragments.length ≤ 1 && keepsMarksOf style (depth + 1) children
    else if node.rule = .passOn then keepsMarksOf style depth children
    else node.handled.all (keepsQuote style depth)

/-- Do the lines of all nodes have these marks? -/
def keepsMarksOf (style : Style) (depth : Nat) : List Node → Bool
  | [] => true
  | node :: rest => node.keepsMarks style depth && keepsMarksOf style depth rest

end

variable {style : Style}

theorem quoteLinesOf_eq_flatMap (nodes : List Node) :
    quoteLinesOf style nodes = nodes.flatMap (quoteLines style) := by
  induction nodes with
  | nil => rfl
  | cons node rest ih => rw [quoteLinesOf, ih, List.flatMap_cons]

theorem quoteLines_eq (node : Node) :
    node.quoteLines style =
      if node.rule = .gather .quotation then
        [Reddit.quotedLines (node.children.flatMap (quoteLines style))]
      else if node.rule = .passOn then node.children.flatMap (quoteLines style)
      else (style.transcribe node).fragments.map Reddit.plainLines := by
  cases node with
  | text content => rfl
  | comment => rfl
  | element kind tag attributes classes nodes =>
    rw [quoteLines, quoteLinesOf_eq_flatMap]
    rfl

theorem keepsMarksOf_eq_all (depth : Nat) (nodes : List Node) :
    keepsMarksOf style depth nodes = nodes.all (keepsMarks style depth) := by
  induction nodes with
  | nil => rfl
  | cons node rest ih => rw [keepsMarksOf, ih, List.all_cons]

theorem keepsMarks_eq (depth : Nat) (node : Node) :
    node.keepsMarks style depth =
      if node.rule = .gather .quotation then
        decide ((style.transcribeAll node.children).fragments.length ≤ 1) &&
          node.children.all (keepsMarks style (depth + 1))
      else if node.rule = .passOn then node.children.all (keepsMarks style depth)
      else node.handled.all (keepsQuote style depth) := by
  cases node with
  | text content => simp [keepsMarks, handled, rule, kind]
  | comment => simp [keepsMarks, handled, rule, kind, Kind.comment]
  | element kind tag attributes classes nodes =>
    rw [keepsMarks, keepsMarksOf_eq_all, keepsMarksOf_eq_all]
    rfl

/-- Nodes one after the other, when the lines of each are those that its fragments are
cut into. -/
theorem texts_flatMap_quoteLines {nodes : List Node}
    (hnodes : ∀ node ∈ nodes, (style.transcribe node).failure = none →
      (node.quoteLines style).map (List.map Prod.snd) =
        (style.transcribe node).fragments.map (List.splitOn '\n'))
    (hwritten : (style.transcribeAll nodes).failure = none) :
    (nodes.flatMap (quoteLines style)).map (List.map Prod.snd) =
      (style.transcribeAll nodes).fragments.map (List.splitOn '\n') := by
  obtain ⟨hnone, hfragments⟩ := style.fragments_transcribeAll hwritten
  rw [hfragments, List.map_flatMap, List.map_flatMap]
  exact List.flatMap_congr fun node hnode => hnodes node hnode (hnone node hnode)

/-- The lines of the fragments are the lines that the fragments are cut into. -/
theorem texts_quoteLines (hdialect : style.dialect = .reddit) {node : Node}
    (hwritten : (style.transcribe node).failure = none) :
    (node.quoteLines style).map (List.map Prod.snd) =
      (style.transcribe node).fragments.map (List.splitOn '\n') := by
  induction node using inductionOnChildren with
  | step node ih =>
    have hchildren := texts_flatMap_quoteLines ih
    rw [quoteLines_eq]
    split
    · rename_i hrule
      obtain ⟨hbelow, hfragments⟩ := style.fragments_of_quotation hdialect hrule hwritten
      rw [hfragments, List.map_singleton, List.map_singleton,
        Reddit.texts_quotedLines (hchildren hbelow)]
    · split
      · rename_i hrule
        rw [Style.transcribe_eq_writtenBy, hrule, Style.writtenBy] at hwritten ⊢
        exact hchildren hwritten
      · rw [List.map_map]
        exact List.map_congr_left fun fragment _ => Reddit.texts_plainLines fragment

theorem length_flatMap_quoteLines (hdialect : style.dialect = .reddit) {nodes : List Node}
    (hwritten : (style.transcribeAll nodes).failure = none) :
    (nodes.flatMap (quoteLines style)).length = (style.transcribeAll nodes).fragments.length := by
  have htexts := texts_flatMap_quoteLines (fun node _ => texts_quoteLines hdialect) hwritten
  have hlength := congrArg List.length htexts
  rwa [List.length_map, List.length_map] at hlength

theorem firstMarked_quoteLines (style : Style) (node : Node) :
    ∀ lines ∈ node.quoteLines style, Reddit.FirstMarked lines := by
  induction node using inductionOnChildren with
  | step node ih =>
    have hchildren : ∀ lines ∈ node.children.flatMap (quoteLines style),
        Reddit.FirstMarked lines := List.forall_mem_flatMap.mpr ih
    rw [quoteLines_eq]
    split
    · rw [List.forall_mem_singleton]
      exact Reddit.firstMarked_quotedLines hchildren
    · split
      · exact hchildren
      · rw [List.forall_mem_map]
        exact fun fragment _ => Reddit.firstMarked_plainLines fragment

/-- The lines of the fragments of a node in a quotation have the marks of all
quotations that they stand in exactly if the node keeps them. -/
theorem othersMarked_quoteLines_iff (hdialect : style.dialect = .reddit) {node : Node}
    (hwritten : (style.transcribe node).failure = none) (depth : Nat) :
    (∀ lines ∈ node.quoteLines style, Reddit.OthersMarked (depth + 1) lines) ↔
      node.keepsMarks style (depth + 1) = true := by
  induction node using inductionOnChildren generalizing depth with
  | step node ih =>
    have hchildren (hbelow : (style.transcribeAll node.children).failure = none) (depth : Nat) :
        (∀ lines ∈ node.children.flatMap (quoteLines style),
            Reddit.OthersMarked (depth + 1) lines) ↔
          node.children.all (keepsMarks style (depth + 1)) = true := by
      have hnone := (style.fragments_transcribeAll hbelow).1
      rw [List.forall_mem_flatMap, List.all_eq_true]
      exact forall₂_congr fun child hchild => ih child hchild (hnone child hchild) depth
    rw [quoteLines_eq, keepsMarks_eq]
    split
    · rename_i hrule
      obtain ⟨hbelow, -⟩ := style.fragments_of_quotation hdialect hrule hwritten
      have hfirst := List.forall_mem_flatMap.mpr fun child (_ : child ∈ node.children) =>
        firstMarked_quoteLines style child
      rw [List.forall_mem_singleton, Reddit.othersMarked_quotedLines_iff hfirst,
        hchildren hbelow (depth + 1), length_flatMap_quoteLines hdialect hbelow, Bool.and_eq_true,
        decide_eq_true_iff, or_iff_right (Nat.succ_ne_zero depth)]
    · split
      · rename_i hrule
        rw [Style.transcribe_eq_writtenBy, hrule, Style.writtenBy] at hwritten
        exact hchildren hwritten depth
      · rw [List.forall_mem_map, List.all_eq_true,
          ← Style.keepsQuote_fragments_iff hdialect depth hwritten]
        simp only [Reddit.othersMarked_plainLines_iff]

end Node

/-- Which lines of a quotation on Reddit are quoted.  A quotation gives one fragment.
Unless this is empty, each of its lines begins with a mark exactly if every node that
the transcript comes by keeps the mark.  And each line begins with as many marks as it
stands in quotations exactly if the parts of the quotation keep them, wherever they
stand. -/
theorem quotation_lines_iff (style : Style) (hdialect : style.dialect = .reddit) {node : Node}
    (hkind : node.kind = .quotation) (hwritten : (style.transcribe node).failure = none) :
    ∃ written lines, (style.transcribe node).fragments = [written] ∧
      (written ≠ [] →
        ((∀ line ∈ written.splitOn '\n', line.head? = some '>') ↔
          ∀ found ∈ node.handled, found.keepsQuote style 1 = true)) ∧
      node.quoteLines style = [lines] ∧ lines.map Prod.snd = written.splitOn '\n' ∧
      ((∀ line ∈ lines, Reddit.quoteMarks line.1 <+: line.2) ↔
        ∀ child ∈ node.children, child.keepsMarks style 1 = true) := by
  have hrule : node.rule = .gather .quotation := by rw [Node.rule, hkind]
  obtain ⟨hbelow, hfragments⟩ := style.fragments_of_quotation hdialect hrule hwritten
  have hlines : node.quoteLines style =
      [Reddit.quotedLines (node.children.flatMap (Node.quoteLines style))] := by
    rw [Node.quoteLines_eq, if_pos hrule]
  have hfirst := Node.firstMarked_quoteLines style node
  have htexts := Node.texts_quoteLines hdialect hwritten
  have hkeeps := Style.keepsQuote_fragments_iff hdialect 0 hwritten
  rw [hlines, List.forall_mem_singleton] at hfirst
  rw [hlines, hfragments, List.map_singleton, List.map_singleton, List.singleton_inj] at htexts
  rw [hfragments, List.forall_mem_singleton] at hkeeps
  refine ⟨_, _, hfragments, fun hne => ?_, hlines, htexts, ?_⟩
  · cases hparts : (style.transcribeAll node.children).fragments with
    | nil =>
      rw [hparts] at hne
      exact absurd rfl hne
    | cons first rest =>
      obtain ⟨behind, hbehind⟩ := Reddit.quotation_cons first rest
      have hmark : Reddit.quoteMarks 1 <+: Reddit.quotation (first :: rest) := by
        rw [hbehind]
        exact List.prefix_append ['>'] _
      rw [← hkeeps, hparts]
      simp only [← Text.singleton_prefix_iff]
      exact Reddit.forall_mem_lines_quoted_iff.trans (and_iff_right hmark)
  · have hnone := (style.fragments_transcribeAll hbelow).1
    have hparts := List.forall_mem_flatMap.mpr fun child (_ : child ∈ node.children) =>
      Node.firstMarked_quoteLines style child
    rw [Reddit.forall_marked_iff hfirst, Reddit.othersMarked_quotedLines_iff hparts,
      and_iff_right (.inl rfl), List.forall_mem_flatMap]
    exact forall₂_congr fun child hchild =>
      Node.othersMarked_quoteLines_iff hdialect (hnone child hchild) 0

/-- A paragraph and a quotation in a quotation, all of which keep the marks. -/
theorem quotation_lines_nested :
    let style : Style := { dialect := .reddit }
    let element (kind : Kind) (children : List Node) := Node.element kind [] [] [] children
    let paragraph (words : String) := element .paragraph [.text words.toList]
    let node := element .quotation [paragraph "One", element .quotation [paragraph "Two"]]
    let written := ">One\n>\n>>Two".toList
    let lines := [(1, ">One".toList), (1, ">".toList), (2, ">>Two".toList)]
    (style.transcribe node).fragments = [written] ∧ node.quoteLines style = [lines] ∧
      (∀ line ∈ written.splitOn '\n', line.head? = some '>') ∧
      ∀ line ∈ lines, Reddit.quoteMarks line.1 <+: line.2 := by
  intro style element paragraph node written lines
  have hfragments : (style.transcribe node).fragments = [written] := by decide +kernel
  have hlines : node.quoteLines style = [lines] := by decide +kernel
  have hkind : node.kind = .quotation := rfl
  have hwritten : (style.transcribe node).failure = none := by decide +kernel
  have hkeeps : ∀ found ∈ node.handled, found.keepsQuote style 1 = true := by decide +kernel
  have hmarks : ∀ child ∈ node.children, child.keepsMarks style 1 = true := by decide +kernel
  obtain ⟨text, tagged, htext, hquoted, htagged, -, hmarked⟩ :=
    quotation_lines_iff style rfl hkind hwritten
  obtain rfl : written = text := List.singleton_inj.mp (hfragments.symm.trans htext)
  obtain rfl : lines = tagged := List.singleton_inj.mp (hlines.symm.trans htagged)
  exact ⟨hfragments, hlines, (hquoted (by decide)).mpr hkeeps, hmarked.mpr hmarks⟩

/-- The second line of a paragraph gets no mark, and neither does what stands behind a
list.  Between two parts of a quotation that is quoted there is one mark in place of
two. -/
theorem quotation_skips_lines :
    let style : Style := { dialect := .reddit }
    let element (kind : Kind) (children : List Node) := Node.element kind [] [] [] children
    let paragraph (words : String) := element .paragraph [.text words.toList]
    let list := element .bulletList [element .listItem [.text "Item".toList]]
    let written (parts : List Node) := (style.transcribe (element .quotation parts)).fragments
    written [paragraph "First\nsecond"] = [">First\nsecond".toList] ∧
      written [list, paragraph "End"] = [">* Item\n\n>\n>End".toList] ∧
      written [element .quotation [paragraph "One", paragraph "Two"]] =
        [">>One\n>\n>Two".toList] ∧
      ¬ ∀ line ∈ ">First\nsecond".toList.splitOn '\n', line.head? = some '>' := by
  decide +kernel

end ForumPost
