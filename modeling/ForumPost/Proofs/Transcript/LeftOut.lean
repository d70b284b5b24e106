import ForumPost.Proofs.Pairs
import ForumPost.Proofs.Transcript.Rules

/-!
# What is left out does not matter

Two articles may differ in what is below the elements that are left out, and in
nothing else (`Node.SameButLeftOut`).  A transcript does not tell them apart,
unless it takes in such an element with the rest of a node that it writes as a
whole: from the flattened text, from the cells, or from the first image below it
(`leftOut_unseen`).  The text of a node is the text of all that is below it, so
that a footnote mark inside of emphasis is written
(`leftOut_shown_in_emphasis`).

The proof follows two transcripts at a time.

* What the two articles have in common: kinds, tags, attributes and classes, and
  hence the rules by which their nodes are written.  The nodes that the
  transcripts come by are of the same number, and differ pairwise in what is left
  out only (`SameButLeftOut.handled`).
* A rule that does not descend looks at a node and at its content
  (`Node.SameContent`).  A rule that descends looks at the transcripts of the
  children, which carries the induction.
-/

namespace ForumPost

namespace Node

/-! ## Articles that differ in what is left out -/

mutual

/-- A node without the children of the elements that are left out, wherever they
stand. -/
def pruned : Node → Node
  | text content => text content
  | comment => comment
  | element kind tag attributes classes children =>
    element kind tag attributes classes (if kind.isLeftOut then [] else prunedOf children)

/-- Nodes without the children of the elements that are left out. -/
def prunedOf : List Node → List Node
  | [] => []
  | node :: rest => node.pruned :: prunedOf rest

end

theorem prunedOf_eq_map (nodes : List Node) : prunedOf nodes = nodes.map pruned := by
  induction nodes with
  | nil => rfl
  | cons node rest ih => rw [prunedOf, ih, List.map_cons]

@[simp] theorem kind_pruned (node : Node) : node.pruned.kind = node.kind := by
  cases node <;> rfl

@[simp] theorem tag_pruned (node : Node) : node.pruned.tag = node.tag := by
  cases node <;> rfl

@[simp] theorem attributes_pruned (node : Node) : node.pruned.attributes = node.attributes := by
  cases node <;> rfl

theorem children_pruned (node : Node) :
    node.pruned.children = if node.kind.isLeftOut then [] else node.children.map pruned := by
  cases node with
  | text content => rfl
  | comment => rfl
  | element kind tag attributes classes nodes =>
    rw [pruned, children, prunedOf_eq_map]
    rfl

/-- The rule for a node follows from its kind and its classes. -/
theorem rule_pruned (node : Node) : node.pruned.rule = node.rule := by
  cases node <;> rfl

theorem rule_of_isLeftOut {node : Node} (hkind : node.kind.isLeftOut = true) :
    node.rule = .leftOut := by
  unfold rule
  cases hcase : node.kind <;> first | rfl | (rw [hcase] at hkind; cases hkind)

theorem isLeftOut_eq_false_of_descends {node : Node} (hrule : node.rule.descends = true) :
    node.kind.isLeftOut = false := by
  by_contra hkind
  rw [rule_of_isLeftOut (eq_true_of_ne_false hkind)] at hrule
  cases hrule

/-- A node stays as it is if nothing in its tree is left out. -/
theorem pruned_eq_self {node : Node}
    (hnode : ∀ below ∈ node.preorder, below.kind.isLeftOut = false) :
    node.pruned = node := by
  induction node using inductionOnChildren with
  | step node ih =>
    cases node with
    | text content => rfl
    | comment => rfl
    | element kind tag attributes classes nodes =>
      have hkind : kind.isLeftOut = false := hnode _ (mem_preorder_self _)
      have hnodes : nodes.map pruned = nodes := by
        conv => rhs; rw [← List.map_id nodes]
        refine List.map_congr_left fun child hchild => ih child hchild fun below hbelow => ?_
        exact hnode below (mem_preorder_of_mem_children hchild hbelow)
      rw [pruned, hkind, prunedOf_eq_map, hnodes]
      rfl

/-- Two nodes differ in the children of elements that are left out, and in nothing
else. -/
def SameButLeftOut (first second : Node) : Prop :=
  first.pruned = second.pruned

namespace SameButLeftOut

variable {first second : Node} (hsame : first.SameButLeftOut second)

include hsame

theorem tag_eq : first.tag = second.tag := by
  rw [← tag_pruned first, hsame, tag_pruned]

theorem attribute?_eq (name : String) : first.attribute? name = second.attribute? name := by
  rw [attribute?, ← attributes_pruned first, hsame, attributes_pruned, attribute?]

theorem rule_eq : first.rule = second.rule := by
  rw [← rule_pruned first, hsame, rule_pruned]

/-- Unless they are left out, the nodes have as many children, which differ in
what is left out only. -/
theorem children (hkind : first.kind.isLeftOut = false) :
    List.Forall₂ SameButLeftOut first.children second.children := by
  have hkinds : first.kind = second.kind := by
    rw [← kind_pruned first, hsame, kind_pruned]
  have hchildren : first.pruned.children = second.pruned.children := by
    rw [hsame]
  rw [children_pruned, children_pruned, ← hkinds, hkind] at hchildren
  have hmapped : List.Forall₂ (· = ·) (first.children.map pruned) (second.children.map pruned) := by
    rw [List.forall₂_eq_eq_eq]
    exact hchildren
  rwa [List.forall₂_map_left_iff, List.forall₂_map_right_iff] at hmapped

/-- The nodes that the two transcripts come by differ pairwise in what is left out
only. -/
theorem handled : List.Forall₂ SameButLeftOut first.handled second.handled := by
  induction first using inductionOnChildren generalizing second with
  | step first ih =>
    rw [handled_eq, handled_eq, ← hsame.rule_eq]
    refine .cons hsame ?_
    split
    · rename_i hrule
      have hchildren := hsame.children (isLeftOut_eq_false_of_descends hrule)
      have hbelow := forall₂_imp_of_mem (fun child hchild _ _ => ih child hchild) hchildren
      exact List.rel_flatMap hbelow fun _ _ hpair => hpair
    · exact .nil

end SameButLeftOut

end Node

/-! ## What a rule sees -/

/-- Is a node written from its flattened text, from its cells, or from the first
image below it? -/
def Rule.flattens : Rule → Bool
  | .plain | .inline | .heading _ | .footer | .newThought | .anchor | .image | .table => true
  | .leftOut | .passOn | .gather _ | .stray | .unknownWrapper => false

namespace Node

/-- Do two nodes under the same rule hold the same, as far as the rule looks into
them?  A rule that descends looks at the transcripts of the children instead. -/
def SameContent (first second : Node) : Prop :=
  match first.rule with
  | .plain | .inline | .heading _ | .footer | .newThought => first.words = second.words
  | .anchor => first.attribute? "href" ≠ none → first.words = second.words
  | .image => first.firstImageSource? = second.firstImageSource?
  | .table => Table.ofNode first = Table.ofNode second
  | .leftOut | .passOn | .gather _ | .stray | .unknownWrapper => True

/-- Equal nodes hold the same. -/
theorem SameContent.refl (node : Node) : node.SameContent node := by
  unfold SameContent
  cases node.rule with
  | leftOut | passOn | gather gathering | stray | unknownWrapper => trivial
  | anchor => exact fun _ => rfl
  | _ => rfl

theorem sameContent_of_not_flattens {first second : Node} (hrule : first.rule.flattens = false) :
    first.SameContent second := by
  unfold SameContent
  cases hcase : first.rule with
  | leftOut | passOn | gather gathering | stray | unknownWrapper => trivial
  | _ =>
    rw [hcase] at hrule
    cases hrule

end Node

namespace Style

variable (style : Style)

theorem transcribeAll_congr {nodes others : List Node}
    (hnodes : List.Forall₂ (fun node other => style.transcribe node = style.transcribe other)
      nodes others) : style.transcribeAll nodes = style.transcribeAll others := by
  induction hnodes with
  | nil => rfl
  | cons hhead _ ih => rw [transcribeAll, transcribeAll, hhead, ih]

/-- Nodes that differ in what is left out have the same transcript if every two
nodes that the transcripts come by hold the same. -/
theorem transcribe_eq_of_sameContent {first second : Node} (hsame : first.SameButLeftOut second)
    (hcontent : List.Forall₂ Node.SameContent first.handled second.handled) :
    style.transcribe first = style.transcribe second := by
  induction first using Node.inductionOnChildren generalizing second with
  | step first ih =>
    rw [Node.handled_eq, Node.handled_eq, List.forall₂_cons, ← hsame.rule_eq] at hcontent
    obtain ⟨hown, hbelow⟩ := hcontent
    have hchildren : first.rule.descends = true →
        style.transcribeAll first.children = style.transcribeAll second.children := by
      intro hrule
      rw [if_pos hrule, if_pos hrule] at hbelow
      have hpairs := hsame.children (Node.isLeftOut_eq_false_of_descends hrule)
      have hboth := forall₂_of_flatMap (fun _ _ hpair => hpair.handled.length_eq) hpairs hbelow
      apply style.transcribeAll_congr
      exact forall₂_imp_of_mem (fun child hchild _ _ hpair => ih child hchild hpair.1 hpair.2) hboth
    rw [transcribe_eq_writtenBy, transcribe_eq_writtenBy, ← hsame.rule_eq]
    unfold Node.SameContent at hown
    cases hrule : first.rule with
    | leftOut => rfl
    | stray | unknownWrapper => simp only [writtenBy, hsame.tag_eq]
    | plain | footer | newThought | heading level | inline =>
      rw [hrule] at hown
      simp only [writtenBy, hsame.tag_eq, hown]
    | image =>
      rw [hrule] at hown
      simp only [writtenBy, hown]
    | table =>
      rw [hrule] at hown
      simp only [writtenBy, hown]
    | anchor =>
      rw [hrule] at hown
      rw [writtenBy, writtenBy, ← hsame.attribute?_eq]
      cases hurl : first.attribute? "href" with
      | none => rfl
      | some url => rw [hown (by rw [hurl]; exact Option.some_ne_none url)]
    | passOn =>
      rw [hrule] at hchildren
      exact hchildren rfl
    | gather gathering =>
      rw [hrule] at hchildren
      rw [writtenBy, writtenBy, hchildren rfl]

end Style

/-- What is left out does not matter.  Two articles that differ only in what is
below elements that are left out have the same transcript, fragments and failure
alike, if every two nodes that the transcripts come by hold the same as far as
their rule looks into them.  That is so if no element that is left out stands in a
node that is written from its flattened text, its cells or its first image. -/
theorem leftOut_unseen (style : Style) {first second : Node} (hsame : first.SameButLeftOut second) :
    (List.Forall₂ Node.SameContent first.handled second.handled →
      style.transcribe first = style.transcribe second) ∧
    ((∀ found ∈ first.handled ++ second.handled, found.rule.flattens = true →
        ∀ below ∈ found.preorder, below.kind.isLeftOut = false) →
      style.transcribe first = style.transcribe second) := by
  refine ⟨style.transcribe_eq_of_sameContent hsame, fun hclear => ?_⟩
  apply style.transcribe_eq_of_sameContent hsame
  refine forall₂_imp_of_mem (fun found hfound other hother hpair => ?_) hsame.handled
  by_cases hflattens : found.rule.flattens = true
  · have hself : found.pruned = found :=
      Node.pruned_eq_self (hclear found (List.mem_append_left _ hfound) hflattens)
    have hotherSelf : other.pruned = other := by
      apply Node.pruned_eq_self (hclear other (List.mem_append_right _ hother) _)
      rwa [← hpair.rule_eq]
    have heq : found = other := by rw [← hself, hpair, hotherSelf]
    rw [heq]
    exact .refl other
  · exact Node.sameContent_of_not_flattens (eq_false_of_ne_true hflattens)

/-- A script in a list item, and a footnote mark beside of emphasis that holds the
same line break in both articles. -/
theorem leftOut_unseen_script :
    let style : Style := { dialect := .reddit }
    let hidden (kind : Kind) (tag : String) (words : String) : Node :=
      .element kind tag.toList [] [] [.text words.toList]
    let item (code : String) : Node :=
      .element .listItem "li".toList [] [] [.text "One".toList, hidden .script "script" code]
    let emphasis : Node :=
      .element .emphasis "em".toList [] []
        [.text "so".toList, .element .lineBreak "br".toList [] [] []]
    let paragraph (mark : String) : Node :=
      .element .paragraph "p".toList [] [] [emphasis, hidden .superscript "sup" mark]
    (item "x()").SameButLeftOut (item "y()") ∧
      style.transcribe (item "x()") = style.transcribe (item "y()") ∧
      (paragraph "1").SameButLeftOut (paragraph "2") ∧
      style.transcribe (paragraph "1") = style.transcribe (paragraph "2") := by
  intro style hidden item emphasis paragraph
  have hitems : (item "x()").SameButLeftOut (item "y()") := rfl
  have hparagraphs : (paragraph "1").SameButLeftOut (paragraph "2") := rfl
  have hclear : ∀ found ∈ (item "x()").handled ++ (item "y()").handled,
      found.rule.flattens = true → ∀ below ∈ found.preorder, below.kind.isLeftOut = false := by
    decide +kernel
  have hmark : ∀ first second, Node.SameContent (hidden .superscript "sup" first)
      (hidden .superscript "sup" second) := fun _ _ => trivial
  have hcontent : List.Forall₂ Node.SameContent (paragraph "1").handled (paragraph "2").handled :=
    .cons trivial (.cons (.refl emphasis) (.cons (hmark "1" "2") .nil))
  exact ⟨hitems, (leftOut_unseen style hitems).2 hclear, hparagraphs,
    (leftOut_unseen style hparagraphs).1 hcontent⟩

/-- Inside of emphasis a footnote mark is written, so that two articles that differ
in it do not have the same transcript. -/
theorem leftOut_shown_in_emphasis :
    let style : Style := { dialect := .reddit }
    let marked (mark : String) : Node :=
      .element .emphasis "em".toList [] []
        [.text "word".toList, .element .superscript "sup".toList [] [] [.text mark.toList]]
    (marked "1").SameButLeftOut (marked "2") ∧
      (style.transcribe (marked "1")).fragments = ["*word1*".toList] ∧
      (style.transcribe (marked "2")).fragments = ["*word2*".toList] ∧
      ¬ ∀ (style : Style) (first second : Node), first.SameButLeftOut second →
        style.transcribe first = style.transcribe second := by
  intro style marked
  have hsame : (marked "1").SameButLeftOut (marked "2") := rfl
  have hfirst : (style.transcribe (marked "1")).fragments = ["*word1*".toList] := by decide +kernel
  have hsecond : (style.transcribe (marked "2")).fragments = ["*word2*".toList] := by decide +kernel
  refine ⟨hsame, hfirst, hsecond, fun hunseen => ?_⟩
  rw [hunseen style (marked "1") (marked "2") hsame, hsecond] at hfirst
  exact absurd hfirst (by decide)

end ForumPost
