import ForumPost.Proofs.Transcript.Failure

/-!
# Unknown elements

An element of an unknown kind makes a transcript fail, at whatever depth it
stands, as long as it is not below a node that is written as a whole
(`unknown_fails`).  Nodes that are written as a whole are the ones that are left
out and the ones that are written from their text, their cells or their first
image; no child of such a node is looked at as a node.  Such a node fails only
for what it is itself, and in a page without escape characters that is code for
Reddit.  So an unknown element inside of a heading goes unnoticed
(`unknown_unnoticed_in_heading`).

`Node.outside` lists the nodes of a tree outside of subtrees that are skipped.
There are more of them than a transcript comes by, since a division of no known
class fails before its children are reached.  The induction is on the way down
to the unknown element: every node on that way passes on the failure of its
child, or fails itself.
-/

namespace ForumPost

namespace Rule

/-- Is a node written without a look at its children as nodes? -/
def isWhole : Rule → Bool
  | leftOut | plain | inline | heading _ | footer | newThought | anchor | image | table => true
  | passOn | gather _ | stray | unknownWrapper => false

theorem descends_of_isWhole {rule : Rule} (hwhole : rule.isWhole = true) :
    rule.descends = false := by
  cases rule with
  | passOn | gather gathering => cases hwhole
  | _ => rfl

end Rule

namespace Node

/-! ## The nodes outside of some subtrees -/

mutual

/-- A node and what is below it, in document order, without the subtrees at
nodes that are skipped. -/
def outside (skip : Node → Bool) : Node → List Node
  | text content => if skip (text content) then [] else [text content]
  | comment => if skip comment then [] else [comment]
  | element kind tag attributes classes children =>
    let node := element kind tag attributes classes children
    if skip node then [] else node :: outsideOf skip children

/-- Nodes and what is below them, without the subtrees at nodes that are
skipped. -/
def outsideOf (skip : Node → Bool) : List Node → List Node
  | [] => []
  | node :: rest => node.outside skip ++ outsideOf skip rest

end

section Outside

variable (skip : Node → Bool)

theorem outsideOf_eq_flatMap (nodes : List Node) :
    outsideOf skip nodes = nodes.flatMap (outside skip) := by
  induction nodes with
  | nil => rfl
  | cons node rest ih => rw [outsideOf, ih, List.flatMap_cons]

theorem outside_eq (node : Node) :
    node.outside skip =
      if skip node then [] else node :: node.children.flatMap (outside skip) := by
  cases node with
  | text content => rfl
  | comment => rfl
  | element kind tag attributes classes nodes => rw [outside, outsideOf_eq_flatMap, children]

variable {skip}

theorem mem_outside {node found : Node} :
    found ∈ node.outside skip ↔
      skip node = false ∧ (found = node ∨ ∃ child ∈ node.children, found ∈ child.outside skip) := by
  rw [outside_eq]
  cases skip node <;> simp

end Outside

/-! ## Nodes that are written as a whole -/

/-- Is a node written as a whole? -/
def isWhole (node : Node) : Bool :=
  node.rule.isWhole

theorem rule_of_kind_other {node : Node} {name : Text} (hkind : node.kind = .other name) :
    node.rule = .stray := by
  rw [rule, hkind]

/-- A node that is not written as a whole and does not descend fails. -/
theorem offence?_isSome_of_not_descends {node : Node} (hwhole : node.isWhole = false)
    (hrule : node.rule.descends = false) (dialect : Dialect) :
    (node.offence? dialect).isSome = true := by
  unfold isWhole at hwhole
  unfold offence?
  cases hcase : node.rule with
  | stray | unknownWrapper => rfl
  | passOn | gather gathering =>
    rw [hcase] at hrule
    cases hrule
  | _ =>
    rw [hcase] at hwhole
    cases hwhole

/-- What is wrong with a node is never that a grid cannot be drawn. -/
theorem offence?_ne_brokenGrid {node : Node} {dialect : Dialect} :
    node.offence? dialect ≠ some .brokenGrid := by
  unfold offence?
  cases node.rule with
  | inline | heading level =>
    dsimp only
    split
    · exact nofun
    · exact fun heq => Failure.noConfusion (Option.some.inj heq)
  | _ => exact nofun

/-- On the way down to an unknown element a transcript comes by a node that
fails. -/
theorem exists_offence_of_mem_outside {node found : Node} (hfound : found ∈ node.outside isWhole)
    (hstray : found.rule = .stray) (dialect : Dialect) :
    ∃ offender ∈ node.handled, offender.rule ≠ .table ∧
      (offender.offence? dialect).isSome = true := by
  induction node using inductionOnChildren with
  | step node ih =>
    obtain ⟨hwhole, hplace⟩ := mem_outside.mp hfound
    by_cases hrule : node.rule.descends = true
    · rcases hplace with rfl | ⟨child, hchild, hbelow⟩
      · rw [hstray] at hrule
        cases hrule
      · obtain ⟨offender, hoffender, hoffence⟩ := ih child hchild hbelow
        exact ⟨offender, mem_handled_of_mem_children hrule hchild hoffender, hoffence⟩
    · refine ⟨node, mem_handled_self node, ?_, ?_⟩
      · intro htable
        rw [isWhole, htable] at hwhole
        cases hwhole
      · exact offence?_isSome_of_not_descends hwhole (Bool.eq_false_iff.mpr hrule) dialect

/-- In an article that comes from a page, nothing is wrong with a node that is
written as a whole, unless it is code for Reddit. -/
theorem Named.offence?_of_isWhole {node : Node} (hnode : node.Named) (hwhole : node.isWhole = true)
    {dialect : Dialect} (hoffence : node.offence? dialect ≠ none) :
    dialect = .reddit ∧ node.tag = "code".toList := by
  unfold isWhole at hwhole
  unfold offence? at hoffence
  cases hrule : node.rule with
  | stray | unknownWrapper =>
    rw [hrule] at hwhole
    cases hwhole
  | heading level =>
    rw [hrule] at hoffence
    exact absurd (if_pos (hnode.heading_level hrule)) hoffence
  | inline =>
    rw [hrule] at hoffence
    rcases hnode.inline_tag hrule dialect with htag | ⟨hreddit, hcode⟩
    · exact absurd (if_pos htag) hoffence
    · rw [← hcode, String.toList_ofList]
      exact ⟨hreddit, rfl⟩
  | _ =>
    rw [hrule] at hoffence
    exact absurd rfl hoffence

end Node

/-- An unknown element that is not below a node that is written as a whole makes
a transcript fail, at whatever depth it stands; the grid of a table can be the
cause only if the article holds an escape character.  What is below a node that
is written as a whole goes unnoticed: in a page without escape characters, such a
node fails only if it is code for Reddit, whatever it holds. -/
theorem unknown_fails (style : Style) :
    (∀ (node found : Node) (name : Text), found ∈ node.outside Node.isWhole →
      found.kind = .other name → ∃ failure, (style.transcribe node).failure = some failure ∧
        (node.TextsSatisfy (· ≠ '\x1b') → failure ≠ .brokenGrid)) ∧
    ∀ source, ∀ node ∈ Node.ofPage source, node.TextsSatisfy (· ≠ '\x1b') →
      node.isWhole = true → (style.transcribe node).failure ≠ none →
        style.dialect = .reddit ∧ node.tag = "code".toList := by
  constructor
  · intro node found name hfound hkind
    have hstray := Node.rule_of_kind_other hkind
    obtain ⟨offender, hoffender, htable, hoffence⟩ :=
      Node.exists_offence_of_mem_outside hfound hstray style.dialect
    rw [← style.failureAt_eq_offence? htable] at hoffence
    obtain ⟨failure, hfailure⟩ : ∃ failure, (style.transcribe node).failure = some failure := by
      rw [← Option.ne_none_iff_exists', style.failure_transcribe, Ne, List.findSome?_eq_none_iff]
      intro hnone
      rw [hnone offender hoffender] at hoffence
      cases hoffence
    refine ⟨failure, hfailure, ?_⟩
    rintro htexts rfl
    rw [style.failure_transcribe] at hfailure
    obtain ⟨broken, hbroken, hgrid⟩ := List.exists_of_findSome?_eq_some hfailure
    have hbelow := htexts.of_mem (Node.mem_preorder_of_mem_handled hbroken)
    rw [style.failureAt_of_noEscape hbelow] at hgrid
    exact Node.offence?_ne_brokenGrid hgrid
  · intro source node hnode htexts hwhole hfailure
    have hnamed := Node.named_of_mem_ofPage source hnode (Node.mem_preorder_self node)
    have hown : style.failureAt node = (style.transcribe node).failure := by
      rw [Style.failureAt, Rule.descends_of_isWhole hwhole, if_neg Bool.false_ne_true]
    rw [← hown, style.failureAt_of_noEscape htexts] at hfailure
    exact hnamed.offence?_of_isWhole hwhole hfailure

/-- An unknown element in a paragraph of a quotation, and one inside of code, for
Reddit. -/
theorem unknown_fails_mark :
    let style : Style := { dialect := .reddit }
    let mark : Node := .element (.other "mark".toList) "mark".toList [] [] [.text "hot".toList]
    let paragraph : Node := .element .paragraph "p".toList [] [] [.text "Some".toList, mark]
    let quotation : Node := .element .quotation "blockquote".toList [] [] [paragraph]
    let source : Html.Node := .element .html "code".toList []
      [.element .html "mark".toList [] [.text "hot".toList]]
    mark ∈ quotation.outside Node.isWhole ∧ quotation.TextsSatisfy (· ≠ '\x1b') ∧
      (∃ failure, (style.transcribe quotation).failure = some failure ∧ failure ≠ .brokenGrid) ∧
      ∀ node ∈ Node.ofPage source, node.TextsSatisfy (· ≠ '\x1b') ∧ node.isWhole = true ∧
        (style.transcribe node).failure ≠ none ∧ node.tag = "code".toList := by
  intro style mark paragraph quotation source
  have hmark : mark ∈ quotation.outside Node.isWhole := by
    have houtside : quotation.outside Node.isWhole = [quotation, paragraph, mark] := rfl
    rw [houtside]
    simp
  have htexts : quotation.TextsSatisfy (· ≠ '\x1b') := by decide +kernel
  have hcode : ∀ node ∈ Node.ofPage source, node.TextsSatisfy (· ≠ '\x1b') ∧
      node.isWhole = true ∧ (style.transcribe node).failure ≠ none := by
    decide +kernel
  obtain ⟨hfails, hwhole⟩ := unknown_fails style
  obtain ⟨failure, hfailure, hgrid⟩ := hfails quotation mark "mark".toList hmark rfl
  refine ⟨hmark, htexts, ⟨failure, hfailure, hgrid htexts⟩, ?_⟩
  intro node hnode
  obtain ⟨hnodeTexts, hnodeWhole, hnodeFails⟩ := hcode node hnode
  exact ⟨hnodeTexts, hnodeWhole, hnodeFails,
    (hwhole source node hnode hnodeTexts hnodeWhole hnodeFails).2⟩

/-- An unknown element that is not in any node that is left out goes unnoticed
inside of a heading, in every dialect. -/
theorem unknown_unnoticed_in_heading :
    let mark : Html.Node := .element .html "mark".toList [] [.text "hot".toList]
    let source : Html.Node :=
      .element .html "h2".toList [] [.text "Some ".toList, mark, .text " take".toList]
    (∀ node ∈ Node.ofPage source, ∀ dialect,
      (Style.transcribe { dialect } node).failure = none) ∧
    ¬ ∀ (style : Style) (source : Html.Node), ∀ node ∈ Node.ofPage source,
      (∃ found ∈ node.outside fun node => node.kind.isLeftOut,
        ∃ name, found.kind = .other name ∧ name ≠ "comment".toList) →
      (style.transcribe node).failure ≠ none := by
  intro mark source
  have hwritten : ∀ node ∈ Node.ofPage source, ∀ dialect,
      (Style.transcribe { dialect } node).failure = none := by
    intro node hnode dialect
    cases dialect <;> revert node <;> decide +kernel
  refine ⟨hwritten, ?_⟩
  intro hfails
  obtain ⟨node, hnode⟩ : ∃ node, Node.ofPage source = [node] := ⟨_, rfl⟩
  have hmem : node ∈ Node.ofPage source := hnode ▸ List.mem_singleton_self node
  have hunknown : ∀ node ∈ Node.ofPage source,
      ∃ found ∈ node.outside fun node => node.kind.isLeftOut, found.kind = .other "mark".toList := by
    decide +kernel
  obtain ⟨found, hfound, hkind⟩ := hunknown node hmem
  exact hfails { dialect := .reddit } source node hmem
    ⟨found, hfound, "mark".toList, hkind, by decide⟩ (hwritten node hmem .reddit)

end ForumPost
