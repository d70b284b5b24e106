import ForumPost.Proofs.Article.Tree
import ForumPost.Proofs.Text.Compact
import ForumPost.Transcript

/-!
# The rules of a transcript

`Style.transcribe` goes by the kind of a node and, for some kinds, by its
classes.  `Node.rule` names the outcome of that choice, so that the choice is
made in one place: `transcribe_eq_writtenBy` says that a node is written by its
rule, and every proof about transcripts splits on the rule.

There are three groups of rules.

* A rule that does not descend looks at no child.  It leaves the node out,
  writes one fragment from its text and attributes, or fails.
* `passOn` gives the fragments of the children as they are.
* `gather` makes one fragment of the fragments of the children.

`Node.handled` lists the nodes that a transcript comes by: the node itself, and
below a node whose rule descends its children.
-/

namespace ForumPost

/-- The ways to make one fragment of the fragments of the children. -/
inductive Gathering where
  | listItem
  | paragraph
  | quotation
  | sidenote
  | gameContent
  deriving DecidableEq

/-- The rules by which the nodes of an article are written. -/
inductive Rule where
  /-- Left out with all that the node holds. -/
  | leftOut
  /-- The text of the node, if there is any. -/
  | plain
  /-- The text between the marks of an inline element. -/
  | inline
  | heading (level : Nat)
  | footer
  | newThought
  /-- A link, or only its text. -/
  | anchor
  /-- The first image below the node. -/
  | image
  | table
  /-- The fragments of the children as they are. -/
  | passOn
  | gather (gathering : Gathering)
  /-- A failure, since nothing is known about the tag. -/
  | stray
  /-- A failure, since the element wraps something unknown. -/
  | unknownWrapper
  deriving DecidableEq

namespace Rule

/-- Are the children of a node written one by one? -/
def descends : Rule → Bool
  | passOn => true
  | gather _ => true
  | _ => false

end Rule

namespace Node

/-- The rule for a node. -/
def rule (node : Node) : Rule :=
  match node.kind with
  | .superscript | .subscript | .inlineFrame | .script | .noScript | .aside | .details
  | .rule | .lineBreak | .label | .input | .preformatted => .leftOut
  | .text | .citation | .time => .plain
  | .code | .emphasis | .struck | .strong | .italic | .bold | .deleted => .inline
  | .heading level => .heading level
  | .footer => .footer
  | .bulletList | .numberedList | .definitionList => .passOn
  | .listItem => .gather .listItem
  | .paragraph => .gather .paragraph
  | .quotation => .gather .quotation
  | .sectioning =>
    if node.hasClass "open-game-content" then .gather .gameContent else .unknownWrapper
  | .division => if node.hasClass "table-wrapper" then .passOn else .unknownWrapper
  | .anchor => .anchor
  | .table => .table
  | .figure => .image
  | .span =>
    if node.hasClass "marginfigure" then .image
    else if node.hasClass "sidenote" || node.hasClass "marginnote" then .gather .sidenote
    else if node.hasClass "newthought" then .newThought
    else .leftOut
  | .image | .caption | .tableHead | .tableBody | .tableFoot | .tableRow | .headerCell
  | .dataCell | .other _ => .stray

mutual

/-- The nodes that a transcript comes by, in document order. -/
def handled : Node → List Node
  | text content => [text content]
  | comment => [comment]
  | element kind tag attributes classes children =>
    let node := element kind tag attributes classes children
    node :: if node.rule.descends then handledOf children else []

/-- The nodes that the transcripts of nodes come by, in document order. -/
def handledOf : List Node → List Node
  | [] => []
  | node :: rest => node.handled ++ handledOf rest

end

theorem handledOf_eq_flatMap (nodes : List Node) : handledOf nodes = nodes.flatMap handled := by
  induction nodes with
  | nil => rfl
  | cons node rest ih => rw [handledOf, ih, List.flatMap_cons]

theorem handled_eq (node : Node) :
    node.handled =
      node :: if node.rule.descends then node.children.flatMap handled else [] := by
  cases node with
  | text content => rfl
  | comment => rfl
  | element kind tag attributes classes nodes => rw [handled, handledOf_eq_flatMap, children]

theorem mem_handled_self (node : Node) : node ∈ node.handled := by
  rw [handled_eq]
  exact List.mem_cons_self ..

theorem mem_handled_of_mem_children {node child found : Node} (hrule : node.rule.descends = true)
    (hchild : child ∈ node.children) (hfound : found ∈ child.handled) :
    found ∈ node.handled := by
  rw [handled_eq, if_pos hrule]
  exact List.mem_cons_of_mem node (List.mem_flatMap.mpr ⟨child, hchild, hfound⟩)

/-- A transcript comes by a node, and by what the transcripts of its children come by. -/
theorem forall_mem_handled_iff {p : Node → Prop} {node : Node} :
    (∀ found ∈ node.handled, p found) ↔
      p node ∧ (node.rule.descends = true →
        ∀ child ∈ node.children, ∀ found ∈ child.handled, p found) := by
  rw [handled_eq, List.forall_mem_cons]
  refine and_congr_right fun _ => ?_
  split
  · rename_i hrule
    simp only [List.mem_flatMap, hrule, true_imp_iff]
    constructor
    · intro hall child hchild found hfound
      exact hall found ⟨child, hchild, hfound⟩
    · rintro hall found ⟨child, hchild, hfound⟩
      exact hall child hchild found hfound
  · rename_i hrule
    simp [hrule]

/-- A transcript comes by nodes of the article only. -/
theorem mem_preorder_of_mem_handled {node found : Node} (hfound : found ∈ node.handled) :
    found ∈ node.preorder := by
  induction node using inductionOnChildren with
  | step node ih =>
    rw [handled_eq] at hfound
    rcases List.mem_cons.mp hfound with rfl | hbelow
    · exact mem_preorder_self found
    · split at hbelow
      · obtain ⟨child, hchild, hfound⟩ := List.mem_flatMap.mp hbelow
        exact mem_preorder_of_mem_children hchild (ih child hchild hfound)
      · cases hbelow

end Node

namespace Style

/-- One fragment made of the fragments of the children. -/
def gathered (style : Style) : Gathering → Fragments → Text
  | .listItem => listItem
  | .paragraph => Fragments.joined " "
  | .quotation => style.quotation
  | .sidenote => style.sidenote
  | .gameContent => style.openGameContent

/-- The transcript of a node by a rule. -/
def writtenBy (style : Style) (rule : Rule) (node : Node) : Transcript :=
  match rule with
  | .leftOut => .empty
  | .plain => plainText node.words
  | .inline => .ofResult (style.inlineElement node.tag (Text.strip node.words))
  | .heading level => .ofResult (style.heading level (Text.strip node.words))
  | .footer => .single (style.footer (Text.collapse node.words))
  | .newThought => .single (style.newThought node.words)
  | .anchor => style.anchor (node.attribute? "href") node.words
  | .image => style.imageOf node.firstImageSource?
  | .table => .ofResult (style.table (.ofNode node))
  | .passOn => style.transcribeAll node.children
  | .gather gathering => (style.transcribeAll node.children).gather (style.gathered gathering)
  | .stray => .failed (.atElement node.tag)
  | .unknownWrapper => .failed (.atWrapper node.tag)

/-- A node is written by its rule. -/
theorem transcribe_eq_writtenBy (style : Style) (node : Node) :
    style.transcribe node = style.writtenBy node.rule node := by
  cases node with
  | text content => rw [transcribe]; rfl
  | comment => rw [transcribe]; rfl
  | element kind tag attributes classes children =>
    cases kind
    -- Only the kinds that go by a class need to be looked at any further.
    case sectioning | division | span =>
      simp only [transcribe, Node.rule, Node.kind]
      repeat' split
      all_goals rfl
    all_goals
      rw [transcribe]
      rfl

/-- An inline element that could be written has markup in the dialect. -/
theorem inlineElement_eq_ok {style : Style} {tag text written : Text}
    (hwritten : style.inlineElement tag text = .ok written) :
    (style.dialect = .reddit → Reddit.inline? tag text = some written) ∧
      (style.dialect = .rpgGeek → RpgGeek.inline? tag text = some written) := by
  unfold inlineElement at hwritten
  dsimp only at hwritten
  split at hwritten
  · rename_i inline hinline
    rw [Except.ok.inj hwritten] at hinline
    constructor
    · intro hdialect
      rwa [hdialect] at hinline
    · intro hdialect
      rwa [hdialect] at hinline
  · cases hwritten

/-- So has a heading. -/
theorem heading_eq_ok {style : Style} {level : Nat} {text written : Text}
    (hwritten : style.heading level text = .ok written) :
    (style.dialect = .reddit → Reddit.heading? level text = some written) ∧
      (style.dialect = .rpgGeek → RpgGeek.heading? level text = some written) := by
  unfold heading at hwritten
  dsimp only at hwritten
  split at hwritten
  · rename_i heading hheading
    rw [Except.ok.inj hwritten] at hheading
    constructor
    · intro hdialect
      rwa [hdialect] at hheading
    · intro hdialect
      rwa [hdialect] at hheading
  · cases hwritten

end Style

/-- Growing the last fragment grows the join. -/
theorem Fragments.join_growLast (separator suffix : Text) {fragments : Fragments}
    (hfragments : fragments ≠ []) :
    Text.join separator (fragments.growLast suffix) = Text.join separator fragments ++ suffix := by
  fun_induction Fragments.growLast suffix fragments with
  | case1 => exact absurd rfl hfragments
  | case2 last => simp
  | case3 fragment rest hrest ih =>
    cases rest with
    | nil => exact absurd rfl hrest
    | cons second rest =>
      have hgrown := ih (List.cons_ne_nil second rest)
      cases hcons : Fragments.growLast suffix (second :: rest) with
      | nil =>
        have hlength := length_growLast suffix (second :: rest)
        rw [hcons] at hlength
        simp at hlength
      | cons other others =>
        rw [hcons] at hgrown
        rw [Text.join_cons_cons, hgrown, Text.join_cons_cons, List.append_assoc _ _ suffix]

/-- A list item is a bullet, its fragments behind spaces, and a line feed. -/
theorem Style.listItem_eq (fragments : Fragments) :
    Style.listItem fragments =
      "*".toList ++ fragments.flatMap (" ".toList ++ ·) ++ "\n".toList := by
  rw [Style.listItem, Fragments.joined, Fragments.join_growLast _ _ (List.cons_ne_nil _ _),
    Text.join_cons]
  rfl

/-! ## Transcripts of several nodes -/

namespace Transcript

@[simp] theorem fragments_empty : empty.fragments = [] := rfl

@[simp] theorem failure_single (fragment : Text) : (single fragment).failure = none := rfl

@[simp] theorem fragments_single (fragment : Text) : (single fragment).fragments = [fragment] := rfl

@[simp] theorem failure_failed (failure : Failure) :
    (failed failure).failure = some failure := rfl

@[simp] theorem fragments_failed (failure : Failure) : (failed failure).fragments = [] := rfl

@[simp] theorem failure_gather (write : Fragments → Text) (transcript : Transcript) :
    (transcript.gather write).failure = transcript.failure := by
  rw [gather]
  split
  · rename_i hfailure
    rw [hfailure, failure_single]
  · rename_i hfailure
    rw [hfailure, failure_failed]

theorem fragments_gather {write : Fragments → Text} {transcript : Transcript}
    (hfailure : transcript.failure = none) :
    (transcript.gather write).fragments = [write transcript.fragments] := by
  simp [gather, hfailure]

theorem mem_fragments_gather {write : Fragments → Text} {transcript : Transcript}
    {fragment : Text} (hfragment : fragment ∈ (transcript.gather write).fragments) :
    fragment = write transcript.fragments := by
  rw [gather] at hfragment
  split at hfragment
  · simpa using hfragment
  · simp at hfragment

theorem mem_fragments_ofResult {result : Except Failure Text} {fragment : Text} :
    fragment ∈ (ofResult result).fragments ↔ result = .ok fragment := by
  cases result with
  | error failure => simp [ofResult]
  | ok written => simp [ofResult, eq_comm]

/-- A result that did not fail gives one fragment. -/
theorem ofResult_of_failure_eq_none {result : Except Failure Text}
    (hfailure : (ofResult result).failure = none) :
    ∃ written, result = .ok written ∧ (ofResult result).fragments = [written] := by
  cases result with
  | error failure => cases hfailure
  | ok written => exact ⟨written, rfl, rfl⟩

theorem failure_andThen (first second : Transcript) :
    (first.andThen second).failure = first.failure.or second.failure := by
  cases first with
  | mk fragments failure => cases failure <;> rfl

theorem fragments_andThen {first second : Transcript} (hfirst : first.failure = none) :
    (first.andThen second).fragments = first.fragments ++ second.fragments := by
  simp [andThen, hfirst]

end Transcript

namespace Style

theorem failure_plainText (text : Text) : (plainText text).failure = none := by
  unfold plainText
  dsimp only
  split <;> rfl

theorem failure_anchor (style : Style) (address : Option Text) (text : Text) :
    (style.anchor address text).failure = none := by
  cases address with
  | none => rfl
  | some url =>
    rw [anchor]
    split <;> rfl

theorem failure_imageOf (style : Style) (source? : Option Text) :
    (style.imageOf source?).failure = none := by
  cases source? <;> rfl

theorem mem_fragments_plainText {text fragment : Text}
    (hfragment : fragment ∈ (plainText text).fragments) : fragment = Text.strip text := by
  unfold plainText at hfragment
  dsimp only at hfragment
  split at hfragment
  · simp at hfragment
  · exact List.mem_singleton.mp hfragment

theorem mem_fragments_anchor {style : Style} {address : Option Text} {text fragment : Text}
    (hfragment : fragment ∈ (style.anchor address text).fragments) :
    ∃ url, address = some url ∧
      (fragment = Text.strip text ∨ fragment = style.link url (Text.strip text)) := by
  cases address with
  | none => simp [anchor] at hfragment
  | some url =>
    refine ⟨url, rfl, ?_⟩
    simp only [anchor] at hfragment
    split at hfragment
    · exact .inl (List.mem_singleton.mp hfragment)
    · exact .inr (List.mem_singleton.mp hfragment)

theorem mem_fragments_imageOf {style : Style} {source? : Option Text} {fragment : Text}
    (hfragment : fragment ∈ (style.imageOf source?).fragments) :
    ∃ source, source? = some source ∧ fragment = style.image source := by
  cases source? with
  | none => simp [imageOf] at hfragment
  | some source => exact ⟨source, rfl, List.mem_singleton.mp hfragment⟩

variable (style : Style)

/-- Nodes fail with the failure of the first node that fails. -/
theorem failure_transcribeAll (nodes : List Node) :
    (style.transcribeAll nodes).failure =
      nodes.findSome? fun node => (style.transcribe node).failure := by
  induction nodes with
  | nil => rfl
  | cons node rest ih =>
    rw [transcribeAll, Transcript.failure_andThen, ih, List.findSome?_cons]
    cases (style.transcribe node).failure <;> rfl

/-- Nodes that do not fail give their fragments one after the other. -/
theorem fragments_transcribeAll {nodes : List Node}
    (hfailure : (style.transcribeAll nodes).failure = none) :
    (∀ node ∈ nodes, (style.transcribe node).failure = none) ∧
      (style.transcribeAll nodes).fragments =
        nodes.flatMap fun node => (style.transcribe node).fragments := by
  have hnodes : ∀ node ∈ nodes, (style.transcribe node).failure = none := by
    rw [failure_transcribeAll, List.findSome?_eq_none_iff] at hfailure
    exact hfailure
  refine ⟨hnodes, ?_⟩
  clear hfailure
  induction nodes with
  | nil => rfl
  | cons node rest ih =>
    rw [transcribeAll, Transcript.fragments_andThen (hnodes node (List.mem_cons_self ..)),
      ih fun other hother => hnodes other (List.mem_cons_of_mem node hother), List.flatMap_cons]

/-- A fragment of nodes is a fragment of one of them, also if they fail. -/
theorem exists_of_mem_fragments_transcribeAll {nodes : List Node} {fragment : Text}
    (hfragment : fragment ∈ (style.transcribeAll nodes).fragments) :
    ∃ node ∈ nodes, fragment ∈ (style.transcribe node).fragments := by
  induction nodes with
  | nil => simp [transcribeAll] at hfragment
  | cons node rest ih =>
    rw [transcribeAll, Transcript.andThen] at hfragment
    split at hfragment
    · rcases List.mem_append.mp hfragment with hnode | hrest
      · exact ⟨node, List.mem_cons_self .., hnode⟩
      · obtain ⟨other, hother, hfragment⟩ := ih hrest
        exact ⟨other, List.mem_cons_of_mem node hother, hfragment⟩
    · exact ⟨node, List.mem_cons_self .., hfragment⟩

end Style

end ForumPost
