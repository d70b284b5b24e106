import ForumPost.Proofs.Markup.Reddit
import ForumPost.Proofs.Markup.RpgGeek
import ForumPost.Proofs.Transcript.Blocks

/-!
# The prose of an article is kept

`Node.prose` is the text of a node that has to come out again, without white
space: the words of every node that is written from its words, in the order of
the article.  A bullet may be counted in front of each list item.

Whatever the dialect, nothing of it gets lost and nothing changes its place:
the prose is a sublist of the fragments of the transcript, also when they are
tidied, and of the body of the post (`prose_sublist`).

Each rule deletes white space at most and adds marks.  The two lemmas of every
rule that are needed for this, one for each dialect, are collected in the
section on single fragments, so that the induction does not see the dialect.
-/

namespace ForumPost

namespace Node

/-- The prose of a node by a rule, when the prose of its children is known. -/
def proseBy (bullet : Text) (rule : Rule) (node : Node) (below : Text) : Text :=
  match rule with
  | .plain | .inline | .heading _ | .footer | .newThought => Text.compact node.words
  | .anchor => if (node.attribute? "href").isSome then Text.compact node.words else []
  | .passOn => below
  | .gather .listItem => bullet ++ below
  | .gather _ => below
  | .leftOut | .image | .table | .stray | .unknownWrapper => []

mutual

/-- The text of a node that a transcript has to hold, without white space and
with a bullet in front of each list item. -/
def prose (bullet : Text) : Node → Text
  | text content => Text.compact content
  | comment => []
  | element kind tag attributes classes children =>
    let node := element kind tag attributes classes children
    proseBy bullet node.rule node (proseOf bullet children)

/-- The prose of nodes, one after the other. -/
def proseOf (bullet : Text) : List Node → Text
  | [] => []
  | node :: rest => node.prose bullet ++ proseOf bullet rest

end

theorem proseOf_eq_flatMap (bullet : Text) (nodes : List Node) :
    proseOf bullet nodes = nodes.flatMap (prose bullet) := by
  induction nodes with
  | nil => rfl
  | cons node rest ih => rw [proseOf, ih, List.flatMap_cons]

theorem prose_eq (bullet : Text) (node : Node) :
    node.prose bullet =
      proseBy bullet node.rule node (node.children.flatMap (prose bullet)) := by
  cases node with
  | text content => rfl
  | comment => rfl
  | element kind tag attributes classes nodes => rw [prose, proseOf_eq_flatMap, children]

end Node

namespace Style

/-! ## Single fragments -/

section Fragment

variable {style : Style}

theorem sublist_inlineElement {tag text written : Text}
    (hwritten : style.inlineElement tag text = .ok written) : text.Sublist written := by
  obtain ⟨hreddit, hrpgGeek⟩ := inlineElement_eq_ok hwritten
  cases hdialect : style.dialect with
  | reddit => exact Reddit.sublist_inline (hreddit hdialect)
  | rpgGeek => exact (RpgGeek.tags_inline (hrpgGeek hdialect)).sublist

theorem sublist_heading {level : Nat} {text written : Text}
    (hwritten : style.heading level text = .ok written) : text.Sublist written := by
  obtain ⟨hreddit, hrpgGeek⟩ := heading_eq_ok hwritten
  cases hdialect : style.dialect with
  | reddit => exact Reddit.sublist_heading (hreddit hdialect)
  | rpgGeek => exact (RpgGeek.tags_heading (hrpgGeek hdialect)).sublist

theorem sublist_footer (style : Style) (text : Text) : text.Sublist (style.footer text) := by
  unfold footer
  split
  · exact .refl text
  · exact (RpgGeek.tags_footer text).sublist

theorem sublist_newThought (style : Style) (text : Text) :
    text.Sublist (style.newThought text) := by
  unfold newThought
  split
  · exact Reddit.sublist_between_escape "**" text
  · exact (RpgGeek.tags_newThought text).sublist

theorem sublist_link (style : Style) (url text : Text) : text.Sublist (style.link url text) := by
  unfold link
  split
  · exact Reddit.sublist_link url text
  · -- The address may hold brackets here, so that its tag need not be one.
    exact RpgGeek.sublist_tagged "url" (some url) text

/-- What holds a text holds its words. -/
theorem compact_sublist_singleton {text written : Text} (htext : text.Sublist written) :
    (Text.compact text).Sublist ([written].flatMap Text.compact) := by
  rw [List.flatMap_singleton]
  exact Text.Sublist.compact htext

/-- What holds the parts of a text holds their words. -/
theorem flatMap_compact_sublist {parts : List Text} {written : Text}
    (hparts : parts.flatten.Sublist written) :
    (parts.flatMap Text.compact).Sublist (Text.compact written) := by
  rw [← Text.compact_flatten]
  exact Text.Sublist.compact hparts

theorem flatMap_compact_sublist_quotation (style : Style) (parts : List Text) :
    (parts.flatMap Text.compact).Sublist (Text.compact (style.quotation parts)) := by
  unfold quotation
  split
  · exact flatMap_compact_sublist (Reddit.flatten_sublist_quotation parts)
  · exact (RpgGeek.gathers_quotation parts).sublist

theorem flatMap_compact_sublist_sidenote (style : Style) (parts : List Text) :
    (parts.flatMap Text.compact).Sublist (Text.compact (style.sidenote parts)) := by
  unfold sidenote
  split
  · exact flatMap_compact_sublist (Reddit.flatten_sublist_sidenote parts)
  · exact (RpgGeek.gathers_sidenote parts).sublist

theorem flatMap_compact_sublist_openGameContent (style : Style) (parts : List Text) :
    (parts.flatMap Text.compact).Sublist (Text.compact (style.openGameContent parts)) := by
  rw [openGameContent, Text.compact_join (by decide), List.flatMap_map]
  simp only [Text.compact_strip, List.cons_append, List.flatMap_cons, List.flatMap_append]
  have hclosing : (parts.flatMap Text.compact).Sublist
      (parts.flatMap Text.compact ++ ["END OPEN GAME CONTENT".toList].flatMap Text.compact) :=
    List.sublist_append_left _ _
  exact hclosing.trans (List.sublist_append_right _ _)

/-- What gathers fragments holds their words, in order. -/
theorem flatMap_compact_sublist_gathered (style : Style) (gathering : Gathering)
    (fragments : Fragments) :
    (fragments.flatMap Text.compact).Sublist
      (Text.compact (style.gathered gathering fragments)) := by
  cases gathering with
  | listItem =>
    have hitem : Text.compact (listItem fragments) = '*' :: fragments.flatMap Text.compact := by
      have hfeed : Text.compact "\n".toList = [] := by decide
      have hbullet : Text.compact "*".toList = ['*'] := by decide
      rw [listItem_eq, Text.compact_append, Text.compact_append,
        Text.compact_behind (by decide) fragments, hfeed, hbullet, List.append_nil]
      rfl
    rw [gathered, hitem]
    exact List.sublist_cons_self '*' _
  | paragraph =>
    rw [gathered, Fragments.compact_joined]
  | quotation => exact flatMap_compact_sublist_quotation style fragments
  | sidenote => exact flatMap_compact_sublist_sidenote style fragments
  | gameContent => exact flatMap_compact_sublist_openGameContent style fragments

/-- A plain text that is left out had no words. -/
theorem flatMap_compact_plainText (text : Text) :
    (plainText text).fragments.flatMap Text.compact = Text.compact text := by
  unfold plainText
  dsimp only
  split
  · rename_i hempty
    rw [← Text.compact_strip, List.isEmpty_iff.mp hempty]
    rfl
  · simp

end Fragment

/-! ## The whole article -/

/-- The prose of a node is in the fragments of its transcript. -/
theorem prose_sublist_fragments (style : Style) {node : Node}
    (hwritten : (style.transcribe node).failure = none) :
    (node.prose []).Sublist ((style.transcribe node).fragments.flatMap Text.compact) := by
  induction node using Node.inductionOnChildren with
  | step node ih =>
    have hchildren : (style.transcribeAll node.children).failure = none →
        (node.children.flatMap (Node.prose [])).Sublist
          ((style.transcribeAll node.children).fragments.flatMap Text.compact) := by
      intro hbelow
      obtain ⟨hnone, hfragments⟩ := style.fragments_transcribeAll hbelow
      rw [hfragments, List.flatMap_assoc]
      exact List.Sublist.flatMap_right node.children fun child hchild =>
        ih child hchild (hnone child hchild)
    rw [transcribe_eq_writtenBy] at hwritten ⊢
    rw [Node.prose_eq]
    cases hrule : node.rule with
    | leftOut | image | table | stray | unknownWrapper => exact List.nil_sublist _
    | plain =>
      rw [writtenBy, flatMap_compact_plainText]
      exact .refl _
    | inline =>
      rw [hrule] at hwritten
      obtain ⟨written, hinline, hfragments⟩ := Transcript.ofResult_of_failure_eq_none hwritten
      rw [writtenBy, hfragments, Node.proseBy, ← Text.compact_strip]
      exact compact_sublist_singleton (sublist_inlineElement hinline)
    | heading level =>
      rw [hrule] at hwritten
      obtain ⟨written, hheading, hfragments⟩ := Transcript.ofResult_of_failure_eq_none hwritten
      rw [writtenBy, hfragments, Node.proseBy, ← Text.compact_strip]
      exact compact_sublist_singleton (sublist_heading hheading)
    | footer =>
      rw [writtenBy, Node.proseBy, ← Text.compact_collapse]
      exact compact_sublist_singleton (style.sublist_footer _)
    | newThought => exact compact_sublist_singleton (style.sublist_newThought node.words)
    | anchor =>
      rw [writtenBy, Node.proseBy]
      cases hurl : node.attribute? "href" with
      | none => exact List.nil_sublist _
      | some url =>
        rw [Option.isSome_some, if_pos rfl, ← Text.compact_strip, anchor]
        split
        · exact compact_sublist_singleton (.refl _)
        · exact compact_sublist_singleton (style.sublist_link url _)
    | passOn =>
      rw [hrule] at hwritten
      exact hchildren hwritten
    | gather gathering =>
      rw [hrule, writtenBy, Transcript.failure_gather] at hwritten
      have hgathered := style.flatMap_compact_sublist_gathered gathering
        (style.transcribeAll node.children).fragments
      rw [writtenBy, Transcript.fragments_gather hwritten, List.flatMap_singleton]
      have hprose : Node.proseBy [] (.gather gathering) node
          (node.children.flatMap (Node.prose [])) = node.children.flatMap (Node.prose []) := by
        cases gathering <;> rfl
      rw [hprose]
      exact (hchildren hwritten).trans hgathered

end Style

/-- No prose gets lost or changes its place.  If a node could be written, its
prose is a sublist of the fragments, joined by spaces, and of the block that the
fragments make with any earlier ones in front of them.  If a post could be made,
its body holds the prose of the whole article. -/
theorem prose_sublist (style : Style) :
    (∀ node : Node, (style.transcribe node).failure = none →
      (node.prose []).Sublist (Text.compact ((style.transcribe node).fragments.joined " ")) ∧
      ∀ earlier : Fragments, (node.prose []).Sublist
        (Text.compact (Fragments.tidied (earlier ++ (style.transcribe node).fragments)))) ∧
    ∀ page post content, Post.ofPage style page = .ok post → page.content? = some content →
      ((articleNodes content).flatMap (Node.prose [])).Sublist
        (Text.compact post.body.flatten) := by
  constructor
  · intro node hwritten
    have hprose := style.prose_sublist_fragments hwritten
    refine ⟨?_, fun earlier => ?_⟩
    · rw [Fragments.compact_joined]
      exact hprose
    · rw [Fragments.compact_tidied, List.flatMap_append]
      exact hprose.trans (List.sublist_append_right _ _)
  · intro page post content hpost hcontent
    obtain ⟨url, found, blocks, -, hfound, hblocks, rfl⟩ := Post.ofPage_eq_ok hpost
    obtain rfl : found = content := Option.some.inj (hfound.symm.trans hcontent)
    obtain ⟨hnone, rfl⟩ := Style.blocks_eq_ok hblocks
    rw [Post.body_assembled, Text.compact_flatten, Style.flatMap_compact_blocks]
    exact List.Sublist.flatMap_right (articleNodes found) fun node hnode =>
      style.prose_sublist_fragments (hnone node hnode)

/-- The small page as a post for Reddit. -/
theorem prose_sublist_quotation :
    let style : Style := { dialect := .reddit }
    let post := Post.assembled [] "z".toList (style.banner "z".toList)
      [">one\n>\n>[one](x/y)".toList]
    Post.ofPage style samplePage = .ok post ∧
      (articleNodes sampleContent).flatMap (Node.prose []) = "oneone".toList ∧
      "oneone".toList.Sublist (Text.compact post.body.flatten) ∧
      ∀ node ∈ articleNodes sampleContent, (style.transcribe node).failure = none ∧
        (node.prose []).Sublist (Text.compact ((style.transcribe node).fragments.joined " ")) := by
  intro style post
  have hpost : Post.ofPage style samplePage = .ok post := by decide +kernel
  have hcontent : samplePage.content? = some sampleContent := by rfl
  have hprose : (articleNodes sampleContent).flatMap (Node.prose []) = "oneone".toList := by
    decide +kernel
  have hwritten : ∀ node ∈ articleNodes sampleContent, (style.transcribe node).failure = none := by
    decide +kernel
  have hbody := (prose_sublist style).2 samplePage post sampleContent hpost hcontent
  rw [hprose] at hbody
  exact ⟨hpost, hprose, hbody, fun node hnode =>
    ⟨hwritten node hnode, ((prose_sublist style).1 node (hwritten node hnode)).1⟩⟩

end ForumPost
