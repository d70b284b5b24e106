import ForumPost.Proofs.Transcript.Failure
import ForumPost.Proofs.Transcript.Nesting
import ForumPost.Proofs.Transcript.Prose

/-!
# Bracket markup adds only tags

An article may hold only such nodes as RPGGeek writes from their words, or as
gather what is below them (`Node.OnlyTagged`).  Then it can be written, and
without the tags and without white space exactly its prose is left, with a
bullet for each list item (`eraseTags_eq_prose`).

That nothing is left out is not enough here: a text that is written twice would
not be in the prose twice.  So the induction is about an equation, and needs to
know that fragments are well nested, since only then are the tags of joined
fragments those of the fragments one by one.
-/

namespace ForumPost

open Brackets
open Text (BracketFree)

/-- Is a node left out, written from its words between tags, or gathered from
its children?  Images, tables and open game content are not, and neither are
nodes that cannot be written. -/
def Node.OnlyTagged (node : Node) : Prop :=
  match node.rule with
  | .leftOut | .plain | .footer | .newThought | .anchor | .passOn => True
  | .inline => String.ofList node.tag ∈ Dialect.rpgGeek.inlineTags
  | .heading level => 1 ≤ level ∧ level ≤ 4
  | .gather gathering => gathering ≠ .gameContent
  | .image | .table | .stray | .unknownWrapper => False

instance (node : Node) : Decidable node.OnlyTagged := by
  unfold Node.OnlyTagged
  split <;> infer_instance

namespace Style

variable {style : Style}

/-- Nodes that are only tagged can be written. -/
theorem failure_of_onlyTagged (hdialect : style.dialect = .rpgGeek) {node : Node}
    (hnodes : ∀ found ∈ node.handled, found.OnlyTagged) :
    (style.transcribe node).failure = none := by
  rw [failure_transcribe, List.findSome?_eq_none_iff]
  intro found hfound
  have htagged := hnodes found hfound
  unfold Node.OnlyTagged at htagged
  have htable : found.rule ≠ .table := by
    intro hrule
    rw [hrule] at htagged
    exact htagged
  rw [style.failureAt_eq_offence? htable, hdialect, Node.offence?]
  cases hrule : found.rule with
  | inline =>
    rw [hrule] at htagged
    exact if_pos htagged
  | heading level =>
    rw [hrule] at htagged
    exact if_pos htagged
  | stray | unknownWrapper =>
    rw [hrule] at htagged
    exact htagged.elim
  | _ => rfl

/-! ## What gathers fragments -/

/-- A list item adds its bullet. -/
theorem bare_listItem {parts : List Text} (hparts : ∀ part ∈ parts, WellNested part) :
    bare (listItem parts) = '*' :: parts.flatMap bare := by
  have hbullet : WellNested "*".toList := by decide
  have hitems : WellNested (parts.flatMap (" ".toList ++ ·)) :=
    WellNested.behind (by decide) hparts
  have hmark : bare "*".toList = ['*'] := by decide
  have hfeed : bare "\n".toList = [] := by decide
  rw [listItem_eq, bare_append (hbullet.append hitems), bare_append hbullet,
    bare_behind (by decide) hparts, hmark, hfeed, List.append_nil]
  rfl

/-- What gathers fragments without open game content adds only tags, and a
bullet to a list item. -/
theorem bare_gathered (hdialect : style.dialect = .rpgGeek) {gathering : Gathering}
    (hgathering : gathering ≠ .gameContent) (node : Node) {fragments : Fragments}
    (hfragments : ∀ fragment ∈ fragments, WellNested fragment) :
    bare (style.gathered gathering fragments) =
      Node.proseBy ['*'] (.gather gathering) node (fragments.flatMap bare) := by
  cases gathering with
  | listItem => exact bare_listItem hfragments
  | paragraph => exact bare_join (by decide) hfragments
  | quotation => exact (gathers_quotation hdialect fragments).bare_eq hfragments
  | sidenote => exact (gathers_sidenote hdialect fragments).bare_eq hfragments
  | gameContent => exact absurd rfl hgathering

/-! ## The whole article -/

section Article

variable {node : Node}

theorem wellNested_of_onlyTagged (hdialect : style.dialect = .rpgGeek)
    (hnodes : ∀ found ∈ node.handled, found.OnlyTagged) (hnode : node.BracketFree ["href"]) :
    ∀ fragment ∈ (style.transcribe node).fragments, WellNested fragment := by
  apply wellNested_transcribe hdialect hnode
  constructor
  · intro found hfound hrule
    have htagged := hnodes found hfound
    rw [Node.OnlyTagged, hrule] at htagged
    exact htagged.elim
  · intro found hfound hrule
    have htagged := hnodes found hfound
    rw [Node.OnlyTagged, hrule] at htagged
    exact absurd rfl htagged

/-- Without tags and white space, the fragments of a transcript are the prose of
the article. -/
theorem bare_transcribe (hdialect : style.dialect = .rpgGeek)
    (hnodes : ∀ found ∈ node.handled, found.OnlyTagged) (hnode : node.BracketFree ["href"]) :
    (style.transcribe node).fragments.flatMap bare = node.prose ['*'] := by
  induction node using Node.inductionOnChildren with
  | step node ih =>
    have hwritten := failure_of_onlyTagged hdialect hnodes
    have hwords : bare (Text.strip node.words) = Text.compact node.words := by
      rw [bare_of_bracketFree (bracketFree_strip hnode.words), Text.compact_strip]
    have hstripped : WellNested (Text.strip node.words) :=
      wellNested_of_bracketFree (bracketFree_strip hnode.words)
    have hchildren : node.rule.descends = true →
        (∀ fragment ∈ (style.transcribeAll node.children).fragments, WellNested fragment) ∧
        (style.transcribeAll node.children).fragments.flatMap bare =
          node.children.flatMap (Node.prose ['*']) := by
      intro hrule
      have hbelow : ∀ child ∈ node.children, ∀ found ∈ child.handled, found.OnlyTagged :=
        fun child hchild found hfound =>
          hnodes found (Node.mem_handled_of_mem_children hrule hchild hfound)
      rw [style.failure_of_descends hrule] at hwritten
      constructor
      · intro fragment hfragment
        obtain ⟨child, hchild, hfragment⟩ := style.exists_of_mem_fragments_transcribeAll hfragment
        exact wellNested_of_onlyTagged hdialect (hbelow child hchild) (hnode.child hchild)
          fragment hfragment
      · rw [(style.fragments_transcribeAll hwritten).2, List.flatMap_assoc]
        exact List.flatMap_congr fun child hchild =>
          ih child hchild (hbelow child hchild) (hnode.child hchild)
    have htagged := hnodes node (Node.mem_handled_self node)
    rw [transcribe_eq_writtenBy] at hwritten ⊢
    rw [Node.prose_eq]
    cases hrule : node.rule with
    | image | table | stray | unknownWrapper =>
      rw [Node.OnlyTagged, hrule] at htagged
      exact htagged.elim
    | leftOut => rfl
    | plain =>
      rw [writtenBy, Node.proseBy, ← flatMap_compact_plainText]
      apply List.flatMap_congr
      intro fragment hfragment
      rw [mem_fragments_plainText hfragment]
      exact bare_of_bracketFree (bracketFree_strip hnode.words)
    | inline =>
      rw [hrule] at hwritten
      obtain ⟨written, hinline, hfragments⟩ := Transcript.ofResult_of_failure_eq_none hwritten
      rw [writtenBy, hfragments, List.flatMap_singleton,
        (tags_inlineElement hdialect hinline).bare_eq hstripped, hwords, Node.proseBy]
    | heading level =>
      rw [hrule] at hwritten
      obtain ⟨written, hheading, hfragments⟩ := Transcript.ofResult_of_failure_eq_none hwritten
      rw [writtenBy, hfragments, List.flatMap_singleton,
        (tags_heading hdialect hheading).bare_eq hstripped, hwords, Node.proseBy]
    | footer =>
      have hcollapsed := bracketFree_collapse hnode.words
      rw [writtenBy, Transcript.fragments_single, List.flatMap_singleton,
        (tags_footer hdialect _).bare_eq (wellNested_of_bracketFree hcollapsed),
        bare_of_bracketFree hcollapsed, Text.compact_collapse, Node.proseBy]
    | newThought =>
      rw [writtenBy, Transcript.fragments_single, List.flatMap_singleton,
        (tags_newThought hdialect _).bare_eq (wellNested_of_bracketFree hnode.words),
        bare_of_bracketFree hnode.words, Node.proseBy]
    | anchor =>
      rw [writtenBy, Node.proseBy]
      cases hurl : node.attribute? "href" with
      | none => rfl
      | some url =>
        rw [Option.isSome_some, if_pos rfl, anchor, ← hwords]
        split
        · rw [Transcript.fragments_single, List.flatMap_singleton]
        · rw [Transcript.fragments_single, List.flatMap_singleton,
            (tags_link hdialect (hnode.attribute (by decide) hurl) _).bare_eq hstripped]
    | passOn =>
      have hbelow := hchildren (by rw [hrule]; rfl)
      exact hbelow.2
    | gather gathering =>
      have hbelow := hchildren (by rw [hrule]; rfl)
      rw [Node.OnlyTagged, hrule] at htagged
      rw [hrule, writtenBy, Transcript.failure_gather] at hwritten
      rw [writtenBy, Transcript.fragments_gather hwritten, List.flatMap_singleton,
        bare_gathered hdialect htagged node hbelow.1, hbelow.2]

end Article

end Style

/-- Bracket markup adds only tags.  If every node that a transcript comes by is
only tagged, and no text and no address of a link holds a bracket, the article
can be written, and erasing the tags and the white space of what is written
leaves the prose of the article: nothing is lost, doubled or moved. -/
theorem eraseTags_eq_prose {style : Style} (hdialect : style.dialect = .rpgGeek) {node : Node}
    (hnodes : ∀ found ∈ node.handled, found.OnlyTagged) (hnode : node.BracketFree ["href"]) :
    (style.transcribe node).failure = none ∧
      Text.compact (eraseTags ((style.transcribe node).fragments.joined " ")) =
        node.prose ['*'] := by
  refine ⟨Style.failure_of_onlyTagged hdialect hnodes, ?_⟩
  have hfragments := Style.wellNested_of_onlyTagged hdialect hnodes hnode
  have hjoined : bare ((style.transcribe node).fragments.joined " ") =
      (style.transcribe node).fragments.flatMap bare := bare_join (by decide) hfragments
  rw [← Style.bare_transcribe hdialect hnodes hnode, ← hjoined, bare]

/-- A list item with a link and strong words. -/
theorem eraseTags_eq_prose_listItem :
    let style : Style := { dialect := .rpgGeek }
    let link : Node := .element .anchor "a".toList [("href".toList, "x/y".toList)] []
      [.text "here ".toList]
    let strong : Node := .element .strong "strong".toList [] [] [.text "and now".toList]
    let node : Node := .element .listItem "li".toList [] [] [link, strong]
    (style.transcribe node).fragments =
        ["* [url=x/y]here[/url] [b]and now[/b]\n".toList] ∧
      Text.compact (eraseTags ((style.transcribe node).fragments.joined " ")) =
        "*hereandnow".toList := by
  intro style link strong node
  have hprose : node.prose ['*'] = "*hereandnow".toList := by decide +kernel
  refine ⟨by decide +kernel, ?_⟩
  rw [← hprose]
  exact (eraseTags_eq_prose rfl (by decide +kernel) (by decide +kernel)).2

end ForumPost
