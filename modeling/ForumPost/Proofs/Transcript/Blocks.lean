import ForumPost.Post.OfPage
import ForumPost.Proofs.Transcript.Rules

/-!
# The blocks of a post

What a post consists of if it could be made: the title, the banner, a block for
each node that leaves text, and the banner again.  `blocks_eq_ok` and
`Post.ofPage_eq_ok` say this once, so that facts about posts follow from facts
about the transcripts of single nodes.
-/

namespace ForumPost

/-- The block of fragments; there is none if they are all empty. -/
def Fragments.block? (fragments : Fragments) : Option Text :=
  if fragments.isBlank then none else some fragments.tidied

theorem Fragments.block?_eq_some {fragments : Fragments} {block : Text}
    (hblock : fragments.block? = some block) : block = fragments.tidied := by
  unfold block? at hblock
  split at hblock
  · cases hblock
  · exact (Option.some.inj hblock).symm

/-- A block holds the words of its fragments, and there is none only if there
are no words. -/
theorem Fragments.compact_block? (fragments : Fragments) :
    fragments.block?.toList.flatMap Text.compact = fragments.flatMap Text.compact := by
  unfold block?
  by_cases hblank : fragments.isBlank = true
  · have hempty : ∀ fragment ∈ fragments, Text.compact fragment = [] := by
      intro fragment hfragment
      have hnil := List.isEmpty_iff.mp (List.all_eq_true.mp hblank fragment hfragment)
      rw [hnil, Text.compact_nil]
    rw [if_pos hblank, List.flatMap_eq_nil_iff.mpr hempty]
    rfl
  · have htidied := compact_tidied fragments
    rw [if_neg hblank, ← htidied]
    simp

/-- If blocks could be made, no node failed, and each node whose fragments are
not all empty gives the block of its fragments. -/
theorem Style.blocks_eq_ok {style : Style} {nodes : List Node} {blocks : List Text}
    (hblocks : style.blocks nodes = .ok blocks) :
    (∀ node ∈ nodes, (style.transcribe node).failure = none) ∧
      blocks = nodes.filterMap fun node => (style.transcribe node).fragments.block? := by
  induction nodes generalizing blocks with
  | nil =>
    rw [Style.blocks, Except.ok.injEq] at hblocks
    simp [← hblocks]
  | cons node rest ih =>
    rw [Style.blocks, Style.block?, Transcript.toExcept] at hblocks
    cases hfailure : (style.transcribe node).failure with
    | some failure =>
      rw [hfailure] at hblocks
      cases hblocks
    | none =>
      rw [hfailure] at hblocks
      cases hrest : style.blocks rest with
      | error failure =>
        rw [hrest] at hblocks
        cases hblocks
      | ok others =>
        rw [hrest] at hblocks
        obtain ⟨hnodes, hothers⟩ := ih hrest
        refine ⟨?_, ?_⟩
        · intro other hother
          rcases List.mem_cons.mp hother with rfl | hother
          · exact hfailure
          · exact hnodes other hother
        · have heq := Except.ok.inj hblocks
          rw [← heq, List.filterMap_cons, hothers]
          by_cases hblank : (style.transcribe node).fragments.isBlank = true
          · simp [Fragments.block?, hblank]
          · simp [Fragments.block?, hblank]

/-- Leaving out empty blocks and tidying the others loses nothing but white
space. -/
theorem Style.flatMap_compact_blocks (style : Style) (nodes : List Node) :
    (nodes.filterMap fun node => (style.transcribe node).fragments.block?).flatMap Text.compact =
      nodes.flatMap fun node => (style.transcribe node).fragments.flatMap Text.compact := by
  induction nodes with
  | nil => rfl
  | cons node rest ih =>
    have hblock := (style.transcribe node).fragments.compact_block?
    rw [List.filterMap_cons, List.flatMap_cons, ← ih]
    cases hwritten : (style.transcribe node).fragments.block? with
    | none =>
      rw [hwritten] at hblock
      rw [← hblock]
      rfl
    | some block =>
      rw [hwritten] at hblock
      rw [← hblock]
      simp

/-- A post that could be made is assembled from the blocks of its content. -/
theorem Post.ofPage_eq_ok {style : Style} {page : Html.Page} {post : Post}
    (hpost : Post.ofPage style page = .ok post) :
    ∃ url content blocks, page.canonicalUrl? = some url ∧ page.content? = some content ∧
      style.blocks (articleNodes content) = .ok blocks ∧
      post = .assembled page.title url (style.banner url) blocks := by
  rw [Post.ofPage] at hpost
  cases hurl : page.canonicalUrl? with
  | none =>
    rw [hurl] at hpost
    cases hpost
  | some url =>
    rw [hurl] at hpost
    cases hcontent : page.content? with
    | none =>
      rw [hcontent] at hpost
      cases hpost
    | some content =>
      rw [hcontent] at hpost
      cases hblocks : style.blocks (articleNodes content) with
      | error failure =>
        simp only [hblocks] at hpost
        cases hpost
      | ok blocks =>
        simp only [hblocks] at hpost
        exact ⟨url, content, blocks, rfl, rfl, hblocks, (Except.ok.inj hpost).symm⟩

/-- A small element of an article: a quotation with a text and a link. -/
def sampleContent : Html.Node :=
  let words : Html.Node := .text " one ".toList
  let link : Html.Node := .element .html "a".toList [⟨"href".toList, "x/y".toList, false⟩] [words]
  let quotation : Html.Node := .element .html "blockquote".toList [] [words, link]
  .element .html "div".toList [⟨"class".toList, "content".toList, false⟩] [quotation]

/-- A page that holds the small article. -/
def samplePage : Html.Page :=
  [.element .html "link".toList
    [⟨"rel".toList, "canonical".toList, false⟩, ⟨"href".toList, "z".toList, false⟩] [],
    sampleContent]

/-- The post for a page, with the body alone taken from the article. -/
example : (Post.ofPage { dialect := .rpgGeek } samplePage).toOption.map Post.body =
    some ["[q]\n\none\n\n[url=x/y]one[/url]\n\n[/q]".toList] := by
  decide +kernel

end ForumPost
