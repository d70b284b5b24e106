import ForumPost.Proofs.Text.Strip
import ForumPost.Proofs.Transcript.Blocks

/-!
# How a post is put together

A post that could be made is the title, the banner, the body and the banner
again.  The body is recovered from the blocks by their number; it is what the
nodes of the article gave.

The blocks of nodes are made one node at a time, and no node sees the blocks of
another.  Hence the blocks of two lists of nodes are those of the first list
and then those of the second, and nodes fail with the failure of the first of
them that fails (`Style.blocks_append_eq_ok_iff`, `Style.blocks_eq_error_iff`).

Several things may be wrong with a page at once.  `Post.obstacles` lists them in
order of precedence, and the first of them is what no post is made for.
-/

namespace ForumPost

/-! ## The blocks of nodes -/

namespace Style

variable (style : Style)

/-- Nodes fail with the failure of the first node that fails. -/
theorem blocks_eq_error_iff {nodes : List Node} {failure : Failure} :
    style.blocks nodes = .error failure ↔
      (nodes.findSome? fun node => (style.transcribe node).failure) = some failure := by
  induction nodes with
  | nil => simp [blocks]
  | cons node rest ih =>
    rw [List.findSome?_cons, blocks, block?, Transcript.toExcept]
    cases (style.transcribe node).failure with
    | some found => simp [bind, Except.bind]
    | none =>
      dsimp only
      rw [← ih]
      cases style.blocks rest with
      | error found => simp [bind, Except.bind]
      | ok others => simp [bind, Except.bind, pure, Except.pure]

/-- Nodes of which none fails give the blocks of their fragments. -/
theorem blocks_eq_ok_iff {nodes : List Node} {body : List Text} :
    style.blocks nodes = .ok body ↔
      (∀ node ∈ nodes, (style.transcribe node).failure = none) ∧
        body = nodes.filterMap fun node => (style.transcribe node).fragments.block? := by
  constructor
  · exact blocks_eq_ok
  · rintro ⟨hnone, rfl⟩
    cases hblocks : style.blocks nodes with
    | ok body => rw [(blocks_eq_ok hblocks).2]
    | error failure =>
      have hfirst := style.blocks_eq_error_iff.mp hblocks
      rw [List.findSome?_eq_none_iff.mpr hnone] at hfirst
      cases hfirst

/-- Two lists of nodes give blocks exactly if each of them does, and then the
blocks of the one and of the other. -/
theorem blocks_append_eq_ok_iff {first second : List Node} {body : List Text} :
    style.blocks (first ++ second) = .ok body ↔
      ∃ front back, style.blocks first = .ok front ∧ style.blocks second = .ok back ∧
        body = front ++ back := by
  simp only [blocks_eq_ok_iff, List.filterMap_append, List.mem_append]
  constructor
  · rintro ⟨hnone, rfl⟩
    exact ⟨_, _, ⟨fun node hnode => hnone node (.inl hnode), rfl⟩,
      ⟨fun node hnode => hnone node (.inr hnode), rfl⟩, rfl⟩
  · rintro ⟨front, back, ⟨hfirst, rfl⟩, ⟨hsecond, rfl⟩, rfl⟩
    exact ⟨fun node hnode => hnode.elim (hfirst node) (hsecond node), rfl⟩

end Style

/-! ## What is wrong with a page -/

namespace Post

/-- The nodes of the article of a page; none if the page has no content. -/
def article (page : Html.Page) : List Node :=
  page.content?.toList.flatMap articleNodes

theorem article_of_content {page : Html.Page} {content : Html.Node}
    (hcontent : page.content? = some content) : article page = articleNodes content := by
  rw [article, hcontent, Option.toList_some, List.flatMap_singleton]

/-- What is wrong with a page, in order of precedence: that it has no address,
that it has no content, and the failures of the nodes of its article. -/
def obstacles (style : Style) (page : Html.Page) : List Failure :=
  (if page.canonicalUrl?.isNone then [.noCanonicalAddress] else []) ++
    (if page.content?.isNone then [.noContent] else []) ++
      (article page).filterMap fun node => (style.transcribe node).failure

/-- No post is made for the first thing that is wrong with a page. -/
theorem ofPage_eq_error_iff {style : Style} {page : Html.Page} {failure : Failure} :
    ofPage style page = .error failure ↔ (obstacles style page).head? = some failure := by
  unfold ofPage obstacles article
  cases page.canonicalUrl? with
  | none => simp
  | some url =>
    cases page.content? with
    | none => simp
    | some content =>
      have hblocks : style.blocks (articleNodes content) = .error failure ↔
          ((articleNodes content).findSome? fun node => (style.transcribe node).failure) =
            some failure := style.blocks_eq_error_iff
      simp only [Option.isNone_some, Bool.false_eq_true, if_false, List.nil_append,
        Option.toList_some, List.flatMap_singleton, List.head?_filterMap, ← hblocks]
      cases style.blocks (articleNodes content) with
      | error found => simp [bind, Except.bind]
      | ok body => simp [bind, Except.bind, pure, Except.pure]

/-- What is true of a post that was made of a page. -/
structure MadeOf (style : Style) (page : Html.Page) (post : Post) : Prop where
  blocks_eq : post.blocks = ["# ".toList ++ post.title, style.banner post.canonicalUrl] ++
    post.body ++ [style.banner post.canonicalUrl]
  title_eq : post.title = page.title
  strip_title : Text.strip post.title = post.title
  canonicalUrl?_eq : page.canonicalUrl? = some post.canonicalUrl
  body_eq : ∃ content, page.content? = some content ∧
    style.blocks (articleNodes content) = .ok post.body

theorem madeOf_ofPage {style : Style} {page : Html.Page} {post : Post}
    (hpost : ofPage style page = .ok post) : MadeOf style page post := by
  obtain ⟨url, content, body, hurl, hcontent, hbody, rfl⟩ := ofPage_eq_ok hpost
  refine ⟨?_, rfl, ?_, hurl, content, hcontent, ?_⟩
  · rw [body_assembled]
    rfl
  · exact Text.strip_strip _
  · rw [body_assembled, hbody]

end Post

/-- The shape of posts and the order of failures.  A post that could be made is
the stripped title, the banner, the blocks of the article and the banner.  The
blocks of two lists of nodes are made exactly if those of both are, and stand
one after the other; nodes fail with the first failure.  A page fails with the
first thing that is wrong with it, and before that with a dialect that nobody
knows, whatever the page is. -/
theorem post_composition :
    (∀ style page post, Post.ofPage style page = .ok post → Post.MadeOf style page post) ∧
    (∀ (style : Style) first second body, style.blocks (first ++ second) = .ok body ↔
      ∃ front back, style.blocks first = .ok front ∧ style.blocks second = .ok back ∧
        body = front ++ back) ∧
    (∀ (style : Style) nodes failure, style.blocks nodes = .error failure ↔
      (nodes.findSome? fun node => (style.transcribe node).failure) = some failure) ∧
    (∀ style page failure, Post.ofPage style page = .error failure ↔
      (Post.obstacles style page).head? = some failure) ∧
    ∀ name site text, Post.inDialect name site text =
      match Dialect.ofId? name with
      | none => .error (.unknownDialect name)
      | some dialect => Post.ofPage { dialect, site } (Html.parse text) := by
  refine ⟨?_, ?_, ?_, ?_, ?_⟩
  · intro style page post hpost
    exact Post.madeOf_ofPage hpost
  · intro style first second body
    exact style.blocks_append_eq_ok_iff
  · intro style nodes failure
    exact style.blocks_eq_error_iff
  · intro style page failure
    exact Post.ofPage_eq_error_iff
  · intro name site text
    rw [Post.inDialect, Dialect.ofId]
    cases Dialect.ofId? name <;> rfl

/-- The small page as a post, a page without an address whose content fails, and
a dialect that nobody knows. -/
theorem post_composition_quotation :
    let style : Style := { dialect := .rpgGeek }
    let post := Post.assembled [] "z".toList (style.banner "z".toList)
      ["[q]\n\none\n\n[url=x/y]one[/url]\n\n[/q]".toList]
    let mark : Html.Node := .element .html "mark".toList [] []
    let classes : Html.Attribute := ⟨"class".toList, "content".toList, false⟩
    let page : Html.Page := [.element .html "div".toList [classes] [mark]]
    Post.ofPage style samplePage = .ok post ∧ Post.MadeOf style samplePage post ∧
      Post.obstacles style page = [.noCanonicalAddress, .strayElement "MARK".toList] ∧
      Post.ofPage style page = .error .noCanonicalAddress ∧
      Post.inDialect "geocities".toList {} "<p>".toList =
        .error (.unknownDialect "geocities".toList) := by
  intro style post mark classes page
  have hpost : Post.ofPage style samplePage = .ok post := by decide +kernel
  have hobstacles : Post.obstacles style page =
      [.noCanonicalAddress, .strayElement "MARK".toList] := by
    decide +kernel
  have hunknown : Dialect.ofId? "geocities".toList = none := by decide
  obtain ⟨hmade, -, -, herror, hdialect⟩ := post_composition
  refine ⟨hpost, hmade style samplePage post hpost, hobstacles, ?_, ?_⟩
  · rw [herror, hobstacles]
    rfl
  · rw [hdialect, hunknown]

end ForumPost
