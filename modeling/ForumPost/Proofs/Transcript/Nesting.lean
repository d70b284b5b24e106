import ForumPost.Proofs.Article.Table
import ForumPost.Proofs.Markup.Grid
import ForumPost.Proofs.Markup.RpgGeek
import ForumPost.Proofs.Transcript.Blocks

/-!
# Posts for RPGGeek are well nested

The bracket markup has no escape, so that an article with brackets in its texts
or addresses can break it.  An article without them cannot: every fragment of
its transcript is well nested, and so is every block of its post
(`rpgGeek_wellNested`).

The induction goes over the article, with the rule of a node as the case split.
Rules that descend get well-nested fragments from the children and put them
together in ways that keep nesting; the other rules put their tags around texts
without brackets.
-/

namespace ForumPost

open Brackets
open Text (BracketFree)

/-- No text of an article holds a bracket, and neither does the value of an
attribute with one of the given names. -/
def Node.BracketFree (names : List String) (node : Node) : Prop :=
  ∀ found ∈ node.preorder, found.ownText.BracketFree ∧
    ∀ name ∈ names, ∀ value ∈ found.attribute? name, Text.BracketFree value

instance (names : List String) (node : Node) : Decidable (node.BracketFree names) :=
  inferInstanceAs (Decidable (∀ found ∈ node.preorder, found.ownText.BracketFree ∧
    ∀ name ∈ names, ∀ value ∈ found.attribute? name, Text.BracketFree value))

section BracketFree

variable {names : List String} {node : Node}

theorem Node.BracketFree.of_mem (hnode : node.BracketFree names) {found : Node}
    (hfound : found ∈ node.preorder) : found.BracketFree names :=
  fun below hbelow => hnode below (Node.mem_preorder_trans hfound hbelow)

theorem Node.BracketFree.child (hnode : node.BracketFree names) {child : Node}
    (hchild : child ∈ node.children) : child.BracketFree names :=
  hnode.of_mem (Node.mem_preorder_of_mem_children hchild (Node.mem_preorder_self child))

theorem Node.BracketFree.texts (hnode : node.BracketFree names) :
    node.TextsSatisfy fun c => c ≠ '[' ∧ c ≠ ']' :=
  fun found hfound => (hnode found hfound).1

theorem Node.BracketFree.words (hnode : node.BracketFree names) :
    Text.BracketFree node.words :=
  hnode.texts.words

theorem Node.BracketFree.attribute (hnode : node.BracketFree names) {name : String}
    (hname : name ∈ names) {value : Text} (hvalue : node.attribute? name = some value) :
    Text.BracketFree value :=
  (hnode node (Node.mem_preorder_self node)).2 name hname value hvalue

theorem Node.BracketFree.firstImageSource (hnode : node.BracketFree names)
    (hname : "src" ∈ names) {source : Text} (hsource : node.firstImageSource? = some source) :
    Text.BracketFree source := by
  obtain ⟨image, hfind, hvalue⟩ := Option.bind_eq_some_iff.mp hsource
  exact (hnode.of_mem (Node.mem_preorder_of_findBelow hfind)).attribute hname hvalue

theorem Node.BracketFree.mono {fewer : List String} (hnode : node.BracketFree names)
    (hfewer : ∀ name ∈ fewer, name ∈ names) : node.BracketFree fewer :=
  fun found hfound => ⟨(hnode found hfound).1, fun name hname =>
    (hnode found hfound).2 name (hfewer name hname)⟩

theorem bracketFree_strip {text : Text} (htext : text.BracketFree) :
    (Text.strip text).BracketFree :=
  fun c hc => htext c (Text.mem_of_mem_strip hc)

theorem bracketFree_collapse {text : Text} (htext : text.BracketFree) :
    (Text.collapse text).BracketFree := by
  intro c hc
  rcases Text.eq_space_or_mem_of_mem_collapse hc with rfl | hc
  · decide
  · exact htext c hc

end BracketFree

namespace Style

/-- The addresses that a transcript writes apart from those of links, of images
and of the licence, hold no bracket. -/
structure AddressesBracketFree (style : Style) (node : Node) : Prop where
  images : ∀ found ∈ node.handled, found.rule = .image →
    ∀ source ∈ found.firstImageSource?, source.BracketFree
  license : ∀ found ∈ node.handled, found.rule = .gather .gameContent →
    style.site.licenseUrl.BracketFree

theorem AddressesBracketFree.child {style : Style} {node child : Node}
    (haddresses : style.AddressesBracketFree node) (hrule : node.rule.descends = true)
    (hchild : child ∈ node.children) : style.AddressesBracketFree child where
  images found hfound :=
    haddresses.images found (Node.mem_handled_of_mem_children hrule hchild hfound)
  license found hfound :=
    haddresses.license found (Node.mem_handled_of_mem_children hrule hchild hfound)

theorem addressesBracketFree_of_sources {style : Style} {node : Node} {names : List String}
    (hnode : node.BracketFree names) (hname : "src" ∈ names)
    (hlicense : style.site.licenseUrl.BracketFree) : style.AddressesBracketFree node where
  images found hfound _ source hsource := by
    have hbelow := hnode.of_mem (Node.mem_preorder_of_mem_handled hfound)
    exact hbelow.firstImageSource hname hsource
  license _ _ _ := hlicense

/-! ## One fragment -/

section RpgGeek

variable {style : Style} (hdialect : style.dialect = .rpgGeek)

include hdialect

theorem tags_inlineElement {tag text written : Text}
    (hwritten : style.inlineElement tag text = .ok written) : RpgGeek.Tags text written :=
  RpgGeek.tags_inline ((inlineElement_eq_ok hwritten).2 hdialect)

theorem tags_heading {level : Nat} {text written : Text}
    (hwritten : style.heading level text = .ok written) : RpgGeek.Tags text written :=
  RpgGeek.tags_heading ((heading_eq_ok hwritten).2 hdialect)

theorem tags_footer (text : Text) : RpgGeek.Tags text (style.footer text) := by
  simp only [footer, hdialect]
  exact RpgGeek.tags_footer text

theorem tags_newThought (text : Text) : RpgGeek.Tags text (style.newThought text) := by
  simp only [newThought, hdialect]
  exact RpgGeek.tags_newThought text

theorem tags_link {url : Text} (hurl : url.BracketFree) (text : Text) :
    RpgGeek.Tags text (style.link url text) := by
  simp only [link, hdialect]
  exact RpgGeek.tags_link hurl text

theorem gathers_quotation (parts : List Text) :
    RpgGeek.Gathers parts (style.quotation parts) := by
  simp only [quotation, hdialect]
  exact RpgGeek.gathers_quotation parts

theorem gathers_sidenote (parts : List Text) : RpgGeek.Gathers parts (style.sidenote parts) := by
  simp only [sidenote, hdialect]
  exact RpgGeek.gathers_sidenote parts

theorem wellNested_image {source : Text} (hsource : source.BracketFree) :
    WellNested (style.image source) := by
  simp only [image, hdialect]
  exact RpgGeek.wellNested_image hsource

theorem wellNested_banner {url : Text} (hname : style.site.name.BracketFree)
    (hurl : url.BracketFree) : WellNested (style.banner url) := by
  simp only [banner, hdialect]
  exact RpgGeek.wellNested_banner hname hurl

/-- A grid has no markup of its own. -/
theorem bracketFree_grid {headers : List Text} {rows : List (List Text)} {drawn : Text}
    (hdrawn : style.grid headers rows = .ok drawn)
    (hcells : ∀ cells ∈ headers :: rows, ∀ cell ∈ cells, cell.BracketFree) :
    drawn.BracketFree := by
  have hborders : BracketFree "+-| \n".toList := by decide
  simp only [grid, hdialect] at hdrawn
  split at hdrawn
  · rename_i found hfound
    rw [← Except.ok.inj hdrawn]
    exact Grid.satisfies_draw? hfound hborders hcells
  · cases hdrawn

theorem wellNested_table {table : Table} (htable : table.TextsSatisfy fun c => c ≠ '[' ∧ c ≠ ']')
    {written : Text} (hwritten : style.table table = .ok written) : WellNested written := by
  have hpadded := htable.padded
  simp only [Style.table] at hwritten
  split at hwritten
  · cases hwritten
  · rename_i drawn hdrawn
    have hgrid := wellNested_of_bracketFree (bracketFree_grid hdialect hdrawn hpadded.cells)
    have hcaption := wellNested_of_bracketFree hpadded.caption
    have hlines : ∀ line ∈ table.padded.footer, WellNested line := fun line hline =>
      wellNested_of_bracketFree (hpadded.footer line hline)
    have hfeed : WellNested ['\n'] := by decide
    rw [← Except.ok.inj hwritten]
    simp only [tableContainer, caption, tableFooter, hdialect]
    apply RpgGeek.wellNested_tableContainer
    refine (WellNested.append ?_ hgrid).append ?_
    · split
      · exact wellNested_nil
      · exact ((RpgGeek.tags_caption _).wellNested hcaption).append hfeed
    · split
      · exact wellNested_nil
      · exact hfeed.append ((RpgGeek.tags_tableFooter _).wellNested (hfeed.join hlines))

omit hdialect in
theorem bracketFree_licenseNotice : BracketFree licenseNotice := by
  -- The notice is a long text, so that its parts are looked at one by one.
  delta licenseNotice
  rw [String.toList_append, String.toList_append]
  refine (BracketFree.append ?_ ?_).append ?_
  all_goals decide +kernel

theorem wellNested_openGameContent (hlicense : style.site.licenseUrl.BracketFree)
    {fragments : Fragments} (hfragments : ∀ fragment ∈ fragments, WellNested fragment) :
    WellNested (style.openGameContent fragments) := by
  have hnotice : WellNested licenseNotice := wellNested_of_bracketFree bracketFree_licenseNotice
  have hpreamble : WellNested style.licensePreamble :=
    (gathers_sidenote hdialect _).wellNested (by simpa using hnotice)
  have hlink : WellNested (style.link style.site.licenseUrl "OPEN GAME CONTENT".toList) :=
    (tags_link hdialect hlicense _).wellNested (by decide)
  apply WellNested.join (by decide)
  intro part hpart
  obtain ⟨text, htext, rfl⟩ := List.mem_map.mp hpart
  apply WellNested.strip
  rw [List.cons_append, List.mem_cons, List.mem_append, List.mem_singleton] at htext
  rcases htext with rfl | hfragment | rfl
  · exact (hpreamble.append (by decide)).append hlink
  · exact hfragments text hfragment
  · decide

/-- What gathers well-nested fragments is well nested. -/
theorem wellNested_gathered {gathering : Gathering}
    (hlicense : gathering = .gameContent → style.site.licenseUrl.BracketFree)
    {fragments : Fragments} (hfragments : ∀ fragment ∈ fragments, WellNested fragment) :
    WellNested (style.gathered gathering fragments) := by
  cases gathering with
  | listItem =>
    simp only [gathered, listItem_eq]
    have hitems : WellNested (fragments.flatMap (" ".toList ++ ·)) :=
      WellNested.behind (by decide) hfragments
    exact (WellNested.append (by decide) hitems).append (by decide)
  | paragraph => exact WellNested.join (by decide) hfragments
  | quotation => exact (gathers_quotation hdialect fragments).wellNested hfragments
  | sidenote => exact (gathers_sidenote hdialect fragments).wellNested hfragments
  | gameContent => exact wellNested_openGameContent hdialect (hlicense rfl) hfragments

/-! ## The whole article -/

/-- Every fragment of a transcript is well nested, also of one that fails. -/
theorem wellNested_transcribe {node : Node} (hnode : node.BracketFree ["href"])
    (haddresses : style.AddressesBracketFree node) :
    ∀ fragment ∈ (style.transcribe node).fragments, WellNested fragment := by
  induction node using Node.inductionOnChildren with
  | step node ih =>
    have hchildren : node.rule.descends = true →
        ∀ fragment ∈ (style.transcribeAll node.children).fragments, WellNested fragment := by
      intro hrule fragment hfragment
      obtain ⟨child, hchild, hfragment⟩ := style.exists_of_mem_fragments_transcribeAll hfragment
      exact ih child hchild (hnode.child hchild) (haddresses.child hrule hchild) fragment hfragment
    have hwords : WellNested node.words := wellNested_of_bracketFree hnode.words
    have hstripped : WellNested (Text.strip node.words) := hwords.strip
    intro fragment hfragment
    rw [transcribe_eq_writtenBy] at hfragment
    cases hrule : node.rule with
    | leftOut | stray | unknownWrapper =>
      rw [hrule] at hfragment
      simp [writtenBy] at hfragment
    | plain =>
      rw [hrule] at hfragment
      rw [mem_fragments_plainText hfragment]
      exact hstripped
    | inline =>
      rw [hrule] at hfragment
      have hwritten := Transcript.mem_fragments_ofResult.mp hfragment
      exact (tags_inlineElement hdialect hwritten).wellNested hstripped
    | heading level =>
      rw [hrule] at hfragment
      have hwritten := Transcript.mem_fragments_ofResult.mp hfragment
      exact (tags_heading hdialect hwritten).wellNested hstripped
    | footer =>
      rw [hrule] at hfragment
      rw [List.mem_singleton.mp hfragment]
      exact (tags_footer hdialect _).wellNested
        (wellNested_of_bracketFree (bracketFree_collapse hnode.words))
    | newThought =>
      rw [hrule] at hfragment
      rw [List.mem_singleton.mp hfragment]
      exact (tags_newThought hdialect node.words).wellNested hwords
    | anchor =>
      rw [hrule] at hfragment
      obtain ⟨url, hurl, rfl | rfl⟩ := mem_fragments_anchor hfragment
      · exact hstripped
      · exact (tags_link hdialect (hnode.attribute (by decide) hurl) _).wellNested hstripped
    | image =>
      rw [hrule] at hfragment
      obtain ⟨source, hsource, rfl⟩ := mem_fragments_imageOf hfragment
      have himage := haddresses.images node (Node.mem_handled_self node) hrule
      exact wellNested_image hdialect (himage source hsource)
    | table =>
      rw [hrule] at hfragment
      exact wellNested_table hdialect (Table.textsSatisfy_ofNode (by decide) hnode.texts)
        (Transcript.mem_fragments_ofResult.mp hfragment)
    | passOn =>
      rw [hrule] at hfragment
      exact hchildren (by rw [hrule]; rfl) fragment hfragment
    | gather gathering =>
      rw [hrule] at hfragment
      rw [Transcript.mem_fragments_gather hfragment]
      apply wellNested_gathered hdialect ?_ (hchildren (by rw [hrule]; rfl))
      rintro rfl
      exact haddresses.license node (Node.mem_handled_self node) hrule

end RpgGeek

end Style

/-- Bracket markup is well nested.  Of an article without brackets in its texts
and in the addresses of its links and images, every fragment is well nested, and
so is the block of any well-nested fragments with those of the article behind
them.  Hence every block of a post is well nested: the title, both banners and
the body. -/
theorem rpgGeek_wellNested {style : Style} (hdialect : style.dialect = .rpgGeek)
    (hname : style.site.name.BracketFree) (hlicense : style.site.licenseUrl.BracketFree) :
    (∀ node : Node, node.BracketFree ["href", "src"] →
      (∀ fragment ∈ (style.transcribe node).fragments, WellNested fragment) ∧
      ∀ earlier : Fragments, (∀ fragment ∈ earlier, WellNested fragment) →
        WellNested (Fragments.tidied (earlier ++ (style.transcribe node).fragments))) ∧
    ∀ page post content, Post.ofPage style page = .ok post → page.content? = some content →
      (∀ node ∈ articleNodes content, node.BracketFree ["href", "src"]) →
      post.title.BracketFree → post.canonicalUrl.BracketFree →
      ∀ block ∈ post.blocks, WellNested block := by
  have hwritten : ∀ node : Node, node.BracketFree ["href", "src"] →
      ∀ fragment ∈ (style.transcribe node).fragments, WellNested fragment := fun node hnode =>
    Style.wellNested_transcribe hdialect (hnode.mono (by simp))
      (Style.addressesBracketFree_of_sources hnode (by decide) hlicense)
  constructor
  · intro node hnode
    have hfragments := hwritten node hnode
    refine ⟨hfragments, fun earlier hearlier => WellNested.tidied ?_⟩
    intro fragment hfragment
    rcases List.mem_append.mp hfragment with hold | hnew
    · exact hearlier fragment hold
    · exact hfragments fragment hnew
  · intro page post content hpost hcontent hnodes htitle hurl block hblock
    obtain ⟨url, found, blocks, -, hfound, hblocks, rfl⟩ := Post.ofPage_eq_ok hpost
    obtain rfl : found = content := Option.some.inj (hfound.symm.trans hcontent)
    obtain ⟨-, rfl⟩ := Style.blocks_eq_ok hblocks
    have hbanner : WellNested (style.banner url) := Style.wellNested_banner hdialect hname hurl
    simp only [Post.assembled, List.cons_append, List.mem_cons, List.mem_append,
      List.mem_filterMap, List.not_mem_nil, or_false] at hblock
    rcases hblock with rfl | rfl | ⟨node, hnode, hblock⟩ | rfl
    · have hmark : WellNested "# ".toList := by decide
      exact hmark.append (wellNested_of_bracketFree htitle)
    · exact hbanner
    · rw [Fragments.block?_eq_some hblock]
      exact WellNested.tidied (hwritten node (hnodes node hnode))
    · exact hbanner

/-- The small page as a post. -/
theorem rpgGeek_wellNested_quotation :
    let style : Style := { dialect := .rpgGeek }
    let post := Post.assembled [] "z".toList (style.banner "z".toList)
      ["[q]\n\none\n\n[url=x/y]one[/url]\n\n[/q]".toList]
    Post.ofPage style samplePage = .ok post ∧ (∀ block ∈ post.blocks, WellNested block) ∧
      ∀ node ∈ articleNodes sampleContent, node.BracketFree ["href", "src"] ∧
        ∀ fragment ∈ (style.transcribe node).fragments, WellNested fragment := by
  intro style post
  have hpost : Post.ofPage style samplePage = .ok post := by decide +kernel
  have hnodes : ∀ node ∈ articleNodes sampleContent, node.BracketFree ["href", "src"] := by
    decide +kernel
  have hcontent : samplePage.content? = some sampleContent := by rfl
  have hsite : style.site.name.BracketFree ∧ style.site.licenseUrl.BracketFree := by decide
  have hdialect : style.dialect = .rpgGeek := rfl
  obtain ⟨hfragments, hblocks⟩ := rpgGeek_wellNested hdialect hsite.1 hsite.2
  exact ⟨hpost, hblocks samplePage post sampleContent hpost hcontent hnodes (by decide) (by decide),
    fun node hnode => ⟨hnodes node hnode, (hfragments node (hnodes node hnode)).1⟩⟩

end ForumPost
