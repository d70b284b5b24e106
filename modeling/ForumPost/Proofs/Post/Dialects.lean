import Mathlib.Data.List.Forall2
import ForumPost.Proofs.Post.Composition
import ForumPost.Proofs.Transcript.Failure
import ForumPost.Proofs.Transcript.Marks

/-!
# Both dialects see the same article

Whatever can be written for Reddit can be written for RPGGeek, in as many
fragments, and no fragment is empty for RPGGeek unless it is for Reddit too
(`rpgGeek_shows_reddit`).  So a post for RPGGeek has a block for every node that
has one for Reddit.

The proof goes through the rules once, for both dialects at a time.  What RPGGeek
puts tags around shows something and is not empty.  What it does not put tags around
is written alike for both dialects, or is a paragraph: that one is empty only if
it joins no fragment or a single empty one, and the number of fragments is the
same.
-/

namespace ForumPost

/-! ## Fragments that are nowhere fuller -/

namespace Fragments

/-- There are as many fragments in the first list as in the second, and where
the second one has an empty fragment, so has the first. -/
def NoFuller (first second : Fragments) : Prop :=
  List.Forall₂ (fun former latter => latter = [] → former = []) first second

theorem NoFuller.refl (fragments : Fragments) : NoFuller fragments fragments :=
  List.forall₂_same.mpr fun _ _ => id

theorem NoFuller.single {former latter : Text} (hempty : latter = [] → former = []) :
    NoFuller [former] [latter] :=
  .cons hempty .nil

/-- A fragment that shows something is not empty. -/
theorem NoFuller.of_shown {former latter : Text} (hshown : Text.compact latter ≠ []) :
    NoFuller [former] [latter] := by
  refine .single fun hempty => absurd ?_ hshown
  rw [hempty, Text.compact_nil]

theorem NoFuller.append {first second first' second' : Fragments} (hfront : NoFuller first second)
    (hback : NoFuller first' second') : NoFuller (first ++ first') (second ++ second') :=
  List.rel_append hfront hback

theorem NoFuller.flatMap {nodes : List Node} {first second : Node → Fragments}
    (hnodes : ∀ node ∈ nodes, NoFuller (first node) (second node)) :
    NoFuller (nodes.flatMap first) (nodes.flatMap second) := by
  induction nodes with
  | nil => exact .nil
  | cons node rest ih =>
    rw [List.flatMap_cons, List.flatMap_cons]
    exact (hnodes node (List.mem_cons_self ..)).append
      (ih fun other hother => hnodes other (List.mem_cons_of_mem node hother))

/-- The join hides the number of fragments; where it is empty they were at most
one, and empty. -/
theorem NoFuller.joined {first second : Fragments} (hfragments : NoFuller first second)
    (hempty : second.joined " " = []) : first.joined " " = [] := by
  have hspace : " ".toList ≠ [] := by decide
  rcases (Text.join_eq_nil_iff hspace).mp hempty with rfl | rfl
  · cases hfragments
    rfl
  · cases hfragments with
    | cons hfirst hrest =>
      cases hrest
      rw [hfirst rfl]
      rfl

theorem NoFuller.isBlank {first second : Fragments} (hfragments : NoFuller first second)
    (hblank : second.isBlank = true) : first.isBlank = true := by
  induction hfragments with
  | nil => rfl
  | cons hempty _ ih =>
    simp only [Fragments.isBlank, List.all_cons, Bool.and_eq_true, List.isEmpty_iff] at hblank ih ⊢
    exact ⟨hempty hblank.1, ih hblank.2⟩

/-- Fragments that give a block give one also where they are nowhere fuller. -/
theorem NoFuller.block?_isSome {first second : Fragments} (hfragments : NoFuller first second)
    (hblock : first.block?.isSome = true) : second.block?.isSome = true := by
  unfold block? at hblock ⊢
  by_cases hblank : second.isBlank = true
  · rw [hfragments.isBlank hblank] at hblock
    cases hblock
  · rw [if_neg hblank, Option.isSome_some]

end Fragments

/-! ## Fragments in both dialects -/

namespace Style

variable {first second : Style}

section RpgGeek

variable (hsecond : second.dialect = .rpgGeek)

include hsecond

/-- A gathered fragment is empty for RPGGeek only if it is empty for the other
style. -/
theorem gathered_noFuller {gathering : Gathering} {fragments others : Fragments}
    (hfragments : Fragments.NoFuller fragments others)
    (hempty : second.gathered gathering others = []) :
    first.gathered gathering fragments = [] := by
  by_cases hgathering : gathering = .paragraph
  · rw [hgathering] at hempty ⊢
    exact hfragments.joined hempty
  · have hshown := compact_gathered_ne_nil hgathering hsecond others
    rw [hempty] at hshown
    exact absurd rfl hshown

omit hsecond in
/-- A result that shows something is a fragment beside that of any other result. -/
theorem noFuller_ofResult {result other : Except Failure Text}
    (hresult : (Transcript.ofResult result).failure = none)
    (hother : (Transcript.ofResult other).failure = none)
    (hshown : ∀ written, other = .ok written → Text.compact written ≠ []) :
    Fragments.NoFuller (Transcript.ofResult result).fragments
      (Transcript.ofResult other).fragments := by
  obtain ⟨former, -, hformer⟩ := Transcript.ofResult_of_failure_eq_none hresult
  obtain ⟨latter, hlatter, hfragments⟩ := Transcript.ofResult_of_failure_eq_none hother
  rw [hformer, hfragments]
  exact .of_shown (hshown latter hlatter)

/-- If a node can be written in some style and for RPGGeek, it is written in as
many fragments, and no fragment is fuller than that for RPGGeek. -/
theorem noFuller_transcribe {node : Node} (hformer : (first.transcribe node).failure = none)
    (hlatter : (second.transcribe node).failure = none) :
    Fragments.NoFuller (first.transcribe node).fragments (second.transcribe node).fragments := by
  induction node using Node.inductionOnChildren with
  | step node ih =>
    -- Only rules that descend need the children, and for those no child fails.
    have hchildren : (first.transcribeAll node.children).failure = none →
        (second.transcribeAll node.children).failure = none →
        Fragments.NoFuller (first.transcribeAll node.children).fragments
          (second.transcribeAll node.children).fragments := by
      intro hfirst hothers
      obtain ⟨hformers, hfragments⟩ := first.fragments_transcribeAll hfirst
      obtain ⟨hlatters, hothers⟩ := second.fragments_transcribeAll hothers
      rw [hfragments, hothers]
      exact Fragments.NoFuller.flatMap fun child hchild =>
        ih child hchild (hformers child hchild) (hlatters child hchild)
    rw [transcribe_eq_writtenBy] at hformer hlatter ⊢
    rw [transcribe_eq_writtenBy]
    cases hrule : node.rule with
    | leftOut | stray | unknownWrapper => exact .nil
    | plain => exact .refl _
    | footer =>
      refine .of_shown ?_
      simp [compact_footer_eq_nil_iff, hsecond]
    | newThought => exact .of_shown (second.compact_newThought_ne_nil node.words)
    | inline =>
      rw [hrule] at hformer hlatter
      exact noFuller_ofResult hformer hlatter fun written hwritten =>
        compact_inlineElement_ne_nil hwritten
    | heading level =>
      rw [hrule] at hformer hlatter
      exact noFuller_ofResult hformer hlatter fun written hwritten =>
        compact_heading_ne_nil hwritten
    | table =>
      rw [hrule] at hformer hlatter
      exact noFuller_ofResult hformer hlatter fun written hwritten =>
        compact_table_ne_nil hwritten
    | image =>
      rw [writtenBy, writtenBy]
      cases node.firstImageSource? with
      | none => exact .nil
      | some source =>
        refine .of_shown ?_
        simp [compact_image_eq_nil_iff, hsecond]
    | anchor =>
      rw [writtenBy, writtenBy]
      cases node.attribute? "href" with
      | none => exact .nil
      | some url =>
        rw [anchor, anchor]
        split
        · exact .refl _
        · exact .of_shown (second.compact_link_ne_nil url _)
    | passOn =>
      rw [hrule] at hformer hlatter
      exact hchildren hformer hlatter
    | gather gathering =>
      rw [hrule, writtenBy, Transcript.failure_gather] at hformer hlatter
      rw [writtenBy, writtenBy, Transcript.fragments_gather hformer,
        Transcript.fragments_gather hlatter]
      exact .single (gathered_noFuller hsecond (hchildren hformer hlatter))

end RpgGeek

end Style

/-! ## What can be written for RPGGeek -/

/-- RPGGeek has markup for every inline element that some dialect has markup
for. -/
theorem Dialect.inlineTags_subset_rpgGeek (dialect : Dialect) :
    dialect.inlineTags ⊆ rpgGeek.inlineTags := by
  cases dialect <;> decide

/-- What is nothing wrong with in some dialect is nothing wrong with for
RPGGeek. -/
theorem Node.offence?_rpgGeek {node : Node} {dialect : Dialect}
    (hnode : node.offence? dialect = none) : node.offence? .rpgGeek = none := by
  unfold offence? at hnode ⊢
  cases hrule : node.rule with
  | stray | unknownWrapper =>
    rw [hrule] at hnode
    cases hnode
  | inline =>
    rw [hrule] at hnode
    dsimp only at hnode ⊢
    split at hnode
    · rename_i htag
      exact if_pos (dialect.inlineTags_subset_rpgGeek htag)
    · cases hnode
  | heading level =>
    rw [hrule] at hnode
    dsimp only at hnode ⊢
    split at hnode
    · rename_i hlevel
      exact if_pos hlevel
    · cases hnode
  | _ => rfl

namespace Style

/-- Without escape characters, what can be written in some style can be written
for RPGGeek. -/
theorem failure_rpgGeek_eq_none {first second : Style} (hsecond : second.dialect = .rpgGeek)
    {node : Node} (hnode : node.TextsSatisfy (· ≠ '\x1b'))
    (hfirst : (first.transcribe node).failure = none) :
    (second.transcribe node).failure = none := by
  rw [failure_transcribe, List.findSome?_eq_none_iff] at hfirst ⊢
  intro found hfound
  have htexts := hnode.of_mem (Node.mem_preorder_of_mem_handled hfound)
  have hoffence := hfirst found hfound
  rw [first.failureAt_of_noEscape htexts] at hoffence
  rw [second.failureAt_of_noEscape htexts, hsecond]
  exact Node.offence?_rpgGeek hoffence

/-- A node that can be written gives the block of its fragments. -/
theorem block?_eq_ok_iff {style : Style} {node : Node} {block : Option Text} :
    style.block? node = .ok block ↔
      (style.transcribe node).failure = none ∧ block = (style.transcribe node).fragments.block? := by
  rw [block?, Transcript.toExcept]
  cases (style.transcribe node).failure with
  | none =>
    dsimp only
    rw [Except.ok.injEq, eq_comm]
    simp [Fragments.block?]
  | some failure => simp

variable {first second : Style}

/-- A node that gives a block in some style gives one for RPGGeek. -/
theorem block?_rpgGeek (hsecond : second.dialect = .rpgGeek) {node : Node}
    (hnode : node.TextsSatisfy (· ≠ '\x1b')) {block : Text}
    (hblock : first.block? node = .ok (some block)) :
    ∃ written, second.block? node = .ok (some written) := by
  obtain ⟨hfirst, hsome⟩ := block?_eq_ok_iff.mp hblock
  have hlatter := failure_rpgGeek_eq_none hsecond hnode hfirst
  have hisSome := (noFuller_transcribe hsecond hfirst hlatter).block?_isSome (by rw [← hsome]; rfl)
  obtain ⟨written, hwritten⟩ := Option.isSome_iff_exists.mp hisSome
  exact ⟨written, block?_eq_ok_iff.mpr ⟨hlatter, hwritten.symm⟩⟩

/-- Nodes that can be written in some style can be written for RPGGeek, in at
least as many blocks. -/
theorem blocks_rpgGeek (hsecond : second.dialect = .rpgGeek) {nodes : List Node}
    (hnodes : ∀ node ∈ nodes, node.TextsSatisfy (· ≠ '\x1b')) {body : List Text}
    (hbody : first.blocks nodes = .ok body) :
    ∃ others, second.blocks nodes = .ok others ∧ body.length ≤ others.length := by
  obtain ⟨hformers, rfl⟩ := first.blocks_eq_ok_iff.mp hbody
  have hlatters : ∀ node ∈ nodes, (second.transcribe node).failure = none := fun node hnode =>
    failure_rpgGeek_eq_none hsecond (hnodes node hnode) (hformers node hnode)
  refine ⟨_, second.blocks_eq_ok_iff.mpr ⟨hlatters, rfl⟩, ?_⟩
  rw [List.length_filterMap_eq_countP, List.length_filterMap_eq_countP]
  refine List.countP_mono_left fun node hnode hsome => ?_
  exact (noFuller_transcribe hsecond (hformers node hnode) (hlatters node hnode)).block?_isSome hsome

end Style

namespace Post

/-- A page that gives a post in some style gives one for RPGGeek, of the same
article and with at least as many blocks. -/
theorem ofPage_rpgGeek {first second : Style} (hsecond : second.dialect = .rpgGeek)
    {page : Html.Page} (hpage : ∀ node ∈ article page, node.TextsSatisfy (· ≠ '\x1b')) {post : Post}
    (hpost : ofPage first page = .ok post) :
    ∃ other, ofPage second page = .ok other ∧ other.title = post.title ∧
      other.canonicalUrl = post.canonicalUrl ∧ post.body.length ≤ other.body.length := by
  obtain ⟨url, content, body, hurl, hcontent, hbody, rfl⟩ := ofPage_eq_ok hpost
  rw [article_of_content hcontent] at hpage
  obtain ⟨others, hothers, hlength⟩ := Style.blocks_rpgGeek hsecond hpage hbody
  refine ⟨assembled page.title url (second.banner url) others, ?_, rfl, rfl, ?_⟩
  · rw [ofPage, hurl, hcontent]
    dsimp only
    rw [hothers]
    rfl
  · rwa [body_assembled, body_assembled]

/-- Under its own name a dialect is what the post is made in. -/
theorem inDialect_id (dialect : Dialect) (site : Site) (text : Text) :
    inDialect dialect.id site text = ofPage { dialect, site } (Html.parse text) := by
  rw [inDialect, Dialect.ofId, Dialect.ofId?_id]
  rfl

end Post

/-- RPGGeek is shown whatever Reddit is shown.  Without escape characters, what
can be written for Reddit can be written for RPGGeek; what can be written for
both has as many fragments for both, and where that for RPGGeek is empty, so is
that for Reddit.  A page that gives a post for Reddit gives one for RPGGeek with
the same title and address, with at least as many blocks in its body, and with a
block of every node that has one for Reddit; a page that gives none for RPGGeek
gives none for Reddit. -/
theorem rpgGeek_shows_reddit (site : Site) :
    let reddit : Style := { dialect := .reddit, site }
    let rpgGeek : Style := { dialect := .rpgGeek, site }
    (∀ node : Node, node.TextsSatisfy (· ≠ '\x1b') →
      (reddit.transcribe node).failure = none → (rpgGeek.transcribe node).failure = none) ∧
    (∀ node, (reddit.transcribe node).failure = none → (rpgGeek.transcribe node).failure = none →
      Fragments.NoFuller (reddit.transcribe node).fragments (rpgGeek.transcribe node).fragments) ∧
    ∀ text, (∀ node ∈ Post.article (Html.parse text), node.TextsSatisfy (· ≠ '\x1b')) →
      (∀ post, Post.inDialect "reddit".toList site text = .ok post →
        (∃ other, Post.inDialect "rpggeek".toList site text = .ok other ∧
          other.title = post.title ∧ other.canonicalUrl = post.canonicalUrl ∧
          post.body.length ≤ other.body.length) ∧
        ∀ node ∈ Post.article (Html.parse text), ∀ block, reddit.block? node = .ok (some block) →
          ∃ written, rpgGeek.block? node = .ok (some written)) ∧
      ∀ failure, Post.inDialect "rpggeek".toList site text = .error failure →
        ∃ cause, Post.inDialect "reddit".toList site text = .error cause := by
  intro reddit rpgGeek
  have hdialect : rpgGeek.dialect = .rpgGeek := rfl
  refine ⟨?_, ?_, ?_⟩
  · intro node hnode hreddit
    exact Style.failure_rpgGeek_eq_none hdialect hnode hreddit
  · intro node hreddit hrpgGeek
    exact Style.noFuller_transcribe hdialect hreddit hrpgGeek
  · intro text hpage
    have hreddit : Post.inDialect "reddit".toList site text =
        Post.ofPage reddit (Html.parse text) := Post.inDialect_id .reddit site text
    have hrpgGeek : Post.inDialect "rpggeek".toList site text =
        Post.ofPage rpgGeek (Html.parse text) := Post.inDialect_id .rpgGeek site text
    rw [hreddit, hrpgGeek]
    refine ⟨?_, ?_⟩
    · intro post hpost
      refine ⟨Post.ofPage_rpgGeek hdialect hpage hpost, ?_⟩
      intro node hnode block hblock
      exact Style.block?_rpgGeek hdialect (hpage node hnode) hblock
    · intro failure hfailure
      cases hpost : Post.ofPage reddit (Html.parse text) with
      | error cause => exact ⟨cause, rfl⟩
      | ok post =>
        obtain ⟨other, hother, -⟩ := Post.ofPage_rpgGeek hdialect hpage hpost
        rw [hother] at hfailure
        cases hfailure

/-- A paragraph and a figure, which has a block for RPGGeek only: its fragment is
empty for Reddit. -/
theorem rpgGeek_shows_reddit_figure :
    let reddit : Style := { dialect := .reddit }
    let rpgGeek : Style := { dialect := .rpgGeek }
    let image : Node := .element .image "img".toList [("src".toList, "y".toList)] [] []
    let figure : Node := .element .figure "figure".toList [] [] [image]
    let text :=
      "<link rel=canonical href=z><div class=content><p>one<figure><img src=y></figure></div>".toList
    let post := Post.assembled [] "z".toList (reddit.banner "z".toList) ["one".toList]
    figure.TextsSatisfy (· ≠ '\x1b') ∧ (reddit.transcribe figure).failure = none ∧
      (rpgGeek.transcribe figure).failure = none ∧
      (reddit.transcribe figure).fragments = [[]] ∧
      Fragments.NoFuller [[]] (rpgGeek.transcribe figure).fragments ∧
      (∀ node ∈ Post.article (Html.parse text), node.TextsSatisfy (· ≠ '\x1b')) ∧
      Post.inDialect "reddit".toList {} text = .ok post ∧ post.body.length = 1 ∧
      ∃ other, Post.inDialect "rpggeek".toList {} text = .ok other ∧ 1 ≤ other.body.length := by
  intro reddit rpgGeek image figure text post
  have hfigure : figure.TextsSatisfy (· ≠ '\x1b') := by decide +kernel
  have hreddit : (reddit.transcribe figure).failure = none := by decide +kernel
  have hempty : (reddit.transcribe figure).fragments = [[]] := by decide +kernel
  have hpage : ∀ node ∈ Post.article (Html.parse text), node.TextsSatisfy (· ≠ '\x1b') := by
    decide +kernel
  have hpost : Post.inDialect "reddit".toList {} text = .ok post := by decide +kernel
  obtain ⟨hnode, hfragments, hposts⟩ := rpgGeek_shows_reddit {}
  have hrpgGeek := hnode figure hfigure hreddit
  have hfuller := hfragments figure hreddit hrpgGeek
  obtain ⟨⟨other, hother, -, -, hlength⟩, -⟩ := (hposts text hpage).1 post hpost
  rw [hempty] at hfuller
  exact ⟨hfigure, hreddit, hrpgGeek, hempty, hfuller, hpage, hpost, rfl, other, hother, hlength⟩

end ForumPost
