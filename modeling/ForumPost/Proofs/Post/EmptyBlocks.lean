import ForumPost.Proofs.Post.Dialects
import ForumPost.Proofs.Transcript.Marks
import ForumPost.Proofs.Transcript.Prose

/-!
# Empty blocks

A node of an article gives no block if all of its fragments are empty.  What is
shown of the others is tidied, and that may leave nothing: two empty fragments in
one paragraph are joined by a space, which is then taken off again.

`empty_block_iff` says of which nodes such an empty block is left.  They are the
ones that write nothing but white space, and write some.

* A node shows nothing if none of the nodes that its transcript comes by shows
  anything (`Node.isInvisible`).  Most rules write marks, which are always shown.
* White space comes from a footer for Reddit, which is not stripped, and from a
  paragraph with two or more fragments (`Node.leavesSpace`).

Both conditions are about the nodes that a transcript comes by, one by one, so
that the proofs are inductions along `Node.handled`.
-/

namespace ForumPost

/-! ## Texts of edge characters -/

namespace Text

/-- Collapsing leaves something of every text. -/
theorem collapse_eq_nil_iff {text : Text} : collapse text = [] ↔ text = [] := by
  refine ⟨fun hcollapse => ?_, fun htext => by rw [htext, collapse_nil]⟩
  induction text with
  | nil => rfl
  | cons c rest ih =>
    rw [collapse] at hcollapse
    split at hcollapse
    · split at hcollapse
      · rename_i hstarts
        -- The break that is dropped stands in front of another one.
        rw [ih hcollapse] at hstarts
        cases hstarts
      · cases hcollapse
    · cases hcollapse

end Text

namespace Fragments

/-- Does nothing of any fragment show? -/
def Invisible (fragments : Fragments) : Prop :=
  ∀ fragment ∈ fragments, Text.compact fragment = []

theorem invisible_iff {fragments : Fragments} :
    fragments.Invisible ↔ fragments.flatMap Text.compact = [] :=
  List.flatMap_eq_nil_iff.symm

theorem invisible_singleton {fragment : Text} :
    Invisible [fragment] ↔ Text.compact fragment = [] :=
  List.forall_mem_singleton

theorem invisible_flatMap {nodes : List Node} {fragments : Node → Fragments} :
    Invisible (nodes.flatMap fragments) ↔ ∀ node ∈ nodes, (fragments node).Invisible := by
  simp only [Invisible, List.mem_flatMap]
  constructor
  · intro hall node hnode fragment hfragment
    exact hall fragment ⟨node, hnode, hfragment⟩
  · rintro hall fragment ⟨node, hnode, hfragment⟩
    exact hall node hnode fragment hfragment

theorem isBlank_iff {fragments : Fragments} :
    fragments.isBlank = true ↔ ∀ fragment ∈ fragments, fragment = [] := by
  simp only [isBlank, List.all_eq_true, List.isEmpty_iff]

theorem isBlank_flatMap_iff {nodes : List Node} {fragments : Node → Fragments} :
    isBlank (nodes.flatMap fragments) = true ↔ ∀ node ∈ nodes, (fragments node).isBlank = true := by
  simp only [isBlank, List.all_flatMap, List.all_eq_true]

/-- The join is empty of fragments that are all empty, unless there is a space
between two of them. -/
theorem joined_eq_nil_iff {fragments : Fragments} :
    fragments.joined " " = [] ↔ fragments.isBlank = true ∧ ¬ 2 ≤ fragments.length := by
  rw [joined, Text.join_eq_nil_iff (by decide)]
  cases fragments with
  | nil => simp
  | cons first rest => cases rest <;> simp [isBlank]

/-- Tidying leaves nothing exactly of fragments of which nothing shows. -/
theorem tidied_eq_nil_iff {fragments : Fragments} :
    fragments.tidied = [] ↔ fragments.Invisible := by
  rw [invisible_iff, tidied_eq_nil_iff_compact]

/-- An empty block is left of fragments of which nothing shows, but which are not
all empty. -/
theorem block?_eq_some_nil_iff {fragments : Fragments} :
    fragments.block? = some [] ↔ fragments.Invisible ∧ fragments.isBlank = false := by
  rw [block?, ← tidied_eq_nil_iff]
  cases fragments.isBlank <;> simp

end Fragments

/-! ## What a node shows -/

namespace Node

/-- Does a node give no fragment of its own? -/
def isQuiet (node : Node) : Bool :=
  match node.rule with
  | .leftOut | .passOn => true
  | .plain => (Text.compact node.words).isEmpty
  | .anchor => (node.attribute? "href").isNone
  | .image => node.firstImageSource?.isNone
  | _ => false

/-- Does a node show nothing of its own? -/
def isInvisible (dialect : Dialect) (node : Node) : Bool :=
  match node.rule with
  | .leftOut | .passOn | .gather .paragraph => true
  | .plain => (Text.compact node.words).isEmpty
  | .anchor =>
    match node.attribute? "href" with
    | none => true
    | some url => "#".toList.isPrefixOf url && (Text.compact node.words).isEmpty
  | .image => dialect == .reddit || node.firstImageSource?.isNone
  | .footer => dialect == .reddit && (Text.compact node.words).isEmpty
  | .gather .quotation =>
    dialect == .reddit && node.children.all fun child => child.handled.all isQuiet
  | _ => false

/-- Does a node put in white space? -/
def leavesSpace (style : Style) (node : Node) : Bool :=
  match node.rule with
  | .footer => !node.words.isEmpty
  | .gather .paragraph => 2 ≤ (style.transcribeAll node.children).fragments.length
  | _ => false

/-- Does a node write white space and nothing else? -/
def IsHollow (style : Style) (node : Node) : Prop :=
  (∀ found ∈ node.handled, found.isInvisible style.dialect = true) ∧
    ∃ found ∈ node.handled, found.leavesSpace style = true

instance (style : Style) (node : Node) : Decidable (node.IsHollow style) :=
  inferInstanceAs (Decidable (_ ∧ _))

theorem isInvisible_of_isQuiet {node : Node} (dialect : Dialect) (hquiet : node.isQuiet = true) :
    node.isInvisible dialect = true := by
  unfold isQuiet at hquiet
  unfold isInvisible
  cases hrule : node.rule with
  | leftOut | passOn => rfl
  | plain =>
    rw [hrule] at hquiet
    exact hquiet
  | anchor =>
    rw [hrule] at hquiet
    dsimp only at hquiet ⊢
    rw [Option.isNone_iff_eq_none.mp hquiet]
  | image =>
    rw [hrule] at hquiet
    dsimp only at hquiet ⊢
    rw [hquiet, Bool.or_true]
  | _ =>
    rw [hrule] at hquiet
    cases hquiet

theorem leavesSpace_of_isQuiet {style : Style} {node : Node} (hquiet : node.isQuiet = true) :
    node.leavesSpace style = false := by
  unfold isQuiet at hquiet
  unfold leavesSpace
  cases hrule : node.rule with
  | footer | gather gathering =>
    rw [hrule] at hquiet
    cases hquiet
  | _ => rfl

end Node

namespace Style

variable (style : Style)

/-- A node that can be written leaves no fragment exactly if it comes by nodes
that give none. -/
theorem fragments_eq_nil_iff {node : Node} (hwritten : (style.transcribe node).failure = none) :
    (style.transcribe node).fragments = [] ↔ ∀ found ∈ node.handled, found.isQuiet = true := by
  induction node using Node.inductionOnChildren with
  | step node ih =>
    have hchildren : (style.transcribeAll node.children).failure = none →
        ((style.transcribeAll node.children).fragments = [] ↔
          ∀ child ∈ node.children, ∀ found ∈ child.handled, found.isQuiet = true) := by
      intro hbelow
      obtain ⟨hnone, hfragments⟩ := style.fragments_transcribeAll hbelow
      rw [hfragments, List.flatMap_eq_nil_iff]
      exact forall₂_congr fun child hchild => ih child hchild (hnone child hchild)
    rw [Node.forall_mem_handled_iff, Node.isQuiet]
    rw [transcribe_eq_writtenBy] at hwritten ⊢
    cases hrule : node.rule with
    | leftOut => simp [writtenBy, Rule.descends]
    | plain =>
      rw [writtenBy, plainText]
      simp only [List.isEmpty_iff, Text.strip_eq_nil_iff]
      split <;> simp_all [Rule.descends]
    | footer | newThought => simp [writtenBy, Rule.descends]
    | inline | heading level | table =>
      rw [hrule] at hwritten
      obtain ⟨written, -, hfragments⟩ := Transcript.ofResult_of_failure_eq_none hwritten
      simp [writtenBy, hfragments]
    | stray | unknownWrapper =>
      rw [hrule] at hwritten
      cases hwritten
    | image =>
      rw [writtenBy]
      cases node.firstImageSource? <;> simp [imageOf, Rule.descends]
    | anchor =>
      rw [writtenBy]
      cases node.attribute? "href" with
      | none => simp [anchor, Rule.descends]
      | some url =>
        rw [anchor]
        split <;> simp
    | passOn =>
      rw [hrule] at hwritten
      simpa [writtenBy, Rule.descends] using hchildren hwritten
    | gather gathering =>
      rw [hrule, writtenBy, Transcript.failure_gather] at hwritten
      rw [writtenBy, Transcript.fragments_gather hwritten]
      simp

/-- Nothing shows of a node that can be written exactly if it comes by nodes that
show nothing. -/
theorem invisible_fragments_iff {node : Node} (hwritten : (style.transcribe node).failure = none) :
    (style.transcribe node).fragments.Invisible ↔
      ∀ found ∈ node.handled, found.isInvisible style.dialect = true := by
  induction node using Node.inductionOnChildren with
  | step node ih =>
    have hchildren : (style.transcribeAll node.children).failure = none →
        ((style.transcribeAll node.children).fragments.Invisible ↔
          ∀ child ∈ node.children, ∀ found ∈ child.handled,
            found.isInvisible style.dialect = true) := by
      intro hbelow
      obtain ⟨hnone, hfragments⟩ := style.fragments_transcribeAll hbelow
      rw [hfragments, Fragments.invisible_flatMap]
      exact forall₂_congr fun child hchild => ih child hchild (hnone child hchild)
    rw [Node.forall_mem_handled_iff, Node.isInvisible]
    rw [transcribe_eq_writtenBy] at hwritten ⊢
    cases hrule : node.rule with
    | leftOut => simp [writtenBy, Fragments.Invisible, Rule.descends]
    | plain =>
      rw [writtenBy, Fragments.invisible_iff, flatMap_compact_plainText]
      simp [Rule.descends]
    | footer =>
      rw [writtenBy, Transcript.fragments_single, Fragments.invisible_singleton,
        compact_footer_eq_nil_iff, Text.compact_collapse]
      simp [Rule.descends]
    | newThought =>
      rw [writtenBy, Transcript.fragments_single, Fragments.invisible_singleton]
      simp [style.compact_newThought_ne_nil]
    | inline =>
      rw [hrule] at hwritten
      obtain ⟨written, hinline, hfragments⟩ := Transcript.ofResult_of_failure_eq_none hwritten
      rw [writtenBy, hfragments, Fragments.invisible_singleton]
      simp [compact_inlineElement_ne_nil hinline]
    | heading level =>
      rw [hrule] at hwritten
      obtain ⟨written, hheading, hfragments⟩ := Transcript.ofResult_of_failure_eq_none hwritten
      rw [writtenBy, hfragments, Fragments.invisible_singleton]
      simp [compact_heading_ne_nil hheading]
    | table =>
      rw [hrule] at hwritten
      obtain ⟨written, htable, hfragments⟩ := Transcript.ofResult_of_failure_eq_none hwritten
      rw [writtenBy, hfragments, Fragments.invisible_singleton]
      simp [compact_table_ne_nil htable]
    | stray | unknownWrapper =>
      rw [hrule] at hwritten
      cases hwritten
    | image =>
      rw [writtenBy]
      cases node.firstImageSource? with
      | none => simp [imageOf, Fragments.Invisible, Rule.descends]
      | some source =>
        rw [imageOf, Transcript.fragments_single, Fragments.invisible_singleton,
          compact_image_eq_nil_iff]
        simp [Rule.descends]
    | anchor =>
      rw [writtenBy]
      cases node.attribute? "href" with
      | none => simp [anchor, Fragments.Invisible, Rule.descends]
      | some url =>
        rw [anchor]
        split
        · rename_i hhash
          rw [Transcript.fragments_single, Fragments.invisible_singleton, Text.compact_strip]
          dsimp only
          rw [hhash]
          simp [Rule.descends]
        · rename_i hhash
          rw [Transcript.fragments_single, Fragments.invisible_singleton]
          dsimp only
          rw [eq_false_of_ne_true hhash]
          simp [style.compact_link_ne_nil]
    | passOn =>
      rw [hrule] at hwritten
      simpa [writtenBy, Rule.descends] using hchildren hwritten
    | gather gathering =>
      rw [hrule, writtenBy, Transcript.failure_gather] at hwritten
      rw [writtenBy, Transcript.fragments_gather hwritten, Fragments.invisible_singleton]
      cases gathering with
      | listItem => simp [gathered, compact_listItem_ne_nil]
      | sidenote => simp [gathered, style.compact_sidenote_ne_nil]
      | gameContent => simp [gathered, style.compact_openGameContent_ne_nil]
      | paragraph =>
        rw [gathered, Fragments.compact_joined, ← Fragments.invisible_iff, hchildren hwritten]
        simp [Rule.descends]
      | quotation =>
        obtain ⟨hnone, hfragments⟩ := style.fragments_transcribeAll hwritten
        have hquiet : (style.transcribeAll node.children).fragments = [] ↔
            ∀ child ∈ node.children, ∀ found ∈ child.handled, found.isQuiet = true := by
          rw [hfragments, List.flatMap_eq_nil_iff]
          exact forall₂_congr fun child hchild => style.fragments_eq_nil_iff (hnone child hchild)
        rw [gathered, compact_quotation_eq_nil_iff, hquiet]
        simp only [Rule.descends, Bool.and_eq_true, beq_iff_eq, List.all_eq_true, true_imp_iff]
        -- What gives no fragment shows nothing either.
        refine ⟨fun hempty => ⟨hempty, fun child hchild found hfound => ?_⟩, And.left⟩
        exact Node.isInvisible_of_isQuiet _ (hempty.2 child hchild found hfound)

/-- The fragments of a node that shows nothing are all empty exactly if no node
that it comes by leaves white space. -/
theorem isBlank_fragments_iff {node : Node} (hwritten : (style.transcribe node).failure = none)
    (hinvisible : ∀ found ∈ node.handled, found.isInvisible style.dialect = true) :
    (style.transcribe node).fragments.isBlank = true ↔
      ∀ found ∈ node.handled, found.leavesSpace style = false := by
  induction node using Node.inductionOnChildren with
  | step node ih =>
    obtain ⟨hown, hbelow⟩ := Node.forall_mem_handled_iff.mp hinvisible
    have hchildren : node.rule.descends = true →
        (style.transcribeAll node.children).failure = none →
        ((style.transcribeAll node.children).fragments.isBlank = true ↔
          ∀ child ∈ node.children, ∀ found ∈ child.handled, found.leavesSpace style = false) := by
      intro hrule hfailure
      obtain ⟨hnone, hfragments⟩ := style.fragments_transcribeAll hfailure
      rw [hfragments, Fragments.isBlank_flatMap_iff]
      exact forall₂_congr fun child hchild =>
        ih child hchild (hnone child hchild) (hbelow hrule child hchild)
    rw [Node.forall_mem_handled_iff, Node.leavesSpace]
    rw [transcribe_eq_writtenBy] at hwritten ⊢
    rw [Node.isInvisible] at hown
    cases hrule : node.rule with
    | inline | heading level | newThought | table | stray | unknownWrapper =>
      rw [hrule] at hown
      cases hown
    | leftOut => simp [writtenBy, Rule.descends]
    | plain =>
      rw [hrule] at hown
      have hwords : Text.strip node.words = [] :=
        Text.strip_eq_nil_iff.mpr (List.isEmpty_iff.mp hown)
      simp [writtenBy, plainText, hwords, Rule.descends]
    | footer =>
      rw [hrule] at hown
      dsimp only at hown
      simp only [Bool.and_eq_true, beq_iff_eq] at hown
      simp [writtenBy, footer, hown.1, Reddit.footer, Fragments.isBlank, Text.collapse_eq_nil_iff,
        Rule.descends]
    | image =>
      rw [hrule] at hown
      dsimp only at hown
      rw [writtenBy]
      cases hsource : node.firstImageSource? with
      | none => simp [imageOf, Rule.descends]
      | some source =>
        rw [hsource] at hown
        have hreddit : style.dialect = .reddit := by simpa using hown
        simp [imageOf, image, hreddit, Fragments.isBlank, Rule.descends]
    | anchor =>
      rw [hrule] at hown
      dsimp only at hown
      rw [writtenBy]
      cases hurl : node.attribute? "href" with
      | none => simp [anchor, Rule.descends]
      | some url =>
        rw [hurl] at hown
        obtain ⟨hhash, hwords⟩ := Bool.and_eq_true_iff.mp hown
        have hstrip := Text.strip_eq_nil_iff.mpr (List.isEmpty_iff.mp hwords)
        rw [anchor, if_pos hhash, hstrip]
        simp [Fragments.isBlank, Rule.descends]
    | passOn =>
      rw [hrule] at hwritten hchildren
      simpa [writtenBy, Rule.descends] using hchildren rfl hwritten
    | gather gathering =>
      rw [hrule, writtenBy, Transcript.failure_gather] at hwritten
      rw [writtenBy, Transcript.fragments_gather hwritten, Fragments.isBlank_iff,
        List.forall_mem_singleton]
      rw [hrule] at hown hchildren
      cases gathering with
      | listItem | sidenote | gameContent => cases hown
      | paragraph =>
        rw [gathered, Fragments.joined_eq_nil_iff, hchildren rfl hwritten, and_comm]
        simp [Rule.descends]
      | quotation =>
        simp only [Bool.and_eq_true, beq_iff_eq, List.all_eq_true] at hown
        obtain ⟨hreddit, hquiet⟩ := hown
        obtain ⟨hnone, hfragments⟩ := style.fragments_transcribeAll hwritten
        have hnothing : (style.transcribeAll node.children).fragments = [] := by
          rw [hfragments, List.flatMap_eq_nil_iff]
          intro child hchild
          exact (style.fragments_eq_nil_iff (hnone child hchild)).mpr (hquiet child hchild)
        refine iff_of_true ?_ ⟨rfl, fun _ child hchild found hfound => ?_⟩
        · simp [gathered, quotation, hreddit, hnothing, Reddit.quotation]
        · exact Node.leavesSpace_of_isQuiet (hquiet child hchild found hfound)

/-- An empty block is left of a node exactly if the node writes white space and
nothing else. -/
theorem block?_eq_ok_some_nil_iff {node : Node}
    (hwritten : (style.transcribe node).failure = none) :
    style.block? node = .ok (some []) ↔ node.IsHollow style := by
  have hblock : style.block? node = .ok (some []) ↔
      (style.transcribe node).fragments.block? = some [] := by
    rw [block?_eq_ok_iff, and_iff_right hwritten, eq_comm]
  rw [hblock, Fragments.block?_eq_some_nil_iff, style.invisible_fragments_iff hwritten,
    Node.IsHollow]
  refine and_congr_right fun hinvisible => ?_
  rw [← Bool.not_eq_true, style.isBlank_fragments_iff hwritten hinvisible]
  simp only [not_forall, Bool.not_eq_false, exists_prop]

end Style

/-- Where empty blocks come from.  A block is left out if all fragments of its node
are empty, and there is an empty block exactly for a node that writes white space
and nothing else: none of the nodes that its transcript comes by shows anything,
and one of them is a footer that holds something or a paragraph with two or more
fragments.  A post that could be made has an empty block in its body exactly if
its article holds such a node. -/
theorem empty_block_iff (style : Style) :
    (∀ node : Node, (style.transcribe node).failure = none →
      (style.block? node = .ok none ↔ (style.transcribe node).fragments.isBlank = true) ∧
      (style.block? node = .ok (some []) ↔ node.IsHollow style)) ∧
    ∀ page post, Post.ofPage style page = .ok post →
      ([] ∈ post.body ↔ ∃ node ∈ Post.article page, node.IsHollow style) := by
  constructor
  · intro node hwritten
    refine ⟨?_, style.block?_eq_ok_some_nil_iff hwritten⟩
    rw [Style.block?_eq_ok_iff, Fragments.block?]
    cases (style.transcribe node).fragments.isBlank <;> simp [hwritten]
  · intro page post hpost
    obtain ⟨url, content, body, -, hcontent, hbody, rfl⟩ := Post.ofPage_eq_ok hpost
    obtain ⟨hnone, rfl⟩ := style.blocks_eq_ok_iff.mp hbody
    rw [Post.body_assembled, Post.article_of_content hcontent, List.mem_filterMap]
    refine exists_congr fun node => and_congr_right fun hnode => ?_
    rw [← style.block?_eq_ok_some_nil_iff (hnone node hnode), Style.block?_eq_ok_iff, eq_comm]
    exact (and_iff_right (hnone node hnode)).symm

/-- A footer with a space in it, and the small page, which has no empty block. -/
theorem empty_block_iff_footer :
    let style : Style := { dialect := .reddit }
    let footer : Node := .element .footer "footer".toList [] [] [.text " ".toList]
    let post := Post.assembled [] "z".toList (style.banner "z".toList)
      [">one\n>\n>[one](x/y)".toList]
    (style.transcribe footer).failure = none ∧ footer.IsHollow style ∧
      style.block? footer = .ok (some []) ∧
      Post.ofPage style samplePage = .ok post ∧ [] ∉ post.body := by
  intro style footer post
  have hwritten : (style.transcribe footer).failure = none := by decide +kernel
  have hhollow : footer.IsHollow style := by decide +kernel
  have hpost : Post.ofPage style samplePage = .ok post := by decide +kernel
  have hfull : ¬ ∃ node ∈ Post.article samplePage, node.IsHollow style := by decide +kernel
  obtain ⟨hnodes, hposts⟩ := empty_block_iff style
  exact ⟨hwritten, hhollow, (hnodes footer hwritten).2.mpr hhollow, hpost,
    mt (hposts samplePage post hpost).mp hfull⟩

/-- A paragraph with two empty anchors gives an empty block, so that not every block
of a body holds something. -/
theorem empty_block_of_anchors :
    let style : Style := { dialect := .reddit }
    let text := ("<link rel=canonical href=z><div class=content>" ++
      "<p><a href=#a></a><a href=#b></a></p></div>").toList
    let post := Post.assembled [] "z".toList (style.banner "z".toList) [[]]
    Post.inDialect "reddit".toList {} text = .ok post ∧ post.body = [[]] ∧
      ¬ ∀ name site page made, Post.inDialect name site page = .ok made →
        ∀ block ∈ made.body, block ≠ [] := by
  intro style text post
  have hpost : Post.inDialect "reddit".toList {} text = .ok post := by decide +kernel
  have hbody : post.body = [[]] := Post.body_assembled ..
  refine ⟨hpost, hbody, fun hfull => ?_⟩
  exact hfull _ _ _ _ hpost [] (by rw [hbody]; exact List.mem_singleton_self _) rfl

end ForumPost
