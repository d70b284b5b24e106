import Mathlib.Data.List.Basic
import Mathlib.Data.List.Flatten
import ForumPost.Html.Parse
import ForumPost.Proofs.Article.OfPage

/-!
# The text of a page in its article

An article is made from an element of a page node by node, so that the nodes of
the article are, in document order, what becomes of the nodes of the page
(`preorder_ofPage`).  The text of an article is meant to be the text of the page:
the texts below the element, one after the other, without comments and without
what templates hold (`Html.Node.texts`).

It is that text as long as no element is taken for something else.  The kind of an
element follows from its tag, so that an element whose tag is `text` has the kind
of a text, and one whose tag is `comment` has the kind of a comment.  Texts inside
of such an element are in the page and not in the text of the article.
`words_eq_texts_iff` says that nothing else goes wrong.

The proof is an induction over the page.  No text is added anywhere
(`innerTextOf_sublist_texts`), so that the texts of several nodes are right
together only if each of them is right.
-/

namespace ForumPost

/-! ## Elements that are taken for a text or a comment -/

namespace Kind

/-- A kind that is known by name is found by that name alone. -/
theorem ofTag_eq_text_iff {tag : Text} :
    ofTag tag = text ↔ Text.lowerAscii tag = "text".toList := by
  constructor
  · intro hkind
    have hknown := mem_known_of_ofTag hkind (fun _ => Kind.noConfusion)
    have hname : String.ofList (Text.lowerAscii tag) = "text" := by
      simpa [known] using hknown
    rw [← hname, String.toList_ofList]
  · intro hname
    rw [ofTag, hname]
    decide +kernel

/-- Kinds that are known by name are never the kind of a comment. -/
theorem ofTag_eq_comment_iff {tag : Text} :
    ofTag tag = comment ↔ Text.lowerAscii tag = "comment".toList := by
  constructor
  · intro hkind
    unfold ofTag at hkind
    dsimp only at hkind
    cases hlookup : known.lookup (String.ofList (Text.lowerAscii tag)) with
    | some found =>
      have hall : ∀ entry ∈ known, entry.2 ≠ comment := by decide +kernel
      rw [hlookup, Option.getD_some] at hkind
      exact absurd hkind (hall _ (mem_of_lookup_eq_some hlookup))
    | none =>
      rw [hlookup, Option.getD_none] at hkind
      exact Kind.other.inj hkind
  · intro hname
    rw [ofTag, hname]
    decide +kernel

end Kind

namespace Html.Node

/-! ## The text of a page -/

/-- Induction over the element tree of a page, from the children of an element to
the element. -/
@[elab_as_elim]
theorem inductionOnElements {motive : Node → Prop} (text : ∀ content, motive (text content))
    (comment : ∀ content, motive (comment content))
    (fragment : ∀ children, motive (fragment children))
    (element : ∀ space tag attributes children, (∀ child ∈ children, motive child) →
      motive (element space tag attributes children)) : ∀ node, motive node
  | .text content => text content
  | .comment content => comment content
  | .fragment children => fragment children
  | .element space tag attributes children =>
    element space tag attributes children fun child _ =>
      inductionOnElements text comment fragment element child
termination_by node => sizeOf node
decreasing_by
  have hsize : sizeOf child < sizeOf children := List.sizeOf_lt_of_mem ‹_›
  simp only [Node.element.sizeOf_spec]
  omega

mutual

/-- A node of a page and all that is below it in document order.  What a template
holds is not below it. -/
def tree : Node → List Node
  | text content => [text content]
  | comment content => [comment content]
  | fragment _ => []
  | element space tag attributes children =>
    element space tag attributes children :: treeOf children

/-- Nodes of a page and all that is below them, in document order. -/
def treeOf : List Node → List Node
  | [] => []
  | node :: rest => node.tree ++ treeOf rest

end

theorem treeOf_eq_flatMap (nodes : List Node) : treeOf nodes = nodes.flatMap tree := by
  induction nodes with
  | nil => rfl
  | cons node rest ih => rw [treeOf, ih, List.flatMap_cons]

/-- The content of a text node.  Other nodes have no text of their own. -/
def ownText : Node → Text
  | text content => content
  | _ => []

/-- The contents of all text nodes below a node, in document order. -/
def texts (node : Node) : Text :=
  node.tree.flatMap ownText

theorem texts_element (space : Space) (tag : Text) (attributes : List Attribute)
    (children : List Node) :
    (element space tag attributes children).texts = children.flatMap texts := by
  rw [texts, tree, List.flatMap_cons, treeOf_eq_flatMap, List.flatMap_assoc]
  rfl

/-- What is below a node of a tree is in the tree. -/
theorem mem_tree_trans {source node found : Node} (hnode : node ∈ source.tree)
    (hfound : found ∈ node.tree) : found ∈ source.tree := by
  induction source using inductionOnElements with
  | text content | comment content =>
    rw [List.mem_singleton.mp hnode] at hfound
    exact hfound
  | fragment children => cases hnode
  | element space tag attributes children ih =>
    rw [tree, treeOf_eq_flatMap, List.mem_cons, List.mem_flatMap] at hnode
    rcases hnode with rfl | ⟨child, hchild, hbelow⟩
    · exact hfound
    · rw [tree, treeOf_eq_flatMap]
      have hmem := List.mem_flatMap.mpr ⟨child, hchild, ih child hchild hbelow⟩
      exact List.mem_cons_of_mem _ hmem

/-- Below a node without texts there are none. -/
theorem texts_eq_nil_of_mem_tree {source found : Node} (hfound : found ∈ source.tree)
    (htexts : source.texts = []) : found.texts = [] := by
  rw [texts, List.flatMap_eq_nil_iff] at htexts ⊢
  exact fun below hbelow => htexts below (mem_tree_trans hfound hbelow)

/-- The children of an element of a page. -/
def children : Node → List Node
  | element _ _ _ children => children
  | _ => []

/-- Is a node an element with a given tag, in capitals or not? -/
def isNamed (name : String) : Node → Bool
  | element _ tag _ _ => Text.lowerAscii tag == name.toList
  | _ => false

/-- Is a node an element that is taken for a text or a comment? -/
def isMisread (node : Node) : Bool :=
  node.isNamed "text" || node.isNamed "comment"

/-- Does no element that is taken for a text or a comment hold any texts? -/
def IsLegible (node : Node) : Prop :=
  ∀ found ∈ node.tree, found.isMisread = true → found.texts = []

instance (node : Node) : Decidable node.IsLegible :=
  inferInstanceAs (Decidable (∀ found ∈ node.tree, found.isMisread = true → found.texts = []))

theorem isLegible_text (content : Text) : (text content).IsLegible := by
  intro found hfound hmisread
  rw [List.mem_singleton.mp hfound] at hmisread
  cases hmisread

theorem isLegible_comment (content : Text) : (comment content).IsLegible := by
  intro found hfound hmisread
  rw [List.mem_singleton.mp hfound] at hmisread
  cases hmisread

theorem isLegible_fragment (children : List Node) : (fragment children).IsLegible := by
  intro found hfound
  cases hfound

theorem isLegible_element {space : Space} {tag : Text} {attributes : List Attribute}
    {children : List Node} (hread : (element space tag attributes children).isMisread = false) :
    (element space tag attributes children).IsLegible ↔ ∀ child ∈ children, child.IsLegible := by
  unfold IsLegible
  rw [tree, treeOf_eq_flatMap]
  simp only [List.forall_mem_cons, hread, List.mem_flatMap]
  constructor
  · intro hbelow child hchild found hfound
    exact hbelow.2 found ⟨child, hchild, hfound⟩
  · intro hchildren
    refine ⟨fun hmisread => absurd hmisread Bool.false_ne_true, ?_⟩
    rintro found ⟨child, hchild, hfound⟩
    exact hchildren child hchild found hfound

theorem isLegible_of_texts_eq_nil {node : Node} (htexts : node.texts = []) : node.IsLegible :=
  fun _ hfound _ => texts_eq_nil_of_mem_tree hfound htexts

/-- An element that is taken for something else is legible if it holds no texts. -/
theorem isLegible_of_isMisread {node : Node} (hnode : node ∈ node.tree)
    (hmisread : node.isMisread = true) : node.IsLegible ↔ node.texts = [] :=
  ⟨fun hlegible => hlegible node hnode hmisread, isLegible_of_texts_eq_nil⟩

/-- Does an element show all texts below it, as the text of its node?  An element
that is named like a text shows none of its own; one that is named like a comment
shows its own, but is skipped with them in the text of an element around it. -/
def ShowsTexts (node : Node) : Prop :=
  (node.isNamed "text" = true → node.texts = []) ∧ ∀ child ∈ node.children, child.IsLegible

instance (node : Node) : Decidable node.ShowsTexts :=
  inferInstanceAs (Decidable (_ ∧ _))

end Html.Node

namespace Node

open Html.Node (texts tree isMisread IsLegible)

/-! ## The nodes of an article and of its page -/

theorem allOfPage_eq_flatMap (sources : List Html.Node) :
    allOfPage sources = sources.flatMap ofPage := by
  induction sources with
  | nil => rfl
  | cons source rest ih => rw [allOfPage, ih, List.flatMap_cons]

/-- The nodes of an article are what becomes of the nodes of its page, in the same
order. -/
theorem preorder_ofPage (source : Html.Node) :
    (ofPage source).flatMap preorder = source.tree.flatMap ofPage := by
  induction source using Html.Node.inductionOnElements with
  | text content => rfl
  | comment content => rfl
  | fragment children => rfl
  | element space tag attributes children ih =>
    rw [tree, Html.Node.treeOf_eq_flatMap, List.flatMap_cons, List.flatMap_assoc]
    rw [ofPage, List.flatMap_singleton, preorder_eq, ofParts, Node.children, allOfPage_eq_flatMap,
      List.flatMap_assoc, List.flatMap_congr ih]
    rfl

/-! ## What a node adds to the text around it -/

/-- Elements are taken for a text or a comment by their tags. -/
theorem ofTag_misread_iff {space : Html.Space} {tag : Text} {attributes : List Html.Attribute}
    {children : List Html.Node} :
    (Kind.ofTag (Text.lowerAscii tag) = .text ∨ Kind.ofTag (Text.lowerAscii tag) = .comment) ↔
      isMisread (.element space tag attributes children) = true := by
  rw [Kind.ofTag_eq_text_iff, Kind.ofTag_eq_comment_iff, Text.lowerAscii_lowerAscii]
  simp [isMisread, Html.Node.isNamed]

theorem innerTextOf_singleton (node : Node) : innerTextOf [node] = node.innerText := by
  rw [innerTextOf, innerTextOf, List.append_nil]

theorem innerTextOf_allOfPage (sources : List Html.Node) :
    innerTextOf (allOfPage sources) =
      sources.flatMap fun source => innerTextOf (ofPage source) := by
  induction sources with
  | nil => rfl
  | cons source rest ih => rw [allOfPage, innerTextOf_append, ih, List.flatMap_cons]

/-- An element that is taken for something else adds nothing, and any other element
what its children add. -/
theorem innerTextOf_ofPage_element (space : Html.Space) (tag : Text)
    (attributes : List Html.Attribute) (children : List Html.Node) :
    innerTextOf (ofPage (.element space tag attributes children)) =
      if isMisread (.element space tag attributes children) then []
      else children.flatMap fun child => innerTextOf (ofPage child) := by
  rw [ofPage, innerTextOf_singleton, ofParts, innerText, innerTextOf_allOfPage]
  exact if_congr ofTag_misread_iff rfl rfl

/-- No text is added on the way from a page to its article. -/
theorem innerTextOf_sublist_texts (source : Html.Node) :
    (innerTextOf (ofPage source)).Sublist source.texts := by
  induction source using Html.Node.inductionOnElements with
  | text content => exact .refl _
  | comment content => exact .refl _
  | fragment children => exact .refl _
  | element space tag attributes children ih =>
    rw [innerTextOf_ofPage_element, Html.Node.texts_element]
    split
    · exact List.nil_sublist _
    · exact List.Sublist.flatMap_right children ih

/-- Parts of texts are the whole texts together only if each of them is. -/
theorem flatMap_eq_iff_of_sublist {α : Type} {items : List α} {parts wholes : α → Text}
    (hparts : ∀ item ∈ items, (parts item).Sublist (wholes item)) :
    items.flatMap parts = items.flatMap wholes ↔ ∀ item ∈ items, parts item = wholes item := by
  refine ⟨fun heq => ?_, List.flatMap_congr⟩
  induction items with
  | nil => simp
  | cons item rest ih =>
    obtain ⟨hitem, hrest⟩ := List.forall_mem_cons.mp hparts
    rw [List.flatMap_cons, List.flatMap_cons] at heq
    have hfront : (parts item).length = (wholes item).length := by
      have hlength := congrArg List.length heq
      have hitemLength := hitem.length_le
      have hrestLength := (List.Sublist.flatMap_right rest hrest).length_le
      rw [List.length_append, List.length_append] at hlength
      omega
    obtain ⟨hhead, htail⟩ := List.append_inj heq hfront
    exact List.forall_mem_cons.mpr ⟨hhead, ih hrest htail⟩

/-- A node adds the texts of the page exactly if no element below it, itself
included, is taken for something else and holds texts. -/
theorem innerTextOf_ofPage_eq_iff (source : Html.Node) :
    innerTextOf (ofPage source) = source.texts ↔ source.IsLegible := by
  induction source using Html.Node.inductionOnElements with
  | text content => exact iff_of_true rfl (Html.Node.isLegible_text content)
  | comment content => exact iff_of_true rfl (Html.Node.isLegible_comment content)
  | fragment children => exact iff_of_true rfl (Html.Node.isLegible_fragment children)
  | element space tag attributes children ih =>
    rw [innerTextOf_ofPage_element]
    split
    · rename_i hmisread
      rw [Html.Node.isLegible_of_isMisread (List.mem_cons_self ..) hmisread, eq_comm]
    · rename_i hread
      rw [Html.Node.texts_element, Html.Node.isLegible_element (eq_false_of_ne_true hread),
        flatMap_eq_iff_of_sublist fun child _ => innerTextOf_sublist_texts child]
      exact forall₂_congr ih

theorem innerTextOf_allOfPage_eq_iff (sources : List Html.Node) :
    innerTextOf (allOfPage sources) = sources.flatMap texts ↔
      ∀ source ∈ sources, source.IsLegible := by
  rw [innerTextOf_allOfPage,
    flatMap_eq_iff_of_sublist fun source _ => innerTextOf_sublist_texts source]
  exact forall₂_congr fun source _ => innerTextOf_ofPage_eq_iff source

/-- A node has the texts of the page below it as its text exactly if it shows
them. -/
theorem words_eq_texts_iff_showsTexts {source : Html.Node} {node : Node}
    (hnode : node ∈ ofPage source) : node.words = source.texts ↔ source.ShowsTexts := by
  cases source with
  | text content =>
    rw [List.mem_singleton.mp hnode]
    exact iff_of_true (List.append_nil content).symm ⟨nofun, nofun⟩
  | comment content =>
    rw [List.mem_singleton.mp hnode]
    exact iff_of_true rfl ⟨nofun, nofun⟩
  | fragment children => cases hnode
  | element space tag attributes children =>
    rw [List.mem_singleton.mp hnode, ofParts, words, Html.Node.ShowsTexts, Html.Node.isNamed,
      Html.Node.children, Html.Node.texts_element, beq_iff_eq]
    have hkind : Kind.ofTag (Text.lowerAscii tag) = .text ↔
        Text.lowerAscii tag = "text".toList := by
      rw [Kind.ofTag_eq_text_iff, Text.lowerAscii_lowerAscii]
    by_cases hname : Text.lowerAscii tag = "text".toList
    · rw [if_pos (hkind.mpr hname), eq_comm]
      refine ⟨fun htexts => ⟨fun _ => htexts, fun child hchild => ?_⟩, fun hshows => hshows.1 hname⟩
      exact Html.Node.isLegible_of_texts_eq_nil (List.flatMap_eq_nil_iff.mp htexts child hchild)
    · rw [if_neg (mt hkind.mp hname), innerTextOf_allOfPage_eq_iff]
      exact ⟨fun hlegible => ⟨fun htext => absurd htext hname, hlegible⟩, And.right⟩

end Node

/-- The text of an article is the text of its page, up to elements that are taken for
something else.  The nodes of an article are what becomes of the nodes of its page,
in the same order; and for each of these nodes, the text of the node is the texts
below it in the page exactly if no element below it is named like a text or a
comment and holds texts, and the node itself is not named like a text and holds
texts. -/
theorem words_eq_texts_iff (source : Html.Node) :
    (Node.ofPage source).flatMap Node.preorder = source.tree.flatMap Node.ofPage ∧
    ∀ found ∈ source.tree, ∀ node ∈ Node.ofPage found,
      (node.words = found.texts ↔ found.ShowsTexts) :=
  ⟨Node.preorder_ofPage source, fun _ _ _ hnode => Node.words_eq_texts_iff_showsTexts hnode⟩

/-- A paragraph with a comment, an empty element that is named like a text, and
emphasis. -/
theorem words_eq_texts_iff_paragraph :
    let empty : Html.Node := .element .svg "text".toList [] []
    let emphasis : Html.Node := .element .html "em".toList [] [.text "two".toList]
    let source : Html.Node := .element .html "p".toList []
      [.text "one ".toList, .comment "and".toList, empty, emphasis]
    source ∈ source.tree ∧ source.ShowsTexts ∧
      ∀ node ∈ Node.ofPage source, node.words = "one two".toList := by
  intro empty emphasis source
  have hsource : source ∈ source.tree := List.mem_cons_self ..
  have hshows : source.ShowsTexts := by decide +kernel
  have htexts : source.texts = "one two".toList := by decide +kernel
  refine ⟨hsource, hshows, fun node hnode => ?_⟩
  rw [← htexts]
  exact ((words_eq_texts_iff source).2 source hsource node hnode).mpr hshows

/-- What an element that is named like a text holds is missing from the text of the
element around it. -/
theorem words_lose_text_element :
    let page := Html.parse "<h2 class=content>one <text>two</text></h2>".toList
    page.content?.map Html.Node.texts = some "one two".toList ∧
      (page.content?.toList.flatMap Node.ofPage).map Node.words = ["one ".toList] ∧
      ¬ ∀ source : Html.Node, ∀ node ∈ Node.ofPage source, node.words = source.texts := by
  have hreadings :
      let page := Html.parse "<h2 class=content>one <text>two</text></h2>".toList
      page.content?.map Html.Node.texts = some "one two".toList ∧
        (page.content?.toList.flatMap Node.ofPage).map Node.words = ["one ".toList] := by
    decide +kernel
  intro page
  obtain ⟨htexts, hwords⟩ := hreadings
  refine ⟨htexts, hwords, fun hall => ?_⟩
  obtain ⟨source, hsource, hsourceTexts⟩ := Option.map_eq_some_iff.mp htexts
  rw [hsource, Option.toList_some, List.flatMap_singleton, List.map_eq_singleton_iff] at hwords
  obtain ⟨node, hnode, hnodeWords⟩ := hwords
  have hlost := hall source node (hnode ▸ List.mem_singleton_self node)
  rw [hnodeWords, hsourceTexts] at hlost
  exact absurd hlost (by decide)

end ForumPost
