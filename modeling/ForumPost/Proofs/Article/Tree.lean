import ForumPost.Article.Node

/-!
# The tree of an article

A node of an article holds its children in a list, so that the recursor of
`Node` speaks about nodes and about lists of them.  `Node.inductionOnChildren`
is the induction that proofs about articles use: a fact holds of a node if it
holds of the children of the node.

`Node.preorder` lists a node and all that is below it in document order.  What
`words`, `findBelow` and `allBelow` give comes from that list, so that a fact
about every node of the tree is a fact about whatever they find.
-/

namespace ForumPost

namespace Node

/-- Induction over an article, from the children of a node to the node. -/
@[elab_as_elim]
theorem inductionOnChildren {motive : Node → Prop}
    (step : ∀ node, (∀ child ∈ node.children, motive child) → motive node) :
    ∀ node, motive node
  | .text content => step (.text content) (by simp [children])
  | .comment => step .comment (by simp [children])
  | .element kind tag attributes classes children =>
    step (.element kind tag attributes classes children) fun child _ =>
      inductionOnChildren step child
termination_by node => sizeOf node
decreasing_by
  have hsize : sizeOf child < sizeOf children := List.sizeOf_lt_of_mem ‹_›
  simp only [Node.element.sizeOf_spec]
  omega

/-! ## Document order -/

mutual

/-- A node and all that is below it, in document order. -/
def preorder : Node → List Node
  | text content => [text content]
  | comment => [comment]
  | element kind tag attributes classes children =>
    element kind tag attributes classes children :: preorderOf children

/-- Nodes and all that is below them, in document order. -/
def preorderOf : List Node → List Node
  | [] => []
  | node :: rest => node.preorder ++ preorderOf rest

end

theorem preorderOf_eq_flatMap (nodes : List Node) :
    preorderOf nodes = nodes.flatMap preorder := by
  induction nodes with
  | nil => rfl
  | cons node rest ih => rw [preorderOf, ih, List.flatMap_cons]

theorem preorder_eq (node : Node) : node.preorder = node :: node.children.flatMap preorder := by
  cases node with
  | text content => rfl
  | comment => rfl
  | element kind tag attributes classes nodes =>
    rw [preorder, preorderOf_eq_flatMap, children]

theorem mem_preorder_self (node : Node) : node ∈ node.preorder := by
  rw [preorder_eq]
  exact List.mem_cons_self ..

theorem mem_preorder_of_mem_children {node child found : Node} (hchild : child ∈ node.children)
    (hfound : found ∈ child.preorder) : found ∈ node.preorder := by
  rw [preorder_eq]
  exact List.mem_cons_of_mem node (List.mem_flatMap.mpr ⟨child, hchild, hfound⟩)

/-- What is below a node of a tree is in the tree. -/
theorem mem_preorder_trans {root node found : Node} (hnode : node ∈ root.preorder)
    (hfound : found ∈ node.preorder) : found ∈ root.preorder := by
  induction root using inductionOnChildren with
  | step root ih =>
    rw [preorder_eq, List.mem_cons, List.mem_flatMap] at hnode
    rcases hnode with rfl | ⟨child, hchild, hbelow⟩
    · exact hfound
    · exact mem_preorder_of_mem_children hchild (ih child hchild hbelow)

/-! ## What is found in a tree -/

/-- The text of a text node.  Other nodes have no text of their own. -/
def ownText : Node → Text
  | text content => content
  | _ => []

theorem innerTextOf_eq_flatMap (nodes : List Node) :
    innerTextOf nodes = nodes.flatMap innerText := by
  induction nodes with
  | nil => rfl
  | cons node rest ih => rw [innerTextOf, ih, List.flatMap_cons]

private theorem exists_of_mem_innerText {c : Char} {node : Node} (hc : c ∈ node.innerText) :
    ∃ found ∈ node.preorder, c ∈ found.ownText := by
  induction node using inductionOnChildren with
  | step node ih =>
    cases node with
    | text content => exact ⟨.text content, mem_preorder_self _, hc⟩
    | comment => simp [innerText] at hc
    | element kind tag attributes classes nodes =>
      rw [innerText] at hc
      split at hc
      · simp at hc
      · rw [innerTextOf_eq_flatMap, List.mem_flatMap] at hc
        obtain ⟨child, hchild, hc⟩ := hc
        obtain ⟨found, hfound, hmem⟩ := ih child hchild hc
        exact ⟨found, mem_preorder_of_mem_children hchild hfound, hmem⟩

/-- The text of a node consists of texts that stand in its tree. -/
theorem exists_of_mem_words {c : Char} {node : Node} (hc : c ∈ node.words) :
    ∃ found ∈ node.preorder, c ∈ found.ownText := by
  cases node with
  | text content => exact ⟨.text content, mem_preorder_self _, hc⟩
  | comment => simp [words] at hc
  | element kind tag attributes classes nodes =>
    rw [words] at hc
    split at hc
    · simp at hc
    · rw [innerTextOf_eq_flatMap, List.mem_flatMap] at hc
      obtain ⟨child, hchild, hc⟩ := hc
      obtain ⟨found, hfound, hmem⟩ := exists_of_mem_innerText hc
      exact ⟨found, mem_preorder_of_mem_children hchild hfound, hmem⟩

theorem allAmong_eq_flatMap (wanted : Kind) (nodes : List Node) :
    allAmong wanted nodes =
      nodes.flatMap fun node => if node.kind = wanted then [node] else node.allBelow wanted := by
  induction nodes with
  | nil => rfl
  | cons node rest ih => rw [allAmong, ih, List.flatMap_cons]

theorem allBelow_eq_allAmong (wanted : Kind) (node : Node) :
    node.allBelow wanted = allAmong wanted node.children := by
  cases node <;> rfl

theorem mem_preorder_of_mem_allBelow {wanted : Kind} {node found : Node}
    (hfound : found ∈ node.allBelow wanted) : found ∈ node.preorder := by
  induction node using inductionOnChildren with
  | step node ih =>
    rw [allBelow_eq_allAmong, allAmong_eq_flatMap, List.mem_flatMap] at hfound
    obtain ⟨child, hchild, hfound⟩ := hfound
    apply mem_preorder_of_mem_children hchild
    split at hfound
    · rw [List.mem_singleton.mp hfound]
      exact mem_preorder_self child
    · exact ih child hchild hfound

theorem findBelow_eq_findAmong (wanted : Kind) (node : Node) :
    node.findBelow wanted = findAmong wanted node.children := by
  cases node <;> rfl

theorem mem_preorder_of_findBelow {wanted : Kind} {node found : Node}
    (hfound : node.findBelow wanted = some found) : found ∈ node.preorder := by
  induction node using inductionOnChildren with
  | step node ih =>
    rw [findBelow_eq_findAmong] at hfound
    suffices hamong : ∀ nodes : List Node, (∀ child ∈ nodes, child ∈ node.children) →
        findAmong wanted nodes = some found → found ∈ node.preorder from
      hamong node.children (fun _ hchild => hchild) hfound
    intro nodes hnodes hfound
    induction nodes with
    | nil => simp [findAmong] at hfound
    | cons child rest ihrest =>
      have hchild := hnodes child (List.mem_cons_self ..)
      rw [findAmong] at hfound
      split at hfound
      · rw [← Option.some.inj hfound]
        exact mem_preorder_of_mem_children hchild (mem_preorder_self child)
      · split at hfound
        · rename_i hbelow
          rw [Option.some.inj hfound] at hbelow
          exact mem_preorder_of_mem_children hchild (ih child hchild hbelow)
        · exact ihrest (fun other hother => hnodes other (List.mem_cons_of_mem child hother)) hfound

/-! ## Classes of characters -/

/-- Every character of the texts of an article satisfies `p`. -/
def TextsSatisfy (p : Char → Prop) (node : Node) : Prop :=
  ∀ found ∈ node.preorder, ∀ c ∈ found.ownText, p c

instance (p : Char → Prop) [DecidablePred p] (node : Node) : Decidable (node.TextsSatisfy p) :=
  have : DecidablePred fun found : Node => ∀ c ∈ found.ownText, p c := fun found =>
    List.decidableBAll p found.ownText
  List.decidableBAll (fun found : Node => ∀ c ∈ found.ownText, p c) node.preorder

section TextsSatisfy

variable {p : Char → Prop} {node : Node}

theorem TextsSatisfy.of_mem (h : node.TextsSatisfy p) {found : Node}
    (hfound : found ∈ node.preorder) : found.TextsSatisfy p :=
  fun below hbelow => h below (mem_preorder_trans hfound hbelow)

theorem TextsSatisfy.child (h : node.TextsSatisfy p) {child : Node}
    (hchild : child ∈ node.children) : child.TextsSatisfy p :=
  h.of_mem (mem_preorder_of_mem_children hchild (mem_preorder_self child))

theorem TextsSatisfy.words (h : node.TextsSatisfy p) : ∀ c ∈ node.words, p c := by
  intro c hc
  obtain ⟨found, hfound, hmem⟩ := exists_of_mem_words hc
  exact h found hfound c hmem

end TextsSatisfy

end Node

end ForumPost
