import Mathlib.Data.List.Basic
import ForumPost.Proofs.Article.Tree

/-!
# Places in an article

One node may stand in an article several times.  A place is a node together with the
nodes that it stands in, and `Node.places` lists the places below a node in document
order.  Without what they stand in they are the nodes below it
(`Node.map_node_places`).

`Node.allBelow` looks for nodes of a kind and does not look inside of what it finds.
In terms of places it finds the outermost nodes of the kind, which are not inside of
another one (`Node.allBelow_eq_outermost`).
-/

namespace ForumPost

/-- A node, and the nodes that it stands in, innermost first. -/
structure Place where
  above : List Node
  node : Node

/-- Is the node of a given kind, and nothing that it stands in? -/
def Place.isOutermost (wanted : Kind) (place : Place) : Bool :=
  place.node.kind = wanted ∧ ∀ outer ∈ place.above, outer.kind ≠ wanted

namespace Node

mutual

/-- The places of a node and of all that is below it, in document order.  `above` are
the nodes that the node stands in. -/
def placesFrom (above : List Node) : Node → List Place
  | text content => [{ above, node := text content }]
  | comment => [{ above, node := comment }]
  | element kind tag attributes classes children =>
    let node := element kind tag attributes classes children
    { above, node } :: placesAmong (node :: above) children

/-- The places of nodes and of all that is below them. -/
def placesAmong (above : List Node) : List Node → List Place
  | [] => []
  | node :: rest => placesFrom above node ++ placesAmong above rest

end

/-- The places below a node, seen from there. -/
def places (node : Node) : List Place :=
  placesAmong [] node.children

/-- The nodes of a kind below a node that are inside of no other such node there, in
document order. -/
def outermost (wanted : Kind) (node : Node) : List Node :=
  (node.places.filter (·.isOutermost wanted)).map Place.node

theorem placesAmong_eq_flatMap (above nodes : List Node) :
    placesAmong above nodes = nodes.flatMap (placesFrom above) := by
  induction nodes with
  | nil => rfl
  | cons node rest ih => rw [placesAmong, ih, List.flatMap_cons]

theorem placesFrom_eq (above : List Node) (node : Node) :
    placesFrom above node =
      { above, node } :: node.children.flatMap (placesFrom (node :: above)) := by
  cases node with
  | text content => rfl
  | comment => rfl
  | element kind tag attributes classes nodes => rw [placesFrom, placesAmong_eq_flatMap, children]

theorem map_node_placesFrom (above : List Node) (node : Node) :
    (placesFrom above node).map Place.node = node.preorder := by
  induction node using inductionOnChildren generalizing above with
  | step node ih =>
    rw [placesFrom_eq, List.map_cons, List.map_flatMap, preorder_eq]
    congr 1
    exact List.flatMap_congr fun child hchild => ih child hchild (node :: above)

/-- The places below a node are those of the nodes below it. -/
theorem map_node_places (node : Node) :
    node.places.map Place.node = node.children.flatMap preorder := by
  rw [places, placesAmong_eq_flatMap, List.map_flatMap]
  exact List.flatMap_congr fun child _ => map_node_placesFrom [] child

/-! ## Outermost nodes -/

section Outermost

variable {wanted : Kind} {above : List Node}

/-- Inside of a node of the kind, none is outermost. -/
theorem filter_placesFrom_of_mem {outer : Node} (houter : outer ∈ above)
    (hkind : outer.kind = wanted) (node : Node) :
    (placesFrom above node).filter (·.isOutermost wanted) = [] := by
  induction node using inductionOnChildren generalizing above with
  | step node ih =>
    have hhere : ¬ (Place.mk above node).isOutermost wanted = true := by
      simp only [Place.isOutermost, decide_eq_true_eq]
      exact fun houtermost => houtermost.2 outer houter hkind
    rw [placesFrom_eq, List.filter_cons_of_neg hhere, List.filter_flatMap, List.flatMap_eq_nil_iff]
    exact fun child hchild => ih child hchild (List.mem_cons_of_mem node houter)

/-- Elsewhere it is the node itself, or else what is found below it. -/
theorem map_filter_placesFrom (habove : ∀ outer ∈ above, outer.kind ≠ wanted) (node : Node) :
    ((placesFrom above node).filter (·.isOutermost wanted)).map Place.node =
      if node.kind = wanted then [node] else node.allBelow wanted := by
  induction node using inductionOnChildren generalizing above with
  | step node ih =>
    have hhere : (Place.mk above node).isOutermost wanted = decide (node.kind = wanted) := by
      simp only [Place.isOutermost, and_iff_left habove]
    rw [placesFrom_eq, List.filter_cons, hhere, List.filter_flatMap]
    by_cases hkind : node.kind = wanted
    · have hbelow : node.children.flatMap (fun child =>
          (placesFrom (node :: above) child).filter (·.isOutermost wanted)) = [] := by
        rw [List.flatMap_eq_nil_iff]
        exact fun child _ => filter_placesFrom_of_mem (List.mem_cons_self ..) hkind child
      simp [hkind, hbelow]
    · have hinside : ∀ outer ∈ node :: above, outer.kind ≠ wanted :=
        List.forall_mem_cons.mpr ⟨hkind, habove⟩
      rw [if_neg (by simpa using hkind), if_neg hkind, allBelow_eq_allAmong, allAmong_eq_flatMap,
        List.map_flatMap]
      exact List.flatMap_congr fun child hchild => ih child hchild hinside

end Outermost

/-- What is found below a node are the outermost nodes of the kind. -/
theorem allBelow_eq_outermost (wanted : Kind) (node : Node) :
    node.allBelow wanted = node.outermost wanted := by
  rw [outermost, places, placesAmong_eq_flatMap, List.filter_flatMap, List.map_flatMap,
    allBelow_eq_allAmong, allAmong_eq_flatMap]
  exact List.flatMap_congr fun child _ => (map_filter_placesFrom (by simp) child).symm

end Node

end ForumPost
