import ForumPost.Article.OfPage
import ForumPost.Proofs.Article.Tree
import ForumPost.Proofs.Lookup

/-!
# Nodes that come from pages

In an article that comes from a page the kind of every node follows from its
tag, and the tag is in small letters (`Node.Named`).  An article that is put
together in another way may pair any kind with any tag.

Such a kind is either unknown or a pair of `Kind.known`, so that facts about
named nodes come from that list.
-/

namespace ForumPost

/-- A small letter stays as it is. -/
theorem toLower_toLower (c : Char) : c.toLower.toLower = c.toLower := by
  have hsmall : ¬ (c.toLower.val ≥ 'A'.val ∧ c.toLower.val ≤ 'Z'.val) := by
    unfold Char.toLower
    split
    · rename_i hcapital
      have hfirst := UInt32.le_iff_toNat_le.mp hcapital.1
      have hlast := UInt32.le_iff_toNat_le.mp hcapital.2
      simp only [ge_iff_le, UInt32.le_iff_toNat_le, UInt32.toNat_add]
      intro hboth
      simp at hfirst hlast hboth
      omega
    · assumption
  exact dif_neg hsmall

theorem Text.lowerAscii_lowerAscii (text : Text) :
    lowerAscii (lowerAscii text) = lowerAscii text := by
  rw [lowerAscii, lowerAscii, List.map_map]
  exact List.map_congr_left fun c _ => toLower_toLower c

/-- A kind that is known by name is known by the name that it was found by. -/
theorem Kind.mem_known_of_ofTag {tag : Text} {kind : Kind} (hkind : ofTag tag = kind)
    (hother : ∀ name, kind ≠ other name) : (String.ofList (Text.lowerAscii tag), kind) ∈ known := by
  unfold ofTag at hkind
  dsimp only at hkind
  cases hlookup : known.lookup (String.ofList (Text.lowerAscii tag)) with
  | none =>
    rw [hlookup, Option.getD_none] at hkind
    exact absurd hkind.symm (hother _)
  | some found =>
    rw [hlookup, Option.getD_some] at hkind
    rw [← hkind]
    exact mem_of_lookup_eq_some hlookup

theorem Kind.ofTag_text : ofTag "text".toList = text := by decide +kernel

theorem Kind.ofTag_comment : ofTag "comment".toList = comment := by decide +kernel

namespace Node

/-- The kind of a node follows from its tag, which is in small letters. -/
structure Named (node : Node) : Prop where
  kind_eq : node.kind = .ofTag node.tag
  lowerAscii_tag : Text.lowerAscii node.tag = node.tag

theorem Named.mem_known {node : Node} (hnode : node.Named)
    (hother : ∀ name, node.kind ≠ .other name) :
    (String.ofList node.tag, node.kind) ∈ Kind.known := by
  have hknown := Kind.mem_known_of_ofTag hnode.kind_eq.symm hother
  rwa [hnode.lowerAscii_tag] at hknown

mutual

/-- Every node of an article that comes from a page is named. -/
theorem named_of_mem_ofPage : ∀ (source : Html.Node) {root node : Node},
    root ∈ ofPage source → node ∈ root.preorder → node.Named
  | .text content, root, node, hroot, hnode => by
    rw [List.mem_singleton.mp hroot] at hnode
    rw [List.mem_singleton.mp hnode]
    exact ⟨Kind.ofTag_text.symm, rfl⟩
  | .comment content, root, node, hroot, hnode => by
    rw [List.mem_singleton.mp hroot] at hnode
    rw [List.mem_singleton.mp hnode]
    exact ⟨Kind.ofTag_comment.symm, rfl⟩
  | .fragment children, root, node, hroot, hnode => by
    cases hroot
  | .element space tag attributes children, root, node, hroot, hnode => by
    rw [ofPage] at hroot
    rw [List.mem_singleton.mp hroot, preorder_eq] at hnode
    rcases List.mem_cons.mp hnode with rfl | hbelow
    · exact ⟨rfl, Text.lowerAscii_lowerAscii tag⟩
    · obtain ⟨child, hchild, hnode⟩ := List.mem_flatMap.mp hbelow
      exact named_of_mem_allOfPage children hchild hnode

theorem named_of_mem_allOfPage : ∀ (sources : List Html.Node) {root node : Node},
    root ∈ allOfPage sources → node ∈ root.preorder → node.Named
  | [], root, node, hroot, hnode => by
    cases hroot
  | source :: rest, root, node, hroot, hnode => by
    rw [allOfPage] at hroot
    rcases List.mem_append.mp hroot with hfirst | hrest
    · exact named_of_mem_ofPage source hfirst hnode
    · exact named_of_mem_allOfPage rest hrest hnode

end

end Node

end ForumPost
