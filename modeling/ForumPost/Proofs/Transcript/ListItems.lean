import ForumPost.Proofs.Text.Tidying
import ForumPost.Proofs.Transcript.Buffer

/-!
# Items on lines of their own

A list gives one fragment for each of its items, and joining puts a space in
between.  Each fragment begins with a bullet and ends in a line feed, so that the
space stands behind a line feed and is taken out again: tidying the list is
tidying each item by itself (`tidiedAlone_joined`).

* No gap behind a link, and no line feed with a space behind it, reaches from one
  item into the next.  This takes the last character of an item and the first one
  of the next, and nothing else about them.
* Stripping takes line feeds off the last item only, since every item begins with
  its bullet.

So each bullet is the first character of a line, whatever the items hold
(`listItems_tidied`).
-/

namespace ForumPost

namespace Fragments

/-- A fragment without the spaces that are taken out of a block, when nothing else
is in the block. -/
def tidiedAlone (fragment : Text) : Text :=
  dedent (tightenLinks fragment)

theorem tidiedAlone_spacesDropped (fragment : Text) :
    Text.SpacesDropped fragment (tidiedAlone fragment) :=
  (spacesDropped_tightenLinks fragment).trans (spacesDropped_dedent _)

theorem head?_tidiedAlone {fragment : Text} (hspace : fragment.head? ≠ some ' ') :
    (tidiedAlone fragment).head? = fragment.head? :=
  (tidiedAlone_spacesDropped fragment).head?_eq hspace

theorem getLast?_tidiedAlone {fragment : Text} (hspace : fragment.getLast? ≠ some ' ') :
    (tidiedAlone fragment).getLast? = fragment.getLast? :=
  (tidiedAlone_spacesDropped fragment).getLast?_eq hspace

/-- The space behind a text that ends in a line feed is taken out. -/
theorem dedent_append_space {text : Text} (hfeed : text.getLast? = some '\n') (rest : Text) :
    dedent (text ++ ' ' :: rest) = dedent text ++ dedent rest := by
  obtain ⟨front, rfl⟩ := List.getLast?_eq_some_iff.mp hfeed
  have hfront (behind : Text) : dedent (front ++ '\n' :: behind) =
      dedent front ++ dedent ('\n' :: behind) := dedent_append (.of_next (by simp [indented]))
  have hspace : dedent ('\n' :: ' ' :: rest) = '\n' :: dedent rest :=
    Text.replaceAll_append_self (indented_ne_nil 1) rest
  calc dedent (front ++ ['\n'] ++ ' ' :: rest)
    _ = dedent front ++ dedent ('\n' :: ' ' :: rest) := by
      rw [List.append_assoc, List.singleton_append, hfront]
    _ = dedent front ++ dedent ['\n'] ++ dedent rest := by
      rw [hspace, List.append_assoc]
      rfl
    _ = dedent (front ++ ['\n']) ++ dedent rest := by rw [hfront]

/-- Neither replacement reaches across the end of a text that ends in a line feed,
except for the one space behind it. -/
theorem tidiedAlone_append_space {text : Text} (hfeed : text.getLast? = some '\n')
    (rest : Text) : tidiedAlone (text ++ ' ' :: rest) = tidiedAlone text ++ tidiedAlone rest := by
  have hlinks : tightenLinks (text ++ ' ' :: rest) =
      tightenLinks text ++ tightenLinks (' ' :: rest) := by
    apply tightenLinks_append
    apply Text.Apart.of_last
    rintro c hc hlast
    obtain rfl : '\n' = c := Option.some.inj (hfeed.symm.trans hlast)
    have hfeedless : '\n' ∉ linkGap.dropLast := by decide
    exact hfeedless hc
  have hspace : tightenLinks (' ' :: rest) = ' ' :: tightenLinks rest := by
    apply Text.replaceAll_cons
    intro hstarts
    have hopening := (List.cons_prefix_cons.mp hstarts).1
    exact absurd hopening (by decide)
  have hlast : (tightenLinks text).getLast? = some '\n' := by
    rw [(spacesDropped_tightenLinks text).getLast?_eq (by rw [hfeed]; decide), hfeed]
  rw [tidiedAlone, hlinks, hspace, dedent_append_space hlast]
  rfl

/-- Fragments that end in line feeds are tidied one by one. -/
theorem tidiedAlone_joined {fragments : Fragments}
    (hfeeds : ∀ fragment ∈ fragments, fragment.getLast? = some '\n') :
    tidiedAlone (fragments.joined " ") = fragments.flatMap tidiedAlone := by
  induction fragments with
  | nil => rfl
  | cons fragment rest ih =>
    rw [List.forall_mem_cons] at hfeeds
    cases rest with
    | nil => rw [joined, Text.join_singleton, List.flatMap_singleton]
    | cons second others =>
      have hjoined : joined " " (fragment :: second :: others) =
          fragment ++ ' ' :: joined " " (second :: others) := by
        rw [joined, Text.join_cons_cons]
        exact List.append_assoc ..
      rw [hjoined, tidiedAlone_append_space hfeeds.1, ih hfeeds.2]
      rfl

/-! ## Items in a row -/

/-- What an item gives: a bullet in front, and the end of the line behind it. -/
structure IsItem (fragment : Text) : Prop where
  bullet : fragment.head? = some '*'
  lineFeed : fragment.getLast? = some '\n'

/-- An item is still one when it is tidied. -/
theorem IsItem.tidiedAlone {item : Text} (hitem : IsItem item) : IsItem (tidiedAlone item) where
  bullet := by
    rw [head?_tidiedAlone (by rw [hitem.bullet]; decide), hitem.bullet]
  lineFeed := by
    rw [getLast?_tidiedAlone (by rw [hitem.lineFeed]; decide), hitem.lineFeed]

theorem IsItem.head?_flatMap {item : Text} (hitem : IsItem item) (rest : Fragments) :
    ((item :: rest).flatMap Fragments.tidiedAlone).head? = some '*' := by
  rw [List.flatMap_cons, List.head?_append, hitem.tidiedAlone.bullet]
  rfl

section Items

variable {items : Fragments} (hitems : ∀ item ∈ items, IsItem item)

include hitems

/-- Items one after the other begin with a bullet, if there are any. -/
theorem head?_flatMap_tidiedAlone : ∀ c ∈ (items.flatMap tidiedAlone).head?, c = '*' := by
  cases items with
  | nil => exact fun c hc => absurd hc (by simp)
  | cons item rest =>
    intro c hc
    rw [(hitems item (List.mem_cons_self ..)).head?_flatMap] at hc
    exact (Option.some.inj hc).symm

/-- They end in a line feed, if there are any. -/
theorem getLast?_flatMap_tidiedAlone : ∀ c ∈ (items.flatMap tidiedAlone).getLast?, c = '\n' := by
  rcases List.eq_nil_or_concat items with rfl | ⟨front, item, rfl⟩
  · exact fun c hc => absurd hc (by simp)
  · intro c hc
    have hback := (hitems item (by simp)).tidiedAlone.lineFeed
    rw [List.concat_eq_append, List.flatMap_append, List.flatMap_singleton, List.getLast?_append,
      hback] at hc
    exact (Option.some.inj hc).symm

/-- Items are tidied one by one and stripped together. -/
theorem tidied_items : items.tidied = Text.strip (items.flatMap tidiedAlone) := by
  rw [tidied_eq_strip, ← tidiedAlone_joined fun item hitem => (hitems item hitem).lineFeed]
  rfl

end Items

/-- Stripping leaves the items in front of another one as they are. -/
theorem strip_items {front back : Fragments} {item : Text}
    (hfront : ∀ other ∈ front, IsItem other) (hitem : IsItem item) :
    Text.strip ((front ++ item :: back).flatMap tidiedAlone) =
      front.flatMap tidiedAlone ++ Text.strip ((item :: back).flatMap tidiedAlone) := by
  rw [List.flatMap_append]
  refine Text.strip_append (fun c hc => ?_) (hitem.head?_flatMap back) rfl
  rw [head?_flatMap_tidiedAlone hfront c hc]
  rfl

end Fragments

/-! ## Lists -/

namespace Node

/-- Does a node stand between the items of a list without a trace?  That is so for
the elements that are left out, and for a text of edge characters. -/
def isSpacing (node : Node) : Bool :=
  match node.rule with
  | .leftOut => true
  | .plain => node.words.all Text.isEdge
  | _ => false

theorem rule_of_kind_eq_listItem {node : Node} (hkind : node.kind = .listItem) :
    node.rule = .gather .listItem := by
  rw [rule, hkind]

end Node

namespace Style

variable (style : Style)

open Fragments (IsItem tidiedAlone)

theorem isItem_listItem (fragments : Fragments) : IsItem (listItem fragments) where
  bullet := by
    rw [listItem_eq]
    rfl
  lineFeed := by
    rw [listItem_eq]
    exact List.getLast?_append_of_ne_nil _ (by decide)

theorem transcribe_of_isSpacing {node : Node} (hspacing : node.isSpacing = true) :
    style.transcribe node = .empty := by
  rw [transcribe_eq_writtenBy]
  unfold Node.isSpacing at hspacing
  cases hrule : node.rule with
  | leftOut => rfl
  | plain =>
    rw [hrule] at hspacing
    have hedges : Text.compact node.words = [] :=
      Text.compact_eq_nil_iff.mpr (List.all_eq_true.mp hspacing)
    have hstrip : Text.strip node.words = [] := by
      simpa using Text.strip_enclosed hedges Text.compact_nil []
    rw [writtenBy, plainText, hstrip]
    rfl
  | _ =>
    rw [hrule] at hspacing
    cases hspacing

/-- The fragment of a list item that could be written. -/
def itemText (item : Node) : Text :=
  listItem (style.transcribeAll item.children).fragments

/-- Items, and what leaves no trace, give one fragment for each item. -/
theorem fragments_transcribeAll_of_items {nodes : List Node}
    (hnodes : ∀ node ∈ nodes, node.kind = .listItem ∨ node.isSpacing = true)
    (hfailure : (style.transcribeAll nodes).failure = none) :
    (style.transcribeAll nodes).fragments =
      (nodes.filter fun node => node.kind = .listItem).map style.itemText := by
  obtain ⟨hwritten, hfragments⟩ := style.fragments_transcribeAll hfailure
  rw [hfragments]
  clear hfragments hfailure
  induction nodes with
  | nil => rfl
  | cons node rest ih =>
    rw [List.forall_mem_cons] at hnodes hwritten
    rw [List.flatMap_cons, ih hnodes.2 hwritten.2]
    by_cases hkind : node.kind = .listItem
    · have hrule := Node.rule_of_kind_eq_listItem hkind
      have hinner : (style.transcribeAll node.children).failure = none := by
        rw [← Transcript.failure_gather (style.gathered .listItem)]
        have hnode := hwritten.1
        rwa [transcribe_eq_writtenBy, hrule] at hnode
      rw [List.filter_cons_of_pos (by simpa using hkind), transcribe_eq_writtenBy, hrule, writtenBy,
        Transcript.fragments_gather hinner]
      rfl
    · rw [List.filter_cons_of_neg (by simpa using hkind),
        style.transcribe_of_isSpacing (hnodes.1.resolve_left hkind)]
      rfl

end Style

open Fragments (IsItem tidiedAlone) in
/-- Each item of a list stands on lines of its own.  A list whose children are items,
and otherwise leave no trace, gives one fragment for each item, in order.  When the
list is tidied, each of these fragments is tidied by itself, and the whole is stripped.
So whatever the items hold, what stands in front of an item ends its line, and the
item begins with its bullet. -/
theorem listItems_tidied (style : Style) {list : Node}
    (hlist : list.kind ∈ [Kind.bulletList, .numberedList, .definitionList])
    (hchildren : ∀ child ∈ list.children, child.kind = .listItem ∨ child.isSpacing = true)
    (hwritten : (style.transcribe list).failure = none) :
    let items := (style.transcribe list).fragments
    items = (list.children.filter fun child => child.kind = .listItem).map style.itemText ∧
      (∀ item ∈ items, IsItem item) ∧
      items.tidied = Text.strip (items.flatMap tidiedAlone) ∧
      ∀ front item back, items = front ++ item :: back →
        items.tidied =
          front.flatMap tidiedAlone ++ Text.strip ((item :: back).flatMap tidiedAlone) ∧
        (∀ c ∈ (front.flatMap tidiedAlone).getLast?, c = '\n') ∧
        (Text.strip ((item :: back).flatMap tidiedAlone)).head? = some '*' := by
  intro items
  have hcontainer : list.isContainer = true := by
    unfold Node.isContainer
    simp only [List.mem_cons, List.not_mem_nil, or_false] at hlist
    rcases hlist with hkind | hkind | hkind <;> rw [hkind]
  have heach : items = (list.children.filter fun child => child.kind = .listItem).map
      style.itemText := by
    have hall := style.transcribe_of_isContainer hcontainer
    rw [hall] at hwritten
    rw [← style.fragments_transcribeAll_of_items hchildren hwritten, ← hall]
  have hitems : ∀ item ∈ items, IsItem item := by
    rw [heach]
    intro item hitem
    obtain ⟨child, -, rfl⟩ := List.mem_map.mp hitem
    exact Style.isItem_listItem _
  refine ⟨heach, hitems, Fragments.tidied_items hitems, fun front item back hparts => ?_⟩
  have hparted := hitems
  rw [hparts, List.forall_mem_append, List.forall_mem_cons] at hparted
  obtain ⟨hfront, hitem, -⟩ := hparted
  refine ⟨?_, Fragments.getLast?_flatMap_tidiedAlone hfront,
    Text.head?_strip (hitem.head?_flatMap back) rfl⟩
  rw [Fragments.tidied_items hitems, hparts, Fragments.strip_items hfront hitem]

open Fragments (tidiedAlone) in
/-- A list with a nested list in its first item, a footnote mark, and an item with
nothing in it. -/
theorem listItems_tidied_nested :
    let style : Style := { dialect := .rpgGeek }
    let item (children : List Node) : Node := .element .listItem "li".toList [] [] children
    let inner : Node := .element .numberedList "ol".toList [] [] [item [.text "Two".toList]]
    let mark : Node := .element .superscript "sup".toList [] [] [.text "1".toList]
    let list : Node :=
      .element .bulletList "ul".toList [] []
        [.text "\n  ".toList, item [.text "One".toList, inner], mark, item []]
    let items := (style.transcribe list).fragments
    items = ["* One * Two\n\n".toList, "*\n".toList] ∧
      (style.transcribe list).failure = none ∧
      items.tidied = "* One * Two\n\n*".toList ∧
      items.tidied = Text.strip (items.flatMap tidiedAlone) ∧
      items.tidied =
        tidiedAlone "* One * Two\n\n".toList ++ Text.strip (tidiedAlone "*\n".toList) := by
  intro style item inner mark list items
  have hparts : items = ["* One * Two\n\n".toList] ++ "*\n".toList :: [] := by decide +kernel
  have hwritten : (style.transcribe list).failure = none := by decide +kernel
  have hchildren : ∀ child ∈ list.children, child.kind = .listItem ∨ child.isSpacing = true := by
    decide +kernel
  have hlist : list.kind ∈ [Kind.bulletList, .numberedList, .definitionList] := by decide
  obtain ⟨-, -, hwhole, hapart⟩ := listItems_tidied style hlist hchildren hwritten
  have hlast := (hapart _ _ _ hparts).1
  rw [List.flatMap_singleton, List.flatMap_singleton] at hlast
  exact ⟨hparts, hwritten, by decide +kernel, hwhole, hlast⟩

end ForumPost
