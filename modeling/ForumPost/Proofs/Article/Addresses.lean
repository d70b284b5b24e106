import Mathlib.Data.List.Infix
import ForumPost.Proofs.Article.Tree

/-!
# Addresses in an article

A node may look like another one that stands elsewhere.  An address says where a node
stands: it is the index of a child, then of a child of that child, and so on
(`Node.at?`).  One address begins with another exactly if the one node stands in the
other, and document order is the lexicographic order of addresses.
`Node.addresses` lists what is below a node in that order
(`Node.mem_addresses_iff`, `Node.pairwise_addresses`).

Both searches for nodes of a kind are put in terms of that list.

* `Node.allBelow` finds the nodes that are outermost of their kind
  (`Node.map_at?_outermostAddresses`).  Of two of them none stands in the other, and
  every node of the kind is one of them or stands in exactly one
  (`Node.eq_of_begins`, `Node.existsUnique_outermost`).
* `Node.findBelow` finds the first of them, which is the first node of the kind at all
  (`Node.findBelow_eq_head?`, `Node.head?_outermostAddresses`).
-/

namespace ForumPost

/-- Where a node stands below another one: the index of a child, then the index of one of
its children, and so on down to the node. -/
abbrev Address := List Nat

namespace Node

variable {wanted : Kind} {node : Node}

/-! ## The nodes below a node -/

/-- All that is below a node, in document order. -/
def descendants (node : Node) : List Node :=
  node.children.flatMap preorder

/-- The node at an address. -/
def at? : Node → Address → Option Node
  | node, [] => some node
  | node, index :: address => node.children[index]?.bind fun child => child.at? address

mutual

/-- The addresses of all that is below a node, in document order. -/
def addresses : Node → List Address
  | text _ => []
  | comment => []
  | element _ _ _ _ children => addressesFrom 0 children

/-- The addresses of nodes and of all that is below them, where the nodes are the
children of a node from a given index on. -/
def addressesFrom (index : Nat) : List Node → List Address
  | [] => []
  | node :: rest =>
    ([] :: node.addresses).map (index :: ·) ++ addressesFrom (index + 1) rest

end

theorem addressesFrom_eq_flatMap (index : Nat) (nodes : List Node) :
    addressesFrom index nodes =
      (nodes.zipIdx index).flatMap fun (child, index) =>
        ([] :: child.addresses).map (index :: ·) := by
  induction nodes generalizing index with
  | nil => rfl
  | cons node rest ih => rw [addressesFrom, ih, List.zipIdx_cons, List.flatMap_cons]

theorem addresses_eq (node : Node) :
    node.addresses =
      node.children.zipIdx.flatMap fun (child, index) =>
        ([] :: child.addresses).map (index :: ·) := by
  cases node with
  | text content => rfl
  | comment => rfl
  | element kind tag attributes classes nodes =>
    rw [addresses, addressesFrom_eq_flatMap, children]

theorem at?_cons {index : Nat} {child : Node} (hchild : node.children[index]? = some child)
    (address : Address) : node.at? (index :: address) = child.at? address := by
  rw [at?, hchild, Option.bind_some]

/-- An address below a node leads to a child, or to what is below that child. -/
theorem mem_addresses_cases {address : Address} :
    address ∈ node.addresses ↔ ∃ index child rest, address = index :: rest ∧
      node.children[index]? = some child ∧ (rest = [] ∨ rest ∈ child.addresses) := by
  rw [addresses_eq, List.mem_flatMap]
  constructor
  · rintro ⟨⟨child, index⟩, hchild, hmem⟩
    obtain ⟨rest, hrest, rfl⟩ := List.mem_map.mp hmem
    exact ⟨index, child, rest, rfl, List.mem_zipIdx_iff_getElem?.mp hchild, List.mem_cons.mp hrest⟩
  · rintro ⟨index, child, rest, rfl, hchild, hrest⟩
    exact ⟨(child, index), List.mem_zipIdx_iff_getElem?.mpr hchild,
      List.mem_map_of_mem (List.mem_cons.mpr hrest)⟩

/-- The list holds the addresses of all nodes below. -/
theorem mem_addresses_iff {address : Address} :
    address ∈ node.addresses ↔ address ≠ [] ∧ (node.at? address).isSome = true := by
  induction address generalizing node with
  | nil =>
    rw [mem_addresses_cases]
    simp
  | cons index rest ih =>
    have hbelow (child : Node) :
        rest = [] ∨ rest ∈ child.addresses ↔ (child.at? rest).isSome = true := by
      rw [ih]
      cases rest with
      | nil => simp [at?]
      | cons next others => simp
    rw [mem_addresses_cases, at?]
    cases hchild : node.children[index]? with
    | none => simp [hchild]
    | some child => simp [hchild, hbelow]

/-- The list is in lexicographic order, so that it has no address twice. -/
theorem pairwise_addresses (node : Node) : node.addresses.Pairwise (· < ·) := by
  induction node using inductionOnChildren with
  | step node ih =>
    rw [addresses_eq, List.pairwise_flatMap]
    constructor
    · rintro ⟨child, index⟩ hchild
      have hmem : child ∈ node.children :=
        List.mem_of_getElem? (List.mem_zipIdx_iff_getElem?.mp hchild)
      have hbelow : ([] :: child.addresses).Pairwise (· < ·) := by
        refine List.pairwise_cons.mpr ⟨fun address haddress => ?_, ih child hmem⟩
        obtain ⟨first, rest, rfl⟩ :=
          List.exists_cons_of_ne_nil (mem_addresses_iff.mp haddress).1
        exact List.nil_lt_cons first rest
      exact hbelow.map _ fun first second hlt => List.cons_lt_cons_iff.mpr (.inr ⟨rfl, hlt⟩)
    · have hindices : (node.children.zipIdx.map Prod.snd).Pairwise (· < ·) := by
        rw [List.zipIdx_map_snd]
        exact List.pairwise_lt_range' 1
      refine (List.pairwise_map.mp hindices).imp fun hlt first hfirst second hsecond => ?_
      obtain ⟨rest, -, rfl⟩ := List.mem_map.mp hfirst
      obtain ⟨others, -, rfl⟩ := List.mem_map.mp hsecond
      exact List.cons_lt_cons_iff.mpr (.inl hlt)

/-- At the addresses are the nodes below, in document order. -/
theorem map_at?_addresses (node : Node) :
    node.addresses.map node.at? = node.descendants.map some := by
  induction node using inductionOnChildren with
  | step node ih =>
    have hsplit : node.descendants = node.children.zipIdx.flatMap fun entry =>
        entry.1 :: entry.1.descendants := by
      conv => lhs; rw [descendants, ← List.zipIdx_map_fst 0 node.children, List.flatMap_map]
      simp only [preorder_eq, descendants]
    rw [hsplit, addresses_eq, List.map_flatMap, List.map_flatMap]
    refine List.flatMap_congr fun ⟨child, index⟩ hentry => ?_
    have hchild := List.mem_zipIdx_iff_getElem?.mp hentry
    have hbelow : node.at? ∘ (index :: ·) = child.at? := funext fun address => at?_cons hchild address
    rw [List.map_map, hbelow, List.map_cons, List.map_cons, at?, ih child (List.mem_of_getElem? hchild)]

/-! ## Nodes that are outermost of their kind -/

/-- The kind of the node at an address. -/
def kindAt? (node : Node) (address : Address) : Option Kind :=
  (node.at? address).map kind

/-- At the address there is a node of the kind, and there is none at any address on the way
down to it. -/
def OutermostAt (wanted : Kind) (node : Node) (address : Address) : Prop :=
  node.kindAt? address = some wanted ∧
    ∀ outer, outer <+: address → outer ≠ [] → outer ≠ address → node.kindAt? outer ≠ some wanted

instance (wanted : Kind) (node : Node) : DecidablePred (node.OutermostAt wanted) := fun address =>
  decidable_of_iff
    (node.kindAt? address = some wanted ∧
      ∀ outer ∈ address.inits, outer ≠ [] → outer ≠ address → node.kindAt? outer ≠ some wanted)
    (by simp only [OutermostAt, List.mem_inits])

/-- The addresses of the nodes that are outermost of their kind, in document order. -/
def outermostAddresses (wanted : Kind) (node : Node) : List Address :=
  node.addresses.filter (node.OutermostAt wanted)

theorem mem_addresses_of_kindAt? {address : Address} (hkind : node.kindAt? address = some wanted)
    (hne : address ≠ []) : address ∈ node.addresses := by
  refine mem_addresses_iff.mpr ⟨hne, ?_⟩
  rw [← Option.isSome_map, ← kindAt?, hkind, Option.isSome_some]

theorem mem_outermostAddresses_iff {address : Address} :
    address ∈ node.outermostAddresses wanted ↔ address ≠ [] ∧ node.OutermostAt wanted address := by
  rw [outermostAddresses, List.mem_filter, decide_eq_true_eq]
  refine and_congr_left fun houtermost => ?_
  exact ⟨fun hmem => (mem_addresses_iff.mp hmem).1, mem_addresses_of_kindAt? houtermost.1⟩

section Child

variable {index : Nat} {child : Node}

theorem kindAt?_cons (hchild : node.children[index]? = some child) (address : Address) :
    node.kindAt? (index :: address) = child.kindAt? address := by
  rw [kindAt?, at?_cons hchild, kindAt?]

/-- On the way down to a child there is nothing. -/
theorem outermostAt_singleton (hchild : node.children[index]? = some child) :
    node.OutermostAt wanted [index] ↔ child.kind = wanted := by
  have hkind : node.kindAt? [index] = some child.kind := kindAt?_cons hchild []
  rw [OutermostAt, hkind, Option.some.injEq]
  refine and_iff_left fun outer houter hne hother => ?_
  rcases List.prefix_cons_iff.mp houter with rfl | ⟨rest, rfl, hrest⟩
  · exact absurd rfl hne
  · rw [List.prefix_nil.mp hrest] at hother
    exact absurd rfl hother

/-- On the way down to what is below a child there is the child. -/
theorem outermostAt_cons (hchild : node.children[index]? = some child) {address : Address}
    (hne : address ≠ []) :
    node.OutermostAt wanted (index :: address) ↔
      child.kind ≠ wanted ∧ child.OutermostAt wanted address := by
  have hkind : node.kindAt? [index] = some child.kind := kindAt?_cons hchild []
  constructor
  · rintro ⟨haddress, houter⟩
    refine ⟨fun hwanted => ?_, by rwa [← kindAt?_cons hchild], fun outer hbegins hnil hother => ?_⟩
    · have hnone := houter [index] (List.cons_prefix_cons.mpr ⟨rfl, List.nil_prefix⟩)
        (List.cons_ne_nil _ _) (by simpa using hne.symm)
      exact hnone (by rw [hkind, hwanted])
    · rw [← kindAt?_cons hchild]
      exact houter (index :: outer) (List.cons_prefix_cons.mpr ⟨rfl, hbegins⟩)
        (List.cons_ne_nil _ _) (by simpa using hother)
  · rintro ⟨hwanted, haddress, houter⟩
    refine ⟨by rwa [kindAt?_cons hchild], fun outer hbegins hnil hother => ?_⟩
    rcases List.prefix_cons_iff.mp hbegins with rfl | ⟨rest, rfl, hrest⟩
    · exact absurd rfl hnil
    · rw [kindAt?_cons hchild]
      rcases eq_or_ne rest [] with rfl | hbelow
      · simpa [kindAt?, at?] using hwanted
      · exact houter rest hrest hbelow (by simpa using hother)

/-- So at a child and below there is the child, or else what is outermost below the child. -/
theorem filter_outermostAt_child (hchild : node.children[index]? = some child) :
    (([] :: child.addresses).map (index :: ·)).filter (node.OutermostAt wanted) =
      if child.kind = wanted then [[index]]
      else (child.outermostAddresses wanted).map (index :: ·) := by
  have hbelow : (child.addresses.map (index :: ·)).filter (node.OutermostAt wanted) =
      (child.addresses.filter fun address =>
        child.kind ≠ wanted ∧ child.OutermostAt wanted address).map (index :: ·) := by
    rw [List.filter_map]
    congr 1
    refine List.filter_congr fun address haddress => ?_
    have hne := (mem_addresses_iff.mp haddress).1
    simp only [Function.comp_apply, outermostAt_cons hchild hne]
  rw [List.map_cons, List.filter_cons, hbelow]
  by_cases hkind : child.kind = wanted
  · simp [outermostAt_singleton hchild, hkind]
  · simp [outermostAt_singleton hchild, hkind, outermostAddresses]

end Child

/-- The nodes that are found below a node are those that are outermost of their kind. -/
theorem map_at?_outermostAddresses (wanted : Kind) (node : Node) :
    (node.outermostAddresses wanted).map node.at? = (node.allBelow wanted).map some := by
  induction node using inductionOnChildren with
  | step node ih =>
    have hsplit : node.allBelow wanted = node.children.zipIdx.flatMap fun entry =>
        if entry.1.kind = wanted then [entry.1] else entry.1.allBelow wanted := by
      conv => lhs; rw [allBelow_eq_allAmong, allAmong_eq_flatMap,
        ← List.zipIdx_map_fst 0 node.children, List.flatMap_map]
    rw [hsplit, outermostAddresses, addresses_eq, List.filter_flatMap, List.map_flatMap,
      List.map_flatMap]
    refine List.flatMap_congr fun ⟨child, index⟩ hentry => ?_
    have hchild := List.mem_zipIdx_iff_getElem?.mp hentry
    have hbelow : node.at? ∘ (index :: ·) = child.at? := funext fun address => at?_cons hchild address
    rw [filter_outermostAt_child hchild]
    by_cases hkind : child.kind = wanted
    · rw [if_pos hkind, if_pos hkind, List.map_singleton, at?_cons hchild, at?, List.map_singleton]
    · rw [if_neg hkind, if_neg hkind, List.map_map, hbelow, ih child (List.mem_of_getElem? hchild)]

/-- None of them stands in another one. -/
theorem eq_of_begins {first second : Address} (hfirst : first ∈ node.outermostAddresses wanted)
    (hsecond : second ∈ node.outermostAddresses wanted) (hbegins : first <+: second) :
    first = second := by
  obtain ⟨hne, hkind, -⟩ := mem_outermostAddresses_iff.mp hfirst
  obtain ⟨-, -, houter⟩ := mem_outermostAddresses_iff.mp hsecond
  by_contra hother
  exact houter first hbegins hne hother hkind

/-- Each node of the kind is one of them or stands in one. -/
theorem exists_outermost {address : Address} (hkind : node.kindAt? address = some wanted)
    (hne : address ≠ []) : ∃ outer ∈ node.outermostAddresses wanted, outer <+: address := by
  induction hlength : address.length using Nat.strongRecOn generalizing address with
  | ind length ih =>
    by_cases houtermost : node.OutermostAt wanted address
    · exact ⟨address, mem_outermostAddresses_iff.mpr ⟨hne, houtermost⟩, List.prefix_refl _⟩
    · -- The one that the node stands in is nearer to the start.
      have hinside := mt (And.intro hkind) houtermost
      push Not at hinside
      obtain ⟨outer, hbegins, hnil, hother, houter⟩ := hinside
      have hshorter : outer.length < length := by
        rw [← hlength]
        exact lt_of_le_of_ne hbegins.length_le fun heq => hother (hbegins.eq_of_length heq)
      obtain ⟨result, hresult, habove⟩ := ih outer.length hshorter houter hnil rfl
      exact ⟨result, hresult, habove.trans hbegins⟩

theorem existsUnique_outermost {address : Address} (hkind : node.kindAt? address = some wanted)
    (hne : address ≠ []) :
    ∃! outer, outer ∈ node.outermostAddresses wanted ∧ outer <+: address := by
  obtain ⟨outer, houter, hbegins⟩ := exists_outermost hkind hne
  refine ⟨outer, ⟨houter, hbegins⟩, ?_⟩
  rintro other ⟨hother, habove⟩
  rcases List.prefix_or_prefix_of_prefix hbegins habove with hnested | hnested
  · exact (eq_of_begins houter hother hnested).symm
  · exact eq_of_begins hother houter hnested

/-! ## The first node of a kind -/

/-- The first node of the kind is outermost, for what it stands in comes earlier. -/
theorem head?_outermostAddresses (wanted : Kind) (node : Node) :
    (node.outermostAddresses wanted).head? =
      node.addresses.find? fun address => node.kindAt? address = some wanted := by
  rw [outermostAddresses, List.head?_filter]
  cases hfirst : node.addresses.find? fun address => node.kindAt? address = some wanted with
  | none =>
    rw [List.find?_eq_none] at hfirst ⊢
    intro address haddress houtermost
    exact hfirst address haddress (by simpa using (of_decide_eq_true houtermost).1)
  | some address =>
    obtain ⟨hkind, before, after, hsplit, hbefore⟩ := List.find?_eq_some_iff_append.mp hfirst
    have hearlier : ∀ earlier ∈ before, node.kindAt? earlier ≠ some wanted := by simpa using hbefore
    rw [List.find?_eq_some_iff_append, decide_eq_true_eq]
    refine ⟨⟨of_decide_eq_true hkind, fun outer hbegins hnil hother houter => ?_⟩, before, after,
      hsplit, fun earlier hmem => ?_⟩
    · have hlisted := mem_addresses_of_kindAt? houter hnil
      have hordered := node.pairwise_addresses
      rw [hsplit, List.mem_append, List.mem_cons] at hlisted
      rw [hsplit, List.pairwise_append, List.pairwise_cons] at hordered
      rcases hlisted with hbefore | rfl | hafter
      · exact hearlier outer hbefore houter
      · exact hother rfl
      · exact hbegins.le (hordered.2.1.1 outer hafter)
    · simp [OutermostAt, hearlier earlier hmem]

theorem findAmong_eq_head? {nodes : List Node}
    (hnodes : ∀ node ∈ nodes, node.findBelow wanted = (node.allBelow wanted).head?) :
    findAmong wanted nodes = (allAmong wanted nodes).head? := by
  induction nodes with
  | nil => rfl
  | cons node rest ih =>
    obtain ⟨hnode, hrest⟩ := List.forall_mem_cons.mp hnodes
    rw [findAmong, allAmong, List.head?_append, ih hrest, hnode]
    by_cases hkind : node.kind = wanted
    · simp [hkind]
    · rw [if_neg hkind, if_neg hkind]
      cases (node.allBelow wanted).head? <;> rfl

/-- What is found first is the first of all that are found. -/
theorem findBelow_eq_head? (wanted : Kind) (node : Node) :
    node.findBelow wanted = (node.allBelow wanted).head? := by
  induction node using inductionOnChildren with
  | step node ih =>
    rw [findBelow_eq_findAmong, allBelow_eq_allAmong]
    exact findAmong_eq_head? ih

/-- It stands at the first of their addresses. -/
theorem map_some_findBelow (wanted : Kind) (node : Node) :
    (node.findBelow wanted).map some = (node.outermostAddresses wanted).head?.map node.at? := by
  rw [findBelow_eq_head?, ← List.head?_map, ← List.head?_map, map_at?_outermostAddresses]

/-- Among the nodes below it is the first one of the kind. -/
theorem findBelow_eq_find? (wanted : Kind) (node : Node) :
    node.findBelow wanted = node.descendants.find? fun found => found.kind = wanted := by
  apply Option.map_injective fun _ _ => Option.some.inj
  have hfirst := congrArg (List.find? fun found => found.map kind = some wanted)
    node.map_at?_addresses
  rw [List.find?_map, List.find?_map] at hfirst
  rw [map_some_findBelow, head?_outermostAddresses]
  simpa [Function.comp_def, kindAt?] using hfirst

/-! ## Both searches -/

/-- What the searches for the nodes of a kind find.  The addresses of all that is below a
node are listed in document order.  One search finds the nodes at those addresses that have
no other node of the kind on the way down.  None of them stands in another one, and each
node of the kind is one of them or stands in exactly one.  The other search finds the
first of them, which is the first node of the kind at all, and nothing if there is none. -/
theorem searches_eq_documentOrder (wanted : Kind) (node : Node) :
    (∀ address, address ∈ node.addresses ↔
      address ≠ [] ∧ (node.at? address).isSome = true) ∧
    node.addresses.Pairwise (· < ·) ∧
    (node.allBelow wanted).map some = (node.outermostAddresses wanted).map node.at? ∧
    (∀ first ∈ node.outermostAddresses wanted, ∀ second ∈ node.outermostAddresses wanted,
      first <+: second → first = second) ∧
    (∀ address ∈ node.addresses, node.kindAt? address = some wanted →
      ∃! outer, outer ∈ node.outermostAddresses wanted ∧ outer <+: address) ∧
    node.findBelow wanted = (node.allBelow wanted).head? ∧
    (node.findBelow wanted).map some =
      (node.addresses.find? fun address => node.kindAt? address = some wanted).map node.at? ∧
    (node.outermostAddresses wanted).head? =
      (node.addresses.find? fun address => node.kindAt? address = some wanted) ∧
    (node.findBelow wanted = none ↔
      ∀ address ∈ node.addresses, node.kindAt? address ≠ some wanted) := by
  have hfirst : (node.findBelow wanted).map some =
      (node.addresses.find? fun address => node.kindAt? address = some wanted).map node.at? := by
    rw [map_some_findBelow, head?_outermostAddresses]
  refine ⟨fun _ => mem_addresses_iff, node.pairwise_addresses,
    (map_at?_outermostAddresses wanted node).symm,
    fun _ hfirst _ hsecond => eq_of_begins hfirst hsecond,
    fun _ haddress hkind => existsUnique_outermost hkind (mem_addresses_iff.mp haddress).1,
    findBelow_eq_head? wanted node, hfirst, head?_outermostAddresses wanted node, ?_⟩
  rw [← Option.map_eq_none_iff (f := some), hfirst, Option.map_eq_none_iff, List.find?_eq_none]
  simp only [decide_eq_true_eq, ne_eq]

/-- Two rows of a table and a row in a cell of the first one.  The row inside is not found,
though it looks like the second row, which is. -/
theorem searches_eq_documentOrder_rows :
    let row (children : List Node) := Node.element .tableRow [] [] [] children
    let table := Node.element .table [] [] [] [row [.element .dataCell [] [] [] [row []]], row []]
    table.addresses = [[0], [0, 0], [0, 0, 0], [1]] ∧
      table.outermostAddresses .tableRow = [[0], [1]] ∧
      (table.allBelow .tableRow).map some = [table.at? [0], table.at? [1]] ∧
      table.at? [0, 0, 0] = table.at? [1] ∧
      ∃! outer, outer ∈ table.outermostAddresses .tableRow ∧ outer <+: [0, 0, 0] := by
  intro row table
  have haddresses : table.addresses = [[0], [0, 0], [0, 0, 0], [1]] := by decide +kernel
  have houtermost : table.outermostAddresses .tableRow = [[0], [1]] := by decide +kernel
  obtain ⟨-, -, hfound, -, hinside, -⟩ := searches_eq_documentOrder .tableRow table
  refine ⟨haddresses, houtermost, ?_, rfl, hinside [0, 0, 0] ?_ rfl⟩
  · rw [hfound, houtermost]
    rfl
  · simp [haddresses]

end Node

end ForumPost
