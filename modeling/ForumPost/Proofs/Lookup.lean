/-!
# Lookups in lists of pairs

The tables of the library are lists of pairs that are searched from the front.
A lookup finds a pair of the list, and finds none only if no pair has the key,
so that a fact about a table is a fact about every pair of it.
-/

namespace ForumPost

section Lookup

variable {α β : Type} [BEq α] [LawfulBEq α] {pairs : List (α × β)} {key : α}

/-- What is found in a list of pairs is in it. -/
theorem mem_of_lookup_eq_some {value : β} (hlookup : pairs.lookup key = some value) :
    (key, value) ∈ pairs := by
  obtain ⟨before, after, heq, -⟩ := List.lookup_eq_some_iff.mp hlookup
  rw [heq]
  simp

/-- A key that is not found is the key of no pair. -/
theorem lookup_eq_none_iff_not_mem_keys :
    pairs.lookup key = none ↔ key ∉ pairs.map Prod.fst := by
  rw [List.lookup_eq_none_iff, List.mem_map]
  constructor
  · rintro hnone ⟨pair, hpair, rfl⟩
    have hself := hnone pair hpair
    simp at hself
  · intro hkeys pair hpair
    rw [bne_iff_ne]
    intro heq
    exact hkeys ⟨pair, hpair, heq.symm⟩

/-- If no two pairs have one key, each pair is found. -/
theorem lookup_eq_some_of_mem {value : β} (hkeys : (pairs.map Prod.fst).Nodup)
    (hpair : (key, value) ∈ pairs) : pairs.lookup key = some value := by
  obtain ⟨before, after, rfl⟩ := List.append_of_mem hpair
  rw [List.map_append, List.map_cons, List.nodup_append] at hkeys
  refine List.lookup_eq_some_iff.mpr ⟨before, after, rfl, fun earlier hearlier => ?_⟩
  have hne := hkeys.2.2 earlier.1 (List.mem_map_of_mem hearlier) key (List.mem_cons_self ..)
  exact bne_iff_ne.mpr hne.symm

end Lookup

end ForumPost
