import Mathlib.Data.List.Forall2

/-!
# Lists compared item by item

Two lists of one length whose items are related pair by pair are the way in which
the library states that two things correspond.  The lemmas say what follows for
lists that are made of the related items.
-/

namespace ForumPost

section Pairs

variable {α β γ δ : Type} {p : α → β → Prop} {r : γ → δ → Prop}

/-- Lists that are related as a whole are related part by part, if the parts have
the same lengths. -/
theorem forall₂_of_flatMap {items : List α} {others : List β} {f : α → List γ} {g : β → List δ}
    (hlength : ∀ item other, p item other → (f item).length = (g other).length)
    (hitems : List.Forall₂ p items others)
    (hwhole : List.Forall₂ r (items.flatMap f) (others.flatMap g)) :
    List.Forall₂ (fun item other => p item other ∧ List.Forall₂ r (f item) (g other))
      items others := by
  induction hitems with
  | nil => exact .nil
  | @cons item other _ _ hhead _ ih =>
    rw [List.flatMap_cons, List.flatMap_cons] at hwhole
    have hfront := List.forall₂_take_append _ _ _ hwhole
    have hback := List.forall₂_drop_append _ _ _ hwhole
    rw [← hlength item other hhead, List.take_left] at hfront
    rw [← hlength item other hhead, List.drop_left] at hback
    exact .cons ⟨hhead, hfront⟩ (ih hback)

/-- What follows for the items of both lists follows for each pair. -/
theorem forall₂_imp_of_mem {q : α → β → Prop} {items : List α} {others : List β}
    (himp : ∀ item ∈ items, ∀ other ∈ others, p item other → q item other)
    (hitems : List.Forall₂ p items others) : List.Forall₂ q items others := by
  induction hitems with
  | nil => exact .nil
  | @cons item other _ _ hhead _ ih =>
    refine .cons (himp item (List.mem_cons_self ..) other (List.mem_cons_self ..) hhead) (ih ?_)
    intro item hitem other hother
    exact himp item (List.mem_cons_of_mem _ hitem) other (List.mem_cons_of_mem _ hother)

/-- Every item of the first list has an item of the second that it is related to. -/
theorem exists_mem_of_forall₂ {items : List α} {others : List β} {item : α}
    (hitems : List.Forall₂ p items others) (hitem : item ∈ items) :
    ∃ other ∈ others, p item other := by
  induction hitems with
  | nil => simp at hitem
  | cons hhead _ ih =>
    rcases List.mem_cons.mp hitem with rfl | hrest
    · exact ⟨_, List.mem_cons_self .., hhead⟩
    · obtain ⟨other, hother, hrelated⟩ := ih hrest
      exact ⟨other, List.mem_cons_of_mem _ hother, hrelated⟩

end Pairs

end ForumPost
