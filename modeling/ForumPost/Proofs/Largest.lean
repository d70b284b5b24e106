import Mathlib.Order.Bounds.Defs

/-!
# The largest of some numbers

Widths and heights are found by going through a list of numbers and keeping the
larger one at each step, from a least value on.  What comes out is the greatest
of the numbers and that least value (`isGreatest_foldl_max`).  The largest of the
largest in several lists is the largest in all of them (`isGreatest_flatMap`).
-/

namespace ForumPost

/-- Keeping the larger one at each step gives the largest. -/
theorem isGreatest_foldl_max (least : Nat) (numbers : List Nat) :
    IsGreatest {number | number ∈ least :: numbers} (numbers.foldl max least) := by
  have hmax : (least :: numbers).max? = some (numbers.foldl max least) := List.max?_cons'
  obtain ⟨hmem, hle⟩ := List.max?_eq_some_iff.mp hmax
  exact ⟨hmem, fun number hnumber => hle number hnumber⟩

/-- The largest of the numbers that are the largest for each item. -/
theorem isGreatest_flatMap {α : Type} {items : List α} {numbers : α → List Nat} {largest : α → Nat}
    (hitems : ∀ item ∈ items, IsGreatest {number | number ∈ 0 :: numbers item} (largest item)) :
    IsGreatest {number | number ∈ 0 :: items.flatMap numbers}
      ((items.map largest).foldl max 0) := by
  obtain ⟨hmem, hle⟩ := isGreatest_foldl_max 0 (items.map largest)
  constructor
  · rcases List.mem_cons.mp hmem with hzero | hlargest
    · rw [hzero]
      exact List.mem_cons_self ..
    · obtain ⟨item, hitem, hequal⟩ := List.mem_map.mp hlargest
      rw [← hequal]
      rcases List.mem_cons.mp (hitems item hitem).1 with hzero | hnumber
      · rw [hzero]
        exact List.mem_cons_self ..
      · exact List.mem_cons_of_mem _ (List.mem_flatMap.mpr ⟨item, hitem, hnumber⟩)
  · intro number hnumber
    rcases List.mem_cons.mp hnumber with rfl | hnumber
    · exact Nat.zero_le _
    · obtain ⟨item, hitem, hnumber⟩ := List.mem_flatMap.mp hnumber
      have hitemLargest := (hitems item hitem).2 (List.mem_cons_of_mem _ hnumber)
      have hlargest := hle (List.mem_cons_of_mem _ (List.mem_map_of_mem hitem))
      exact Nat.le_trans hitemLargest hlargest

end ForumPost
