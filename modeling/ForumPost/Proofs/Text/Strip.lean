import ForumPost.Text.Basic

/-!
# Stripped texts

A text that begins and ends with other characters than the edge characters is
stripped: stripping leaves it as it is (`strip_eq_self`).  What stripping gives
is such a text (`not_edge_of_head?_strip`, `not_edge_of_getLast?_strip`), so that
stripping twice is stripping once.

The lemmas are stated for trimming by any class of characters first.
-/

namespace ForumPost

namespace Text

section Trim

variable {drop : Char → Bool} {text : Text}

/-- A text whose first character stays loses nothing at its front. -/
theorem dropWhile_eq_self (hfirst : ∀ c ∈ text.head?, drop c = false) :
    text.dropWhile drop = text := by
  cases text with
  | nil => rfl
  | cons c rest => exact List.dropWhile_cons_of_neg (by simp [hfirst c rfl])

/-- A text whose last character stays loses nothing at its end. -/
theorem dropEndWhile_eq_self (hlast : ∀ c ∈ text.getLast?, drop c = false) :
    dropEndWhile drop text = text := by
  rw [dropEndWhile, dropWhile_eq_self, List.reverse_reverse]
  rwa [List.head?_reverse]

theorem dropEndWhile_concat {c : Char} (hc : drop c = true) :
    dropEndWhile drop (text ++ [c]) = dropEndWhile drop text := by
  rw [dropEndWhile, List.reverse_concat, List.dropWhile_cons_of_pos hc, dropEndWhile]

theorem trim_eq_self (hfirst : ∀ c ∈ text.head?, drop c = false)
    (hlast : ∀ c ∈ text.getLast?, drop c = false) : trim drop text = text := by
  rw [trim, dropWhile_eq_self hfirst, dropEndWhile_eq_self hlast]

/-- The first character behind a dropped front is not dropped. -/
theorem not_drop_of_head?_dropWhile {c : Char} (hc : (text.dropWhile drop).head? = some c) :
    drop c = false := by
  have hnot := List.head?_dropWhile_not drop text
  rwa [hc] at hnot

theorem dropEndWhile_prefix (drop : Char → Bool) (text : Text) :
    dropEndWhile drop text <+: text := by
  have hreverse := (List.dropWhile_suffix (l := text.reverse) drop).reverse
  rwa [List.reverse_reverse] at hreverse

/-- The last character of a trimmed text is not dropped. -/
theorem not_drop_of_getLast?_trim {c : Char} (hc : (trim drop text).getLast? = some c) :
    drop c = false := by
  rw [trim, dropEndWhile, List.getLast?_reverse] at hc
  exact not_drop_of_head?_dropWhile hc

/-- Neither is the first one, which is the first one behind the dropped
front. -/
theorem not_drop_of_head?_trim {c : Char} (hc : (trim drop text).head? = some c) :
    drop c = false := by
  obtain ⟨rest, hrest⟩ := List.head?_eq_some_iff.mp hc
  obtain ⟨dropped, hdropped⟩ := dropEndWhile_prefix drop (text.dropWhile drop)
  have hfront : (text.dropWhile drop).head? = some c := by
    rw [← hdropped, ← trim, hrest]
    rfl
  exact not_drop_of_head?_dropWhile hfront

/-- A part whose first character stays is kept as a whole. -/
theorem dropWhile_append_of_kept (hfirst : ∀ c ∈ text.head?, drop c = false) (before : Text) :
    (before ++ text).dropWhile drop = before.dropWhile drop ++ text := by
  rw [List.dropWhile_append, dropWhile_eq_self hfirst]
  split
  · rename_i hempty
    rw [List.isEmpty_iff.mp hempty, List.nil_append]
  · rfl

theorem dropEndWhile_append_of_kept (hlast : ∀ c ∈ text.getLast?, drop c = false)
    (after : Text) : dropEndWhile drop (text ++ after) = text ++ dropEndWhile drop after := by
  rw [dropEndWhile, List.reverse_append, dropWhile_append_of_kept (by rwa [List.head?_reverse]),
    List.reverse_append, List.reverse_reverse, dropEndWhile]

/-- Around a part whose ends stay, both sides are trimmed by themselves. -/
theorem trim_around (hne : text ≠ []) (hfirst : ∀ c ∈ text.head?, drop c = false)
    (hlast : ∀ c ∈ text.getLast?, drop c = false) (before after : Text) :
    trim drop (before ++ text ++ after) =
      before.dropWhile drop ++ text ++ dropEndWhile drop after := by
  have hfront : ∀ c ∈ (text ++ after).head?, drop c = false := by
    rwa [List.head?_append, List.head?_eq_some_head hne, Option.some_or, ← List.head?_eq_some_head]
  have hback : ∀ c ∈ (before.dropWhile drop ++ text).getLast?, drop c = false := by
    rwa [List.getLast?_append, List.getLast?_eq_some_getLast hne, Option.some_or,
      ← List.getLast?_eq_some_getLast]
  rw [trim, List.append_assoc, dropWhile_append_of_kept hfront, ← List.append_assoc,
    dropEndWhile_append_of_kept hback]

end Trim

theorem strip_eq_self {text : Text} (hfirst : ∀ c ∈ text.head?, isEdge c = false)
    (hlast : ∀ c ∈ text.getLast?, isEdge c = false) : strip text = text :=
  trim_eq_self hfirst hlast

theorem not_edge_of_head?_strip {c : Char} {text : Text} (hc : (strip text).head? = some c) :
    isEdge c = false :=
  not_drop_of_head?_trim hc

theorem not_edge_of_getLast?_strip {c : Char} {text : Text}
    (hc : (strip text).getLast? = some c) : isEdge c = false :=
  not_drop_of_getLast?_trim hc

/-- Nothing is left to strip of a stripped text. -/
@[simp] theorem strip_strip (text : Text) : strip (strip text) = strip text :=
  strip_eq_self (fun _ hc => not_edge_of_head?_strip hc) fun _ hc => not_edge_of_getLast?_strip hc

end Text

end ForumPost
