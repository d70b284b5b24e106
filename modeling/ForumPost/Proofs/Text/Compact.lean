import Mathlib.Data.List.Flatten
import Mathlib.Data.List.TakeWhile
import ForumPost.Proofs.Text.Spaces
import ForumPost.Proofs.Text.Strip

/-!
# Texts without edge characters

`Text.compact` leaves out of a text every character that `strip` takes off its
ends, wherever it stands.  Two texts with the same compact form hold the same
words in the same order, and differ only in their white space.

Stripping, collapsing, removing breaks and tidying keep the compact form.
Joining keeps it when the separator is white space, and in any case loses
nothing of the parts (`flatten_sublist_join`).
-/

namespace ForumPost

namespace Text

/-- A text without its edge characters, at its ends and inside. -/
def compact (text : Text) : Text :=
  text.filter fun c => !isEdge c

@[simp] theorem compact_nil : compact [] = [] := rfl

@[simp] theorem compact_append (first second : Text) :
    compact (first ++ second) = compact first ++ compact second :=
  List.filter_append first second

theorem compact_cons_of_edge {c : Char} (hedge : isEdge c = true) (rest : Text) :
    compact (c :: rest) = compact rest := by
  simp [compact, hedge]

theorem compact_cons_of_not_edge {c : Char} (hedge : isEdge c = false) (rest : Text) :
    compact (c :: rest) = c :: compact rest := by
  simp [compact, hedge]

/-- Nothing is left exactly of a text of edge characters. -/
theorem compact_eq_nil_iff {text : Text} :
    compact text = [] ↔ ∀ c ∈ text, isEdge c = true := by
  simp [compact]

theorem compact_flatten (parts : List Text) : compact parts.flatten = parts.flatMap compact := by
  induction parts with
  | nil => rfl
  | cons part rest ih => simp [ih]

theorem Sublist.compact {first second : Text} (hsublist : first.Sublist second) :
    (compact first).Sublist (Text.compact second) :=
  hsublist.filter _

/-! ## Stripping -/

/-- Trimming takes off a beginning and an end of dropped characters. -/
theorem exists_eq_trim (drop : Char → Bool) (text : Text) :
    ∃ before after, text = before ++ trim drop text ++ after ∧
      (∀ c ∈ before, drop c = true) ∧ (∀ c ∈ after, drop c = true) := by
  let behind := text.dropWhile drop
  have hfront : text = text.takeWhile drop ++ behind := List.takeWhile_append_dropWhile.symm
  have hback : behind = trim drop text ++ (behind.reverse.takeWhile drop).reverse := by
    have hsplit := congrArg List.reverse
      (List.takeWhile_append_dropWhile (p := drop) (l := behind.reverse))
    rw [List.reverse_append, List.reverse_reverse] at hsplit
    exact hsplit.symm
  refine ⟨text.takeWhile drop, (behind.reverse.takeWhile drop).reverse, ?_, ?_, ?_⟩
  · rw [List.append_assoc, ← hback]
    exact hfront
  · intro c hc
    exact List.mem_takeWhile_imp hc
  · intro c hc
    exact List.mem_takeWhile_imp (List.mem_reverse.mp hc)

/-- Stripping takes off a beginning and an end of edge characters. -/
theorem exists_eq_strip (text : Text) :
    ∃ before after, text = before ++ strip text ++ after ∧
      compact before = [] ∧ compact after = [] := by
  obtain ⟨before, after, htext, hbefore, hafter⟩ := exists_eq_trim isEdge text
  exact ⟨before, after, htext, compact_eq_nil_iff.mpr hbefore, compact_eq_nil_iff.mpr hafter⟩

theorem mem_of_mem_strip {c : Char} {text : Text} (hc : c ∈ strip text) : c ∈ text := by
  obtain ⟨before, after, htext, -, -⟩ := exists_eq_strip text
  rw [htext]
  simp [hc]

@[simp] theorem compact_strip (text : Text) : compact (strip text) = compact text := by
  obtain ⟨before, after, htext, hbefore, hafter⟩ := exists_eq_strip text
  conv => rhs; rw [htext]
  rw [compact_append, compact_append, hbefore, hafter, List.nil_append, List.append_nil]

/-- Stripping leaves nothing exactly of a text of edge characters. -/
theorem strip_eq_nil_iff {text : Text} : strip text = [] ↔ compact text = [] := by
  constructor
  · intro hstrip
    rw [← compact_strip, hstrip, compact_nil]
  · intro hcompact
    cases hstrip : strip text with
    | nil => rfl
    | cons c rest =>
      have hfirst : isEdge c = false := not_edge_of_head?_strip (by rw [hstrip]; rfl)
      have hmem : c ∈ text := mem_of_mem_strip (by rw [hstrip]; exact List.mem_cons_self ..)
      rw [compact_eq_nil_iff.mp hcompact c hmem] at hfirst
      cases hfirst

/-! ## Breaks -/

theorem isEdge_of_isBreak {c : Char} (hbreak : isBreak c = true) : isEdge c = true := by
  simp only [isBreak, Bool.or_eq_true] at hbreak
  simp only [isEdge, Bool.or_eq_true]
  rcases hbreak with htab | hfeed
  · simp [htab]
  · simp [hfeed]

@[simp] theorem compact_collapse (text : Text) : compact (collapse text) = compact text := by
  induction text with
  | nil => rfl
  | cons c rest ih =>
    rw [collapse]
    split
    · rename_i hbreak
      rw [compact_cons_of_edge (isEdge_of_isBreak hbreak)]
      split
      · exact ih
      · rw [compact_cons_of_edge (by decide), ih]
    · cases hedge : isEdge c
      · rw [compact_cons_of_not_edge hedge, compact_cons_of_not_edge hedge, ih]
      · rw [compact_cons_of_edge hedge, compact_cons_of_edge hedge, ih]

/-- A collapsed text holds spaces and characters of the text. -/
theorem eq_space_or_mem_of_mem_collapse {c : Char} {text : Text} (hc : c ∈ collapse text) :
    c = ' ' ∨ c ∈ text := by
  induction text with
  | nil => simp at hc
  | cons first rest ih =>
    rw [collapse] at hc
    split at hc
    · split at hc
      · exact (ih hc).imp_right (List.mem_cons_of_mem first)
      · rcases List.mem_cons.mp hc with hspace | hrest
        · exact .inl hspace
        · exact (ih hrest).imp_right (List.mem_cons_of_mem first)
    · rcases List.mem_cons.mp hc with rfl | hrest
      · exact .inr (List.mem_cons_self ..)
      · exact (ih hrest).imp_right (List.mem_cons_of_mem first)

/-- Collapsing leaves no break. -/
theorem not_isBreak_of_mem_collapse {c : Char} {text : Text} (hc : c ∈ collapse text) :
    isBreak c = false := by
  induction text with
  | nil => cases hc
  | cons first rest ih =>
    rw [collapse] at hc
    split at hc
    · split at hc
      · exact ih hc
      · rcases List.mem_cons.mp hc with rfl | hrest
        · rfl
        · exact ih hrest
    · rename_i hkept
      rcases List.mem_cons.mp hc with rfl | hrest
      · exact Bool.eq_false_iff.mpr hkept
      · exact ih hrest

theorem not_mem_collapse (text : Text) : '\n' ∉ collapse text := fun hmem =>
  absurd (not_isBreak_of_mem_collapse hmem) (by decide)

@[simp] theorem compact_removeBreaks (text : Text) : compact (removeBreaks text) = compact text := by
  rw [compact, removeBreaks, List.filter_filter, compact]
  congr 1
  funext c
  cases hbreak : isBreak c
  · simp
  · simp [isEdge_of_isBreak hbreak]

theorem mem_of_mem_removeBreaks {c : Char} {text : Text} (hc : c ∈ removeBreaks text) :
    c ∈ text :=
  (List.mem_filter.mp hc).1

theorem not_isBreak_of_mem_removeBreaks {c : Char} {text : Text} (hc : c ∈ removeBreaks text) :
    isBreak c = false := by
  simpa using (List.mem_filter.mp hc).2

/-! ## Joining -/

@[simp] theorem join_nil (separator : Text) : join separator [] = [] := rfl

@[simp] theorem join_singleton (separator part : Text) : join separator [part] = part :=
  List.intercalate_singleton

theorem join_cons_cons (separator first second : Text) (rest : List Text) :
    join separator (first :: second :: rest) =
      first ++ separator ++ join separator (second :: rest) :=
  List.intercalate_cons_cons

/-- A join is its first part, and every other part behind a separator. -/
theorem join_cons (separator first : Text) (rest : List Text) :
    join separator (first :: rest) = first ++ rest.flatMap (separator ++ ·) := by
  induction rest generalizing first with
  | nil => simp
  | cons second rest ih =>
    rw [join_cons_cons, ih second]
    simp

/-- An empty join hides the number of its parts: there is none, or one that is
empty. -/
theorem join_eq_nil_iff {separator : Text} (hseparator : separator ≠ []) {parts : List Text} :
    join separator parts = [] ↔ parts = [] ∨ parts = [[]] := by
  cases parts with
  | nil => simp
  | cons first rest =>
    rw [join_cons, List.append_eq_nil_iff, List.flatMap_eq_nil_iff]
    cases rest with
    | nil => simp
    | cons second rest =>
      constructor
      · rintro ⟨-, hrest⟩
        have hsecond := hrest second (List.mem_cons_self ..)
        exact absurd (List.append_eq_nil_iff.mp hsecond).1 hseparator
      · simp

/-- A separator of edge characters in front of parts leaves no trace in the
compact form. -/
theorem compact_behind {separator : Text} (hseparator : compact separator = [])
    (parts : List Text) :
    compact (parts.flatMap (separator ++ ·)) = parts.flatMap compact := by
  induction parts with
  | nil => rfl
  | cons first rest ih =>
    rw [List.flatMap_cons, compact_append, compact_append, hseparator, ih]
    rfl

/-- So does one between parts. -/
theorem compact_join {separator : Text} (hseparator : compact separator = [])
    (parts : List Text) : compact (join separator parts) = parts.flatMap compact := by
  cases parts with
  | nil => rfl
  | cons first rest =>
    rw [join_cons, compact_append, compact_behind hseparator, List.flatMap_cons]

/-- A join holds all of its parts, in order. -/
theorem flatten_sublist_join (separator : Text) (parts : List Text) :
    parts.flatten.Sublist (join separator parts) := by
  cases parts with
  | nil => exact .slnil
  | cons first rest =>
    rw [join_cons, List.flatten_cons]
    apply List.Sublist.append_left
    have hparts := List.Sublist.flatMap_right rest (f := id) (g := (separator ++ ·))
      fun part _ => List.sublist_append_right separator part
    simpa [List.flatMap_id] using hparts

theorem mem_join {c : Char} {separator : Text} {parts : List Text}
    (hc : c ∈ join separator parts) : c ∈ separator ∨ ∃ part ∈ parts, c ∈ part := by
  induction parts with
  | nil => simp at hc
  | cons first rest ih =>
    rw [join_cons, List.mem_append, List.mem_flatMap] at hc
    rcases hc with hfirst | ⟨part, hpart, hc⟩
    · exact .inr ⟨first, List.mem_cons_self .., hfirst⟩
    · rcases List.mem_append.mp hc with hseparator | hc
      · exact .inl hseparator
      · exact .inr ⟨part, List.mem_cons_of_mem first hpart, hc⟩

/-- A join ends as its last part does. -/
theorem getLast?_join_concat (separator : Text) (parts : List Text) {last : Text}
    (hlast : last ≠ []) :
    (join separator (parts ++ [last])).getLast? = last.getLast? := by
  cases parts with
  | nil => rw [List.nil_append, join_singleton]
  | cons first rest =>
    have hjoin : join separator (first :: rest ++ [last]) =
        first ++ rest.flatMap (separator ++ ·) ++ separator ++ last := by
      simp [join_cons]
    rw [hjoin, List.getLast?_append, List.getLast?_eq_some_getLast hlast, Option.some_or]

/-! ## Spaces taken out -/

theorem SpacesDropped.compact_eq {text left : Text} (hspaces : SpacesDropped text left) :
    compact left = compact text := by
  induction hspaces with
  | nil => rfl
  | keep c _ ih => rw [← List.singleton_append, compact_append, ih, ← compact_append]; rfl
  | drop _ ih => rw [compact_cons_of_edge (by decide), ih]

end Text

namespace Fragments

theorem compact_joined (fragments : Fragments) :
    Text.compact (fragments.joined " ") = fragments.flatMap Text.compact :=
  Text.compact_join (by decide) fragments

/-- Tidying changes nothing but white space. -/
theorem compact_tidied (fragments : Fragments) :
    Text.compact fragments.tidied = fragments.flatMap Text.compact := by
  rw [(tidied_spacesDropped fragments).compact_eq, Text.compact_strip, compact_joined]

/-- Tidying leaves nothing exactly of fragments of edge characters. -/
theorem tidied_eq_nil_iff_compact {fragments : Fragments} :
    fragments.tidied = [] ↔ fragments.flatMap Text.compact = [] := by
  constructor
  · intro htidied
    rw [← compact_tidied, htidied, Text.compact_nil]
  · intro hcompact
    rw [← compact_joined, ← Text.strip_eq_nil_iff] at hcompact
    rw [tidied, hcompact]
    rfl

end Fragments

end ForumPost
