import ForumPost.Fragments

/-!
# Spaces that tidying takes out

`Text.replaceAll` is stated by a count of characters to skip.  Here it gets the
equations that a reader expects: an occurrence at the front is replaced as a
whole, and a character that begins no occurrence is kept
(`replaceAll_append_self`, `replaceAll_cons`).  `replaceAll_induction` follows
those two cases.

`SpacesDropped` relates a text to what is left of it when some of its spaces
are taken out.  Both replacements of `Fragments.tidied` are of that kind, so
that `Fragments.tidied_spacesDropped` is all that later proofs have to know
about them.
-/

namespace ForumPost

namespace Text

/-! ## Replacement by equations -/

section Replacement

variable {pattern replacement : Text}

/-- Skipping characters is the same as dropping them first. -/
theorem replaceFrom_eq_drop (pattern replacement : Text) (skip : Nat) (text : Text) :
    replaceFrom pattern replacement skip text =
      replaceAll pattern replacement (text.drop skip) := by
  induction text generalizing skip with
  | nil => cases skip <;> rfl
  | cons c rest ih =>
    cases skip with
    | zero => rfl
    | succ skip => exact ih skip

/-- An occurrence at the front of a text is replaced. -/
theorem replaceAll_append_self (hpattern : pattern ≠ []) (rest : Text) :
    replaceAll pattern replacement (pattern ++ rest) =
      replacement ++ replaceAll pattern replacement rest := by
  cases pattern with
  | nil => exact absurd rfl hpattern
  | cons c tail =>
    have hfront : (c :: tail).isPrefixOf (c :: (tail ++ rest)) = true := by simp
    rw [List.cons_append, replaceAll, replaceFrom, if_pos hfront, replaceFrom_eq_drop]
    simp

/-- A character that begins no occurrence is kept. -/
theorem replaceAll_cons {c : Char} {rest : Text} (hfront : ¬ pattern <+: c :: rest) :
    replaceAll pattern replacement (c :: rest) =
      c :: replaceAll pattern replacement rest := by
  rw [replaceAll, replaceFrom, if_neg (by simpa using hfront)]
  rfl

/-- Induction along a replacement: a text is empty, begins with an occurrence,
or begins with a character that begins none. -/
theorem replaceAll_induction {motive : Text → Prop} (hpattern : pattern ≠ [])
    (nil : motive [])
    (hit : ∀ rest, motive rest → motive (pattern ++ rest))
    (miss : ∀ c rest, ¬ pattern <+: c :: rest → motive rest → motive (c :: rest))
    (text : Text) : motive text := by
  induction hlength : text.length using Nat.strongRecOn generalizing text with
  | ind length ih =>
    subst hlength
    by_cases hfront : pattern <+: text
    · obtain ⟨rest, rfl⟩ := hfront
      have hpositive : 0 < pattern.length := List.length_pos_iff.mpr hpattern
      exact hit rest (ih rest.length (by simp; omega) rest rfl)
    · cases text with
      | nil => exact nil
      | cons c rest => exact miss c rest hfront (ih rest.length (by simp) rest rfl)

end Replacement

/-! ## Spaces taken out -/

/-- The second text is the first one without some of its spaces. -/
inductive SpacesDropped : Text → Text → Prop where
  | nil : SpacesDropped [] []
  | keep (c : Char) {text left : Text} (tail : SpacesDropped text left) :
      SpacesDropped (c :: text) (c :: left)
  | drop {text left : Text} (tail : SpacesDropped text left) :
      SpacesDropped (' ' :: text) left

theorem SpacesDropped.refl (text : Text) : SpacesDropped text text := by
  induction text with
  | nil => exact .nil
  | cons c rest ih => exact .keep c ih

theorem SpacesDropped.trans {text between left : Text} (hfirst : SpacesDropped text between)
    (hsecond : SpacesDropped between left) : SpacesDropped text left := by
  induction hfirst generalizing left with
  | nil => exact hsecond
  | drop _ ih => exact .drop (ih hsecond)
  | keep c _ ih =>
    cases hsecond with
    | keep _ tail => exact .keep c (ih tail)
    | drop tail => exact .drop (ih tail)

theorem SpacesDropped.append {first left second left' : Text}
    (hfirst : SpacesDropped first left) (hsecond : SpacesDropped second left') :
    SpacesDropped (first ++ second) (left ++ left') := by
  induction hfirst with
  | nil => exact hsecond
  | keep c _ ih => exact .keep c ih
  | drop _ ih => exact .drop ih

/-- A replacement that only takes spaces out of its pattern takes only spaces
out of a text. -/
theorem spacesDropped_replaceAll {pattern replacement : Text} (hpattern : pattern ≠ [])
    (hspaces : SpacesDropped pattern replacement) (text : Text) :
    SpacesDropped text (replaceAll pattern replacement text) := by
  induction text using replaceAll_induction hpattern with
  | nil => exact .nil
  | hit rest ih =>
    rw [replaceAll_append_self hpattern]
    exact hspaces.append ih
  | miss c rest hfront ih =>
    rw [replaceAll_cons hfront]
    exact .keep c ih

end Text

namespace Fragments

open Text (SpacesDropped)

theorem spacesDropped_tightenLinks (text : Text) : SpacesDropped text (tightenLinks text) := by
  apply Text.spacesDropped_replaceAll (by decide)
  have hlink : SpacesDropped "[/url]".toList "[/url]".toList := .refl _
  exact hlink.append (.drop (.refl [')']))

theorem spacesDropped_dedent (text : Text) : SpacesDropped text (dedent text) := by
  apply Text.spacesDropped_replaceAll (by decide)
  exact .keep '\n' (.drop .nil)

/-- Tidying strips the joined fragments and takes out spaces. -/
theorem tidied_spacesDropped (fragments : Fragments) :
    SpacesDropped (Text.strip (fragments.joined " ")) fragments.tidied :=
  (spacesDropped_tightenLinks _).trans (spacesDropped_dedent _)

end Fragments

end ForumPost
