import ForumPost.Text.Escapes

/-!
# The texts that are shown as they are

Outside of a terminal a text loses its escape sequences.  What is left of it are
characters that are shown (`isShown_of_mem_withoutEscapes`), and so a text stays as it
is just if all of its characters are shown (`withoutEscapes_eq_self_iff`).
-/

namespace ForumPost

namespace Text

/-- Inside of a sequence, too, nothing is shown but what is shown outside. -/
theorem isShown_of_shows {escape : Escape} {c : Char} (hshows : escape.shows c = true) :
    isShown c = true := by
  have hspace : isControlSpace c = true → isShown c = true := by
    intro hcontrol
    simp [isShown, hcontrol]
  cases escape with
  | outside => exact hshows
  | opened | designating | control => exact hspace hshows
  | device | deviceParameters | deviceSet | string | command => cases hshows

theorem isShown_of_mem_withoutEscapesFrom {showing : Bool} {escape : Escape} {text : Text}
    {c : Char} (hc : c ∈ withoutEscapesFrom showing escape text) : isShown c = true := by
  induction text generalizing showing escape with
  | nil => cases hc
  | cons first rest ih =>
    rw [withoutEscapesFrom] at hc
    by_cases hkeep : (showing && isShown first || escape.shows first) = true
    · rw [if_pos hkeep] at hc
      rcases List.mem_cons.mp hc with rfl | hrest
      · rcases Bool.or_eq_true_iff.mp hkeep with hshowing | hshows
        · exact (Bool.and_eq_true_iff.mp hshowing).2
        · exact isShown_of_shows hshows
      · exact ih hrest
    · rw [if_neg hkeep] at hc
      exact ih hc

/-- What is left of a text without its escape sequences is shown. -/
theorem isShown_of_mem_withoutEscapes {text : Text} {c : Char} (hc : c ∈ withoutEscapes text) :
    isShown c = true :=
  isShown_of_mem_withoutEscapesFrom hc

/-- A text is shown as it is just if each of its characters is shown. -/
theorem withoutEscapes_eq_self_iff {text : Text} :
    withoutEscapes text = text ↔ ∀ c ∈ text, isShown c = true := by
  constructor
  · intro hself c hc
    rw [← hself] at hc
    exact isShown_of_mem_withoutEscapes hc
  · intro hshown
    exact withoutEscapes_of_all (List.all_eq_true.mpr hshown)

/-- The end of a line is shown wherever it stands behind a text that is shown as it
is. -/
theorem withoutEscapes_append_newline {text : Text} (hself : withoutEscapes text = text) :
    withoutEscapes (text ++ ['\n']) = text ++ ['\n'] := by
  rw [withoutEscapes_eq_self_iff] at hself ⊢
  intro c hc
  rcases List.mem_append.mp hc with htext | hnewline
  · exact hself c htext
  · rw [List.mem_singleton.mp hnewline]
    decide

end Text

end ForumPost
