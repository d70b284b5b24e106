import ForumPost.Markup.Reddit
import ForumPost.Proofs.Text.Compact

/-!
# The Markdown of Reddit keeps every text

Escaping puts backslashes into a text and marks stand around it.  Nothing of
the text itself is changed, so that it is a sublist of what is written for it.
-/

namespace ForumPost

namespace Reddit

/-- Escaping adds characters and takes none away. -/
theorem sublist_escape (text : Text) : text.Sublist (escape text) := by
  induction text with
  | nil => exact .slnil
  | cons c rest ih =>
    have hchar : [c].Sublist (if isSigil c then ['\\', c] else [c]) := by
      split
      · exact .cons '\\' (.refl [c])
      · exact .refl [c]
    rw [escape_cons, ← List.singleton_append]
    exact hchar.append ih

theorem sublist_between (mark : String) (text : Text) : text.Sublist (between mark text) := by
  have hbehind : text.Sublist (mark.toList ++ text) := List.sublist_append_right mark.toList text
  exact hbehind.trans (List.sublist_append_left _ mark.toList)

/-- An escaped text between marks. -/
theorem sublist_between_escape (mark : String) (text : Text) :
    text.Sublist (between mark (escape text)) :=
  (sublist_escape text).trans (sublist_between mark (escape text))

theorem sublist_link (url text : Text) : text.Sublist (link url text) := by
  have hopening : (escape text).Sublist ("[".toList ++ escape text) :=
    List.sublist_append_right "[".toList (escape text)
  have hlink : ("[".toList ++ escape text).Sublist (link url text) := by
    rw [link, plainLink, List.append_assoc, List.append_assoc]
    exact List.sublist_append_left _ _
  exact (sublist_escape text).trans (hopening.trans hlink)

theorem sublist_heading {level : Nat} {text written : Text}
    (hwritten : heading? level text = some written) : text.Sublist written := by
  have htop : text.Sublist ("# ".toList ++ escape text) :=
    (sublist_escape text).trans (List.sublist_append_right "# ".toList (escape text))
  unfold heading? at hwritten
  split at hwritten
  · rw [← Option.some.inj hwritten]
    exact htop
  · rw [← Option.some.inj hwritten]
    exact htop
  · rw [← Option.some.inj hwritten]
    exact sublist_between_escape "**" text
  · rw [← Option.some.inj hwritten]
    exact sublist_between_escape "*" text
  · cases hwritten

theorem sublist_inline {tag text written : Text} (hwritten : inline? tag text = some written) :
    text.Sublist written := by
  obtain ⟨mark, -, rfl⟩ := Option.map_eq_some_iff.mp hwritten
  exact sublist_between_escape mark text

/-- A quotation holds its parts, in order. -/
theorem flatten_sublist_quotation (parts : List Text) :
    parts.flatten.Sublist (quotation parts) := by
  have hmarked : (parts.flatMap id).Sublist (parts.flatMap fun part => '>' :: part) :=
    List.Sublist.flatMap_right parts fun part _ => List.sublist_cons_self '>' part
  rw [List.flatMap_id] at hmarked
  exact hmarked.trans (Text.flatten_sublist_join _ _)

/-- A side note holds its parts, in order. -/
theorem flatten_sublist_sidenote (parts : List Text) :
    parts.flatten.Sublist (sidenote parts) := by
  cases parts with
  | nil => exact List.nil_sublist _
  | cons first rest =>
    have hlabel : first.Sublist ("SIDENOTE: ".toList ++ first) :=
      List.sublist_append_right "SIDENOTE: ".toList first
    have hparts : (first :: rest).flatten.Sublist
        (Text.join " ".toList (("SIDENOTE: ".toList ++ first) :: rest)) := by
      refine List.Sublist.trans ?_ (Text.flatten_sublist_join _ _)
      rw [List.flatten_cons, List.flatten_cons]
      exact hlabel.append (.refl _)
    rw [sidenote]
    refine hparts.trans (List.Sublist.trans ?_ (List.sublist_append_left _ ")".toList))
    exact List.sublist_append_right "^(".toList _

end Reddit

end ForumPost
