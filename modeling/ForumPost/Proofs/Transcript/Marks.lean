import ForumPost.Proofs.Lookup
import ForumPost.Proofs.Markup.RpgGeek
import ForumPost.Proofs.Transcript.Rules

/-!
# What marks show

A mark is never white space, so that what is written with marks shows something,
also where the text between them is empty: its compact form is not empty
(`Text.compact`).

Both dialects put marks around almost everything.  For Reddit a footer has none, an
image is not written at all, and a quotation has marks only in front of its parts.
-/

namespace ForumPost

namespace Text

/-- A text shows something if one of its characters is shown. -/
theorem compact_ne_nil_of_mem {c : Char} {text : Text} (hc : c ∈ text) (hedge : isEdge c = false) :
    compact text ≠ [] := by
  intro hnil
  rw [compact_eq_nil_iff.mp hnil c hc] at hedge
  cases hedge

end Text

namespace Style

variable {style : Style}

theorem compact_tagged_ne_nil (tag : String) (value : Option Text) (text : Text) :
    Text.compact (RpgGeek.tagged tag value text) ≠ [] := by
  have hbracket : '[' ∈ RpgGeek.tagged tag value text := by
    rw [RpgGeek.tagged_eq]
    simp
  exact Text.compact_ne_nil_of_mem hbracket (by decide)

theorem compact_between_ne_nil {mark : String} (hmark : Text.compact mark.toList ≠ [])
    (text : Text) : Text.compact (Reddit.between mark text) ≠ [] := by
  rw [Reddit.between, Text.compact_append, Text.compact_append]
  exact List.append_ne_nil_of_right_ne_nil _ hmark

theorem compact_inlineElement_ne_nil {tag text written : Text}
    (hwritten : style.inlineElement tag text = .ok written) : Text.compact written ≠ [] := by
  obtain ⟨hreddit, hrpgGeek⟩ := inlineElement_eq_ok hwritten
  cases hdialect : style.dialect with
  | reddit =>
    obtain ⟨mark, hmark, rfl⟩ := Option.map_eq_some_iff.mp (hreddit hdialect)
    have hmarks : ∀ entry ∈ Reddit.marks, Text.compact entry.2.toList ≠ [] := by decide
    exact compact_between_ne_nil (hmarks _ (mem_of_lookup_eq_some hmark)) _
  | rpgGeek =>
    obtain ⟨mapped, -, rfl⟩ := Option.map_eq_some_iff.mp (hrpgGeek hdialect)
    exact compact_tagged_ne_nil _ _ _

theorem compact_heading_ne_nil {level : Nat} {text written : Text}
    (hwritten : style.heading level text = .ok written) : Text.compact written ≠ [] := by
  obtain ⟨hreddit, hrpgGeek⟩ := heading_eq_ok hwritten
  cases hdialect : style.dialect with
  | reddit =>
    have htop : Text.compact ("# ".toList ++ Reddit.escape text) ≠ [] := by
      rw [Text.compact_append]
      exact List.append_ne_nil_of_left_ne_nil (by decide) _
    have hheading := hreddit hdialect
    unfold Reddit.heading? at hheading
    split at hheading
    · rw [← Option.some.inj hheading]
      exact htop
    · rw [← Option.some.inj hheading]
      exact htop
    · rw [← Option.some.inj hheading]
      exact compact_between_ne_nil (by decide) _
    · rw [← Option.some.inj hheading]
      exact compact_between_ne_nil (by decide) _
    · cases hheading
  | rpgGeek =>
    obtain ⟨size, -, rfl⟩ := Option.map_eq_some_iff.mp (hrpgGeek hdialect)
    exact compact_tagged_ne_nil _ _ _

theorem compact_newThought_ne_nil (style : Style) (text : Text) :
    Text.compact (style.newThought text) ≠ [] := by
  unfold newThought
  split
  · exact compact_between_ne_nil (by decide) _
  · exact compact_tagged_ne_nil _ _ _

theorem compact_link_ne_nil (style : Style) (url text : Text) :
    Text.compact (style.link url text) ≠ [] := by
  unfold link
  split
  · have hbracket : '[' ∈ Reddit.link url text := by simp [Reddit.link, Reddit.plainLink]
    exact Text.compact_ne_nil_of_mem hbracket (by decide)
  · exact compact_tagged_ne_nil _ _ _

theorem compact_table_ne_nil {table : Table} {written : Text}
    (hwritten : style.table table = .ok written) : Text.compact written ≠ [] := by
  unfold Style.table grid tableContainer at hwritten
  dsimp only at hwritten
  cases hdialect : style.dialect with
  | reddit =>
    simp only [hdialect, Except.ok.injEq] at hwritten
    have hbar : '|' ∈ written := by
      rw [← hwritten]
      simp [Reddit.tableContainer, Reddit.table, Text.join_cons, Reddit.pipeRow]
    exact Text.compact_ne_nil_of_mem hbar (by decide)
  | rpgGeek =>
    simp only [hdialect] at hwritten
    split at hwritten
    · cases hwritten
    · have hbracket : '[' ∈ written := by
        rw [← Except.ok.inj hwritten]
        simp [RpgGeek.tableContainer]
      exact Text.compact_ne_nil_of_mem hbracket (by decide)

theorem compact_stripped_ne_nil {separator : String} {first : Text}
    (hfirst : Text.compact first ≠ []) (hseparator : Text.compact separator.toList = []) (parts : List Text) :
    Text.compact (RpgGeek.stripped separator (first :: parts)) ≠ [] := by
  rw [RpgGeek.stripped, Text.compact_join hseparator, List.map_cons, List.flatMap_cons,
    Text.compact_strip]
  exact List.append_ne_nil_of_left_ne_nil hfirst _

/-- A footer has no marks for Reddit. -/
theorem compact_footer_eq_nil_iff (style : Style) (text : Text) :
    Text.compact (style.footer text) = [] ↔ style.dialect = .reddit ∧ Text.compact text = [] := by
  unfold footer
  cases style.dialect with
  | reddit => simp [Reddit.footer]
  | rpgGeek => simpa [RpgGeek.footer] using compact_tagged_ne_nil "i" none _

/-- Nor has an image, of which nothing is written at all. -/
theorem compact_image_eq_nil_iff (style : Style) (source : Text) :
    Text.compact (style.image source) = [] ↔ style.dialect = .reddit := by
  unfold image
  cases style.dialect with
  | reddit => simp
  | rpgGeek => simpa [RpgGeek.image] using compact_tagged_ne_nil "IMG" none source

/-- For Reddit, a quotation has a mark in front of each of its parts. -/
theorem compact_quotation_eq_nil_iff (style : Style) (parts : List Text) :
    Text.compact (style.quotation parts) = [] ↔ style.dialect = .reddit ∧ parts = [] := by
  unfold quotation
  cases style.dialect with
  | reddit =>
    cases parts with
    | nil => simp [Reddit.quotation]
    | cons first rest =>
      have hmark : '>' ∈ Reddit.quotation (first :: rest) := by
        simp [Reddit.quotation, Text.join_cons]
      simpa using Text.compact_ne_nil_of_mem hmark (by decide)
  | rpgGeek =>
    have hshown : Text.compact (RpgGeek.stripped "\n\n"
        ("[q]".toList :: (parts ++ ["[/q]".toList]))) ≠ [] :=
      compact_stripped_ne_nil (by decide) (by decide) _
    simpa [RpgGeek.quotation] using hshown

theorem compact_sidenote_ne_nil (style : Style) (parts : List Text) :
    Text.compact (style.sidenote parts) ≠ [] := by
  unfold sidenote
  split
  · have hmark : '^' ∈ Reddit.sidenote parts := by simp [Reddit.sidenote]
    exact Text.compact_ne_nil_of_mem hmark (by decide)
  · exact compact_stripped_ne_nil (by decide) (by decide) _

theorem compact_openGameContent_ne_nil (style : Style) (parts : List Text) :
    Text.compact (style.openGameContent parts) ≠ [] := by
  rw [openGameContent, Text.compact_join (by decide), List.flatMap_map]
  simp only [Text.compact_strip, List.flatMap_append]
  exact List.append_ne_nil_of_right_ne_nil _ (by decide)

theorem compact_listItem_ne_nil (parts : List Text) : Text.compact (listItem parts) ≠ [] := by
  have hbullet : '*' ∈ listItem parts := by
    rw [listItem_eq]
    simp
  exact Text.compact_ne_nil_of_mem hbullet (by decide)

/-- Apart from a paragraph, what gathers fragments shows something for RPGGeek. -/
theorem compact_gathered_ne_nil {gathering : Gathering} (hgathering : gathering ≠ .paragraph)
    (hdialect : style.dialect = .rpgGeek) (parts : List Text) :
    Text.compact (style.gathered gathering parts) ≠ [] := by
  cases gathering with
  | paragraph => exact absurd rfl hgathering
  | listItem => exact compact_listItem_ne_nil parts
  | sidenote => exact style.compact_sidenote_ne_nil parts
  | gameContent => exact style.compact_openGameContent_ne_nil parts
  | quotation =>
    intro hempty
    rw [gathered, compact_quotation_eq_nil_iff, hdialect] at hempty
    cases hempty.1

end Style

end ForumPost
