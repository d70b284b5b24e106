import ForumPost.Proofs.Article.Addresses
import ForumPost.Proofs.Transcript.Rules

/-!
# The image of a figure

A figure shows the first image below it and looks at no other one
(`Node.firstImageSource?_eq`).  Only an image with a source can be shown, and so there
are two images to tell apart: the first one, and the first one with a source.  A figure
never shows another image than the second of them
(`Node.firstImageSource?_eq_none_or`), but it shows none at all where they differ.

So an image without a source, such as the placeholder of an image that is loaded later,
hides all the images behind it.  A margin figure shows its first image with a source
exactly if its first image has one or none has (`marginFigure_shows_source_iff`).
-/

namespace ForumPost

namespace Node

/-- The images below a node, in document order. -/
def images (node : Node) : List Node :=
  node.descendants.filter fun found => found.kind = .image

/-- The source of the first image below a node that has one. -/
def firstSource? (node : Node) : Option Text :=
  node.images.findSome? fun image => image.attribute? "src"

/-- What counts as the source of a figure is that of its first image. -/
theorem firstImageSource?_eq (node : Node) :
    node.firstImageSource? = node.images.head?.bind fun image => image.attribute? "src" := by
  rw [firstImageSource?, findBelow_eq_find?, images, List.head?_filter]

/-- If the first image has a source, it is the first one that has. -/
theorem firstImageSource?_eq_none_or (node : Node) :
    node.firstImageSource? = none ∨ node.firstImageSource? = node.firstSource? := by
  rw [firstImageSource?_eq, firstSource?]
  cases node.images with
  | nil => exact .inl rfl
  | cons first rest =>
    rw [List.head?_cons, Option.bind_some, List.findSome?_cons]
    cases first.attribute? "src" with
    | none => exact .inl rfl
    | some source => exact .inr rfl

theorem firstImageSource?_eq_none_iff {node : Node} :
    node.firstImageSource? = none ↔
      ∀ first ∈ node.images.head?, first.attribute? "src" = none := by
  rw [firstImageSource?_eq, Option.bind_eq_none_iff]
  rfl

theorem firstSource?_eq_none_iff {node : Node} :
    node.firstSource? = none ↔ ∀ image ∈ node.images, image.attribute? "src" = none :=
  List.findSome?_eq_none_iff

end Node

/-- Without a source nothing is written, and with one there is a fragment in either
dialect. -/
theorem Style.imageOf_eq_empty_iff {style : Style} {source? : Option Text} :
    style.imageOf source? = .empty ↔ source? = none := by
  cases source? <;> simp [Style.imageOf, Transcript.empty, Transcript.single]

/-- A margin figure is written as its image. -/
theorem Style.transcribe_marginFigure (style : Style) {node : Node} (hkind : node.kind = .span)
    (hclass : node.hasClass "marginfigure" = true) :
    style.transcribe node = style.imageOf node.firstImageSource? := by
  have hrule : node.rule = .image := by simp [Node.rule, hkind, hclass]
  rw [style.transcribe_eq_writtenBy, hrule, Style.writtenBy]

/-- What a margin figure shows.  It is the image of the first source below it, or nothing.
It is the former exactly if the first image has a source, or no image has one; and it is
nothing exactly if there is no image or the first one has no source. -/
theorem marginFigure_shows_source_iff (style : Style) {node : Node} (hkind : node.kind = .span)
    (hclass : node.hasClass "marginfigure" = true) :
    (style.transcribe node = .empty ∨ style.transcribe node = style.imageOf node.firstSource?) ∧
    (style.transcribe node = style.imageOf node.firstSource? ↔
      (∃ first ∈ node.images.head?, first.attribute? "src" ≠ none) ∨
        ∀ image ∈ node.images, image.attribute? "src" = none) ∧
    (style.transcribe node = .empty ↔
      ∀ first ∈ node.images.head?, first.attribute? "src" = none) := by
  have hsome : (∃ first ∈ node.images.head?, first.attribute? "src" ≠ none) ↔
      node.firstImageSource? ≠ none := by
    rw [ne_eq, Node.firstImageSource?_eq_none_iff]
    push Not
    rfl
  rw [style.transcribe_marginFigure hkind hclass, hsome, ← Node.firstSource?_eq_none_iff,
    ← Node.firstImageSource?_eq_none_iff]
  have hempty : style.imageOf none = .empty := rfl
  refine ⟨?_, ⟨fun hshown => ?_, ?_⟩, Style.imageOf_eq_empty_iff⟩
  · rcases node.firstImageSource?_eq_none_or with hnone | hsame
    · exact .inl (by rw [hnone, hempty])
    · exact .inr (by rw [hsame])
  · by_cases hnone : node.firstImageSource? = none
    · rw [hnone, hempty, eq_comm, Style.imageOf_eq_empty_iff] at hshown
      exact .inr hshown
    · exact .inl hnone
  · rcases node.firstImageSource?_eq_none_or with hnone | hsame
    · rintro (hsource | hsource)
      · exact absurd hnone hsource
      · rw [hnone, hsource]
    · exact fun _ => by rw [hsame]

/-- A margin figure with two images, the first of which is further down. -/
theorem marginFigure_shows_source_first :
    let image (source : String) :=
      Node.element .image "img".toList [("src".toList, source.toList)] [] []
    let link := Node.element .anchor "a".toList [] [] [image "one.png"]
    let node := Node.element .span "span".toList [] ["marginfigure".toList] [link, image "two.png"]
    let style : Style := { dialect := .rpgGeek }
    node.kind = .span ∧ node.hasClass "marginfigure" = true ∧
      node.firstSource? = some "one.png".toList ∧
      style.transcribe node = .single "[IMG]one.png[/IMG]".toList := by
  intro image link node style
  have hsource : node.firstSource? = some "one.png".toList := by decide +kernel
  have hfirst : ∃ first ∈ node.images.head?, first.attribute? "src" ≠ none :=
    ⟨image "one.png", rfl, by decide⟩
  have hkind : node.kind = .span := rfl
  obtain ⟨-, hshown, -⟩ := marginFigure_shows_source_iff style hkind rfl
  refine ⟨rfl, rfl, hsource, ?_⟩
  rw [hshown.mpr (.inl hfirst), hsource]
  decide +kernel

/-- An image without a source hides the one behind it. -/
theorem marginFigure_hides_source :
    let placeholder :=
      Node.element .image "img".toList [("data-src".toList, "one.png".toList)] [] []
    let image := Node.element .image "img".toList [("src".toList, "two.png".toList)] [] []
    let node := Node.element .span "span".toList [] ["marginfigure".toList] [placeholder, image]
    let style : Style := { dialect := .rpgGeek }
    node.firstSource? = some "two.png".toList ∧ style.transcribe node = .empty ∧
      style.transcribe node ≠ style.imageOf node.firstSource? := by
  decide +kernel

end ForumPost
