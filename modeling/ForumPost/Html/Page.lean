import ForumPost.Text.Basic

/-!
# Pages

A page is a tree: elements, texts and comments.  The contents of a template
stand below it in a fragment, which is not an element, so that the contents
are not children of the template.
-/

namespace ForumPost

namespace Html

/-- The vocabularies that elements belong to. -/
inductive Space where
  | html
  | svg
  | mathMl
  deriving DecidableEq, Inhabited

/-- An attribute of an element.  A qualified attribute is one whose name had
the name of a vocabulary in front, such as `xlink:href`. -/
structure Attribute where
  name : Text
  value : Text
  qualified : Bool := false
  deriving DecidableEq, Inhabited

/-- A node of a page. -/
inductive Node where
  | text (content : Text)
  | comment (content : Text)
  /-- The contents of a template. -/
  | fragment (children : List Node)
  | element (space : Space) (tag : Text) (attributes : List Attribute) (children : List Node)
  deriving Inhabited

/-- The nodes at the top of a page. -/
abbrev Page := List Node

end Html

end ForumPost
