import ForumPost.Article.Node
import ForumPost.Html.Find

/-!
# Articles in pages

The element of a page that holds an article, as a node of the article.  The
contents of templates are left out, since they are not part of the element
tree.
-/

namespace ForumPost

/-- Attributes by their names alone.  Where an attribute has a qualified
namesake, that one counts. -/
def namedAttributes (attributes : List Html.Attribute) : List (Text × Text) :=
  (attributes.filter (!·.qualified) ++ attributes.filter (·.qualified)).map fun entry =>
    (entry.name, entry.value)

mutual

/-- The nodes of an article for a node of a page: one, or none for what is not
part of the element tree. -/
def Node.ofPage : Html.Node → List Node
  | .text content => [.text content]
  | .comment _ => [.comment]
  | .fragment _ => []
  | .element _ tag attributes children =>
    let name := Text.lowerAscii tag
    [.ofParts (.ofTag name) name (namedAttributes attributes) (Html.classesOf attributes)
      (Node.allOfPage children)]

/-- The nodes of an article for nodes of a page. -/
def Node.allOfPage : List Html.Node → List Node
  | [] => []
  | node :: rest => Node.ofPage node ++ Node.allOfPage rest

end

end ForumPost
