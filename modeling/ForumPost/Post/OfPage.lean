import ForumPost.Article.OfPage
import ForumPost.Html.Parse
import ForumPost.Post
import ForumPost.Transcript

/-!
# Posts from pages

A post is made from a page in a style: from its title, its canonical address
and the children of the element that holds its content.  Each child gives a
block, unless nothing of it is left.

If several things are missing, the dialect comes first, then the address, then
the content, and then the first child that cannot be written.
-/

namespace ForumPost

/-- The block that a node gives; nothing if it leaves no text. -/
def Style.block? (style : Style) (node : Node) : Except Failure (Option Text) :=
  match (style.transcribe node).toExcept with
  | .error failure => .error failure
  | .ok fragments => .ok (if fragments.isBlank then none else some fragments.tidied)

/-- The blocks of nodes, up to the first failure. -/
def Style.blocks (style : Style) (nodes : List Node) : Except Failure (List Text) :=
  match nodes with
  | [] => .ok []
  | node :: rest => do
    let block ← style.block? node
    let others ← style.blocks rest
    return block.toList ++ others

/-- The nodes of the article that an element of a page holds. -/
def articleNodes : Html.Node → List Node
  | .element _ _ _ children => Node.allOfPage children
  | _ => []

/-- The post for a page. -/
def Post.ofPage (style : Style) (page : Html.Page) : Except Failure Post :=
  match page.canonicalUrl? with
  | none => .error .noCanonicalAddress
  | some url =>
    match page.content? with
    | none => .error .noContent
    | some content => do
      let blocks ← style.blocks (articleNodes content)
      return .assembled page.title url (style.banner url) blocks

/-- The post for the text of a page. -/
def Post.ofText (style : Style) (text : Text) : Except Failure Post :=
  Post.ofPage style (Html.parse text)

/-- The post for the text of a page in the dialect with a given name.  The
dialect is looked up before the text is read. -/
def Post.inDialect (name : Text) (site : Site) (text : Text) : Except Failure Post := do
  let dialect ← Dialect.ofId name
  Post.ofText { dialect, site } text

end ForumPost
