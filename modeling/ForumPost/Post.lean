import ForumPost.Dialect
import ForumPost.Json

/-!
# Posts

A finished post: the title and address of the article, and the blocks of text
that the post consists of.  The first block is the title, the second the
banner; the banner comes again at the end, and the body stands in between.
-/

namespace ForumPost

/-- A finished post. -/
structure Post where
  title : Text
  canonicalUrl : Text
  blocks : List Text
  deriving DecidableEq, Inhabited

namespace Post

/-- The text of a post: its blocks, with an empty line in between. -/
def text (post : Post) : Text :=
  Text.join "\n\n".toList post.blocks

/-- The blocks between the first two and the last one. -/
def body (post : Post) : List Text :=
  if 3 < post.blocks.length then (post.blocks.drop 2).dropLast else []

/-- A post with a title, a banner and a body. -/
def assembled (title canonicalUrl banner : Text) (body : List Text) : Post :=
  { title
    canonicalUrl
    blocks := ("# ".toList ++ title) :: banner :: body ++ [banner] }

/-- A post as a JSON object, beside the dialect and the text of the post. -/
def toJson (post : Post) (dialect : Dialect) : Json :=
  .object [
    ("dialect".toList, .string dialect.id),
    ("title".toList, .string post.title),
    ("canonical_url".toList, .string post.canonicalUrl),
    ("blocks".toList, .array (post.blocks.map .string)),
    ("content".toList, .string post.text)]

/-- What is put out for a post: its text, or a JSON object that holds it. -/
def output (post : Post) (dialect : Dialect) (json : Bool) : Text :=
  if json then (post.toJson dialect).written else post.text

/-- The body of an assembled post is the body it was assembled from. -/
theorem body_assembled (title canonicalUrl banner : Text) (body : List Text) :
    (assembled title canonicalUrl banner body).body = body := by
  cases body with
  | nil => simp [assembled, Post.body]
  | cons block rest =>
    have hlast : ((block :: rest) ++ [banner]).dropLast = block :: rest :=
      List.dropLast_concat
    simpa [assembled, Post.body] using hlast

end Post

end ForumPost
