import ForumPost.Text.Basic

/-!
# Lines

A text is cut after every line feed.  A line loses its line feed, and with it
one carriage return in front of it; a text that ends in a line feed has no
empty last line.
-/

namespace ForumPost

namespace Text

/-- The lines of a text. -/
def lines : Text → List Text
  | [] => []
  | '\n' :: rest => [] :: lines rest
  | '\r' :: '\n' :: rest => [] :: lines rest
  | c :: rest => growFirst c (lines rest)

end Text

end ForumPost
