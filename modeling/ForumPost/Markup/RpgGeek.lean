import ForumPost.Text.Blank

/-!
# The markup of RPGGeek

How each part of a post is written in the bracket markup of RPGGeek.  Every
part opens with a tag in brackets and closes with the same tag behind a slash.
-/

namespace ForumPost

namespace RpgGeek

/-- A text between an opening tag, which may have a value, and its closing
tag. -/
def tagged (tag : String) (value : Option Text) (text : Text) : Text :=
  let valuePart := value.elim [] fun value => '=' :: value
  "[".toList ++ tag.toList ++ valuePart ++ "]".toList ++ text ++ "[/".toList ++ tag.toList ++
    "]".toList

/-- A text in letters of a given size. -/
def sized (size : Nat) (text : Text) : Text :=
  tagged "size" (some (toString size).toList) text

/-- A link. -/
def link (url text : Text) : Text :=
  tagged "url" (some url) text

/-- The line that tells where an article was posted first. -/
def banner (siteName url : Text) : Text :=
  tagged "b" none ("Originally posted at ".toList ++ link url siteName)

/-- A footer, small and slanted. -/
def footer (text : Text) : Text :=
  tagged "i" none (sized 8 text)

/-- The letter sizes of the heading levels. -/
def headingSizes : List (Nat × Nat) :=
  [(1, 24), (2, 24), (3, 18), (4, 14)]

/-- A heading, if its level has a size. -/
def heading? (level : Nat) (text : Text) : Option Text :=
  (headingSizes.lookup level).map fun size => sized size text

/-- The stripped parts, with a separator in between. -/
def stripped (separator : String) (parts : List Text) : Text :=
  Text.join separator.toList (parts.map Text.strip)

/-- A quotation, with an empty line around each of its parts. -/
def quotation (parts : List Text) : Text :=
  stripped "\n\n" ("[q]".toList :: parts ++ ["[/q]".toList])

/-- A side note: small, slanted and in a colour of its own. -/
def sidenote (parts : List Text) : Text :=
  stripped " "
    ("[COLOR=#9900CC][i][size=9]".toList :: parts ++ ["[/size][/i][/COLOR]".toList])

/-- The opening words of a new thought. -/
def newThought (text : Text) : Text :=
  tagged "i" none (tagged "b" none (sized 14 text))

/-- An image. -/
def image (source : Text) : Text :=
  tagged "IMG" none source

/-- The bracket tags of inline elements, by their tags in the article. -/
def inlineTags : List (String × String) :=
  [("code", "c"), ("em", "i"), ("i", "i"), ("s", "-"), ("del", "-"), ("strong", "b"), ("b", "b")]

/-- An inline element, if its tag has markup. -/
def inline? (tag text : Text) : Option Text :=
  (inlineTags.lookup (String.ofList tag)).map fun mapped => tagged mapped none text

/-- The caption of a table. -/
def caption (text : Text) : Text :=
  tagged "b" none text

/-- The footer of a table. -/
def tableFooter (text : Text) : Text :=
  tagged "i" none text

/-- A table stands in a block of fixed-width letters. -/
def tableContainer (content : Text) : Text :=
  "[c]\n".toList ++ content ++ "\n[/c]".toList

end RpgGeek

end ForumPost
