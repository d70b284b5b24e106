import ForumPost.Text.Blank

/-!
# Sources

Where a page comes from: an address in the web, or a path in the file system.
Blank characters around either do not matter.
-/

namespace ForumPost

/-- Where a page comes from. -/
inductive Source where
  | url (address : Text)
  | path (name : Text)
  deriving DecidableEq, Inhabited

namespace Source

/-- The source that a text names.  An address is known by its scheme, in small
letters. -/
def ofText (text : Text) : Source :=
  let trimmed := Text.trimBlank text
  if "http://".toList.isPrefixOf trimmed || "https://".toList.isPrefixOf trimmed then
    url trimmed
  else
    path trimmed

/-- A source as it is named to the user. -/
def display : Source → Text
  | url address => address
  | path name => name

end Source

end ForumPost
