import ForumPost.Text.Basic

/-!
# The site of an article

What a post says about the site that the article comes from: the name under
which the site is linked, and the address of its game licence.
-/

namespace ForumPost

/-- The site that an article comes from. -/
structure Site where
  /-- The name of the site. -/
  name : Text := "Take on Rules".toList
  /-- The address of the licence of open game content. -/
  licenseUrl : Text := "https://takeonrules.com/open-game-license/".toList
  deriving DecidableEq, Inhabited

end ForumPost
