import ForumPost.Site
import ForumPost.Text.Basic

/-!
# Commands

What the program is asked to do: to make a post from a page, to list the
dialects, or to show its version or a page of its manual.
-/

namespace ForumPost

/-- What is asked for when a post is to be made. -/
structure Request where
  /-- Where the page is. -/
  source : Text
  /-- The name of the dialect. -/
  dialect : Text := "reddit".toList
  site : Site := {}
  /-- The file that the post is written to; without one it is shown. -/
  output : Option Text := none
  /-- Is the post put out as JSON? -/
  json : Bool := false
  /-- The seconds to wait for a page from the web. -/
  timeout : Nat := 30
  deriving DecidableEq, Inhabited

/-- What the manual has a page about. -/
inductive Topic where
  | program
  /-- Making posts. -/
  | posts
  /-- Listing the dialects. -/
  | dialects
  /-- Asking for a page of the manual. -/
  | help
  deriving DecidableEq, Inhabited

/-- What the program is asked to do. -/
inductive Command where
  | showVersion
  /-- Show a page of the manual, in short or in detail. -/
  | showHelp (topic : Topic) (detailed : Bool)
  | listDialects (json : Bool)
  | makePost (request : Request)
  deriving DecidableEq, Inhabited

end ForumPost
