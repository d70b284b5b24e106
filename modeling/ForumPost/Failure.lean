import ForumPost.Dialect
import ForumPost.Text.UpperCase

/-!
# Failures

The reasons for which no post can be made, each with its wording.
-/

namespace ForumPost

/-- Why a post cannot be made. -/
inductive Failure where
  /-- The article holds an element that no rule covers. -/
  | strayElement (tag : Text)
  /-- The article holds a division or a section of no known class. -/
  | unknownWrapper (tag : Text)
  /-- The dialect has no markup for a tag. -/
  | noMarkupForTag (dialect : Dialect) (tag : Text)
  /-- The dialect has no markup for headings of a level. -/
  | noMarkupForHeading (dialect : Dialect) (level : Nat)
  /-- The page does not name its canonical address. -/
  | noCanonicalAddress
  /-- The page has no element that holds the article. -/
  | noContent
  /-- No dialect has the given name. -/
  | unknownDialect (id : Text)
  /-- A table cell hides more columns than it takes, so that no grid can be
  drawn around it. -/
  | brokenGrid
  deriving DecidableEq

namespace Failure

/-- The failure at an element that no rule covers, which is named in
capitals. -/
def atElement (tag : Text) : Failure :=
  strayElement (Text.upperCase tag)

/-- The failure at a division or section of no known class, which is named in
capitals. -/
def atWrapper (tag : Text) : Failure :=
  unknownWrapper (Text.upperCase tag)

/-- The wording of a failure. -/
def message : Failure → Text
  | strayElement tag => "Unable to handle ".toList ++ tag
  | unknownWrapper tag =>
    "Unable to handle ".toList ++ tag ++ " without a recognized wrapper class".toList
  | noMarkupForTag dialect tag =>
    dialect.id ++ " has no mapping for tag '".toList ++ tag ++ "'".toList
  | noMarkupForHeading dialect level =>
    dialect.id ++ " has no mapping for heading level ".toList ++ (toString level).toList
  | noCanonicalAddress =>
    "Document has no canonical URL (expected link[rel=canonical])".toList
  | noContent =>
    "Empty content: document has no .content container. Cannot process".toList
  | unknownDialect id => "Unknown renderer '".toList ++ id ++ "'".toList
  | brokenGrid => "A table cell hides more columns than it takes".toList

end Failure

/-- The dialect with a given name, or the failure that there is none. -/
def Dialect.ofId (name : Text) : Except Failure Dialect :=
  match Dialect.ofId? name with
  | some dialect => .ok dialect
  | none => .error (.unknownDialect name)

end ForumPost
