import ForumPost.Text.Blank

/-!
# Dialects

The forum dialects that a post can be written in, with the names that users
know them by.
-/

namespace ForumPost

/-- The dialects of forum markup. -/
inductive Dialect where
  /-- The Markdown of Reddit. -/
  | reddit
  /-- The bracket markup of RPGGeek and BoardGameGeek. -/
  | rpgGeek
  deriving DecidableEq, Inhabited

namespace Dialect

/-- The dialects in the order in which they are listed. -/
def all : List Dialect :=
  [reddit, rpgGeek]

/-- The name that a dialect is chosen by. -/
def id : Dialect → Text
  | reddit => "reddit".toList
  | rpgGeek => "rpggeek".toList

/-- A line about a dialect. -/
def description : Dialect → Text
  | reddit => "Reddit flavored markdown".toList
  | rpgGeek => "RPGGeek forum markup (BBCode-like)".toList

/-- The dialect with a given name.  Blank characters around the name and the
case of its ASCII letters do not matter. -/
def ofId? (name : Text) : Option Dialect :=
  all.find? fun dialect => Text.sameIgnoringCase dialect.id (Text.trimBlank name)

theorem mem_all (dialect : Dialect) : dialect ∈ all := by
  cases dialect <;> decide

/-- Each dialect is found under its own name. -/
theorem ofId?_id (dialect : Dialect) : ofId? dialect.id = some dialect := by
  cases dialect <;> decide

end Dialect

end ForumPost
