import ForumPost.Text.Basic

/-!
# Kinds of article nodes

What a node of an article is, as far as its handling goes.  The kind of an
element follows from its tag, whatever its case; a tag that is not in the list
`Kind.known` gives a kind of its own, which keeps the name.
-/

namespace ForumPost

/-- The kinds of nodes. -/
inductive Kind where
  | text
  -- left out with all that they hold
  | superscript
  | subscript
  | inlineFrame
  | script
  | noScript
  | aside
  | details
  | rule
  | lineBreak
  | label
  | input
  -- parts of a line
  | code
  | emphasis
  | strong
  | italic
  | bold
  | struck
  | deleted
  | citation
  | time
  | anchor
  | span
  | image
  -- blocks
  | heading (level : Nat)
  | footer
  | bulletList
  | numberedList
  | definitionList
  | listItem
  | paragraph
  | sectioning
  | division
  | quotation
  | preformatted
  | figure
  -- tables
  | table
  | caption
  | tableHead
  | tableBody
  | tableFoot
  | tableRow
  | headerCell
  | dataCell
  -- anything else, by its name
  | other (name : Text)
  deriving DecidableEq, Inhabited

namespace Kind

/-- The tags with a kind that is known by name. -/
def known : List (String × Kind) :=
  [("text", text), ("sup", superscript), ("sub", subscript), ("iframe", inlineFrame),
    ("script", script), ("noscript", noScript), ("aside", aside), ("details", details),
    ("hr", rule), ("br", lineBreak), ("label", label), ("input", input), ("code", code),
    ("em", emphasis), ("strong", strong), ("i", italic), ("b", bold), ("s", struck),
    ("del", deleted), ("cite", citation), ("time", time), ("a", anchor), ("span", span),
    ("img", image), ("h1", heading 1), ("h2", heading 2), ("h3", heading 3), ("h4", heading 4),
    ("footer", footer), ("ul", bulletList), ("ol", numberedList), ("dl", definitionList),
    ("li", listItem), ("p", paragraph), ("section", sectioning), ("div", division),
    ("blockquote", quotation), ("pre", preformatted), ("figure", figure), ("table", table),
    ("caption", caption), ("thead", tableHead), ("tbody", tableBody), ("tfoot", tableFoot),
    ("tr", tableRow), ("th", headerCell), ("td", dataCell)]

/-- The kind of an element with a given tag, in capitals or not. -/
def ofTag (tag : Text) : Kind :=
  let name := Text.lowerAscii tag
  (known.lookup (String.ofList name)).getD (other name)

/-- The kind of a comment. -/
def comment : Kind :=
  other "comment".toList

/-- The kinds whose nodes are left out of a post, with all that they hold. -/
def isLeftOut : Kind → Bool
  | superscript | subscript | inlineFrame | script | noScript | aside | details | rule
  | lineBreak | label | input | preformatted => true
  | _ => false

end Kind

end ForumPost
