import ForumPost.Failure
import ForumPost.Site
import ForumPost.Markup.Grid
import ForumPost.Markup.Reddit
import ForumPost.Markup.RpgGeek

/-!
# Markup

A style is a dialect together with what a post says about its site.  Each
function writes one part of a post in a style.  A part that the dialect has no
markup for is a failure.
-/

namespace ForumPost

/-- A dialect, and the site that the articles come from. -/
structure Style where
  dialect : Dialect
  site : Site := {}

namespace Style

/-- The line that tells where an article was posted first. -/
def banner (style : Style) (url : Text) : Text :=
  match style.dialect with
  | .reddit => Reddit.banner style.site.name url
  | .rpgGeek => RpgGeek.banner style.site.name url

/-- A text in which no character is read as markup.  The bracket markup has no
escape. -/
def escape (style : Style) (text : Text) : Text :=
  match style.dialect with
  | .reddit => Reddit.escape text
  | .rpgGeek => text

/-- A footer. -/
def footer (style : Style) (text : Text) : Text :=
  match style.dialect with
  | .reddit => Reddit.footer text
  | .rpgGeek => RpgGeek.footer text

/-- A heading. -/
def heading (style : Style) (level : Nat) (text : Text) : Except Failure Text :=
  let written :=
    match style.dialect with
    | .reddit => Reddit.heading? level text
    | .rpgGeek => RpgGeek.heading? level text
  match written with
  | some written => .ok written
  | none => .error (.noMarkupForHeading style.dialect level)

/-- A link. -/
def link (style : Style) (url text : Text) : Text :=
  match style.dialect with
  | .reddit => Reddit.link url text
  | .rpgGeek => RpgGeek.link url text

/-- A quotation of several parts. -/
def quotation (style : Style) (parts : List Text) : Text :=
  match style.dialect with
  | .reddit => Reddit.quotation parts
  | .rpgGeek => RpgGeek.quotation parts

/-- A side note of several parts. -/
def sidenote (style : Style) (parts : List Text) : Text :=
  match style.dialect with
  | .reddit => Reddit.sidenote parts
  | .rpgGeek => RpgGeek.sidenote parts

/-- The opening words of a new thought. -/
def newThought (style : Style) (text : Text) : Text :=
  match style.dialect with
  | .reddit => Reddit.newThought text
  | .rpgGeek => RpgGeek.newThought text

/-- An image.  A dialect without images writes the empty text. -/
def image (style : Style) (source : Text) : Text :=
  match style.dialect with
  | .reddit => []
  | .rpgGeek => RpgGeek.image source

/-- An inline element with a given tag. -/
def inlineElement (style : Style) (tag text : Text) : Except Failure Text :=
  let written :=
    match style.dialect with
    | .reddit => Reddit.inline? tag text
    | .rpgGeek => RpgGeek.inline? tag text
  match written with
  | some written => .ok written
  | none => .error (.noMarkupForTag style.dialect tag)

/-- The headers and rows of a table. -/
def grid (style : Style) (headers : List Text) (rows : List (List Text)) : Except Failure Text :=
  match style.dialect with
  | .reddit => .ok (Reddit.table headers rows)
  | .rpgGeek =>
    match Grid.draw? headers rows with
    | some drawn => .ok drawn
    | none => .error .brokenGrid

/-- The caption of a table. -/
def caption (style : Style) (text : Text) : Text :=
  match style.dialect with
  | .reddit => Reddit.caption text
  | .rpgGeek => RpgGeek.caption text

/-- The footer of a table. -/
def tableFooter (style : Style) (text : Text) : Text :=
  match style.dialect with
  | .reddit => Reddit.tableFooter text
  | .rpgGeek => RpgGeek.tableFooter text

/-- What stands around a table with its caption and footer. -/
def tableContainer (style : Style) (content : Text) : Text :=
  match style.dialect with
  | .reddit => Reddit.tableContainer content
  | .rpgGeek => RpgGeek.tableContainer content

/-- The notice that tells open game content from the rest. -/
def licenseNotice : Text :=
  ("All non-image content between the Begin \"OPEN GAME CONTENT\" and \"End OPEN GAME CONTENT\" " ++
    "is \"Open Game Content\". All other content not declared as \"Open Game Content\" is " ++
    "\"Product Identity\".").toList

/-- The notice in front of open game content, as a side note. -/
def licensePreamble (style : Style) : Text :=
  style.sidenote [licenseNotice]

end Style

end ForumPost
