import ForumPost.Html.Builder.Arena

/-!
# The state of the tree builder

The builder takes tokens one at a time and puts nodes into the arena.  Its
state is the one of the HTML standard: the insertion mode, the stack of open
elements, the list of active formatting elements, and a few flags.

The stack and the list are kept with their newest entry first.
-/

namespace ForumPost

namespace Html

/-- The insertion modes. -/
inductive InsertionMode where
  | initial
  | beforeHtml
  | beforeHead
  | inHead
  | afterHead
  | inBody
  | text
  | inTable
  | inTableText
  | inCaption
  | inColumnGroup
  | inTableBody
  | inRow
  | inCell
  | inSelect
  | inSelectInTable
  | inTemplate
  | afterBody
  | inFrameset
  | afterFrameset
  | afterAfterBody
  | afterAfterFrameset
  deriving DecidableEq, Inhabited

/-- An entry of the list of active formatting elements. -/
inductive Formatting where
  /-- Keeps elements from being taken up across the border of a cell or the
  like. -/
  | marker
  /-- An element, and the tag that it was made from. -/
  | element (id : NodeId) (tag : Tag)
  deriving DecidableEq, Inhabited

/-- The state of the tree builder. -/
structure Builder where
  arena : Arena := Arena.start
  mode : InsertionMode := .initial
  /-- The mode to return to behind a text. -/
  returnMode : InsertionMode := .initial
  /-- The modes of the open templates, innermost first. -/
  templateModes : List InsertionMode := []
  /-- The open elements, innermost first. -/
  opened : List NodeId := []
  /-- The active formatting elements, newest first. -/
  formatting : List Formatting := []
  head : Option NodeId := none
  form : Option NodeId := none
  /-- May a frameset still take the place of the body? -/
  framesetAllowed : Bool := true
  /-- Is the page in quirks mode? -/
  quirks : Bool := false
  /-- Are nodes put in front of the table instead of into it? -/
  fostering : Bool := false
  /-- Is a line feed dropped if it comes next? -/
  dropsLineFeed : Bool := false
  /-- The characters inside a table that wait for their place, newest first. -/
  tableText : List Char := []
  deriving Inhabited

/-- A computation that changes the builder. -/
abbrev Build := StateM Builder

/-- What is to be done after a token. -/
inductive Step where
  /-- The next token is read. -/
  | done
  /-- The same token is taken up again, in the mode that is set by now. -/
  | again
  /-- The next token is read, and what follows is read in another way. -/
  | read (mode : Reading.Mode)
  deriving Inhabited

/-! ## Sets of tags -/

/-- The elements that nothing generic closes across. -/
def specialTags : List String :=
  ["address", "applet", "area", "article", "aside", "base", "basefont", "bgsound", "blockquote",
    "body", "br", "button", "caption", "center", "col", "colgroup", "dd", "details", "dir", "div",
    "dl", "dt", "embed", "fieldset", "figcaption", "figure", "footer", "form", "frame",
    "frameset", "h1", "h2", "h3", "h4", "h5", "h6", "head", "header", "hgroup", "hr", "html",
    "iframe", "img", "input", "isindex", "li", "link", "listing", "main", "marquee", "menu",
    "meta", "nav", "noembed", "noframes", "noscript", "object", "ol", "p", "param", "plaintext",
    "pre", "script", "section", "select", "source", "style", "summary", "table", "tbody", "td",
    "template", "textarea", "tfoot", "th", "thead", "title", "tr", "track", "ul", "wbr", "xmp"]

/-- The headings. -/
def headingTags : List String :=
  ["h1", "h2", "h3", "h4", "h5", "h6"]

/-- The elements whose end tag may be left out. -/
def impliedEndTags : List String :=
  ["dd", "dt", "li", "option", "optgroup", "p", "rb", "rp", "rt", "rtc"]

/-- The elements that the end of a template closes. -/
def thoroughlyImpliedEndTags : List String :=
  impliedEndTags ++ ["caption", "colgroup", "tbody", "td", "tfoot", "th", "thead", "tr"]

/-- The MathML elements that hold text like elements of HTML. -/
def mathTextTags : List String :=
  ["mi", "mo", "mn", "ms", "mtext"]

/-- The SVG elements that hold elements of HTML. -/
def svgHtmlTags : List String :=
  ["foreignObject", "desc", "title"]

/-- The elements that end the common scope. -/
def scopeTags : List String :=
  ["applet", "caption", "html", "table", "td", "th", "marquee", "object", "template"]

/-- The scopes in which an open element is looked for. -/
inductive Scope where
  | common
  | button
  | listItem
  | table
  | select
  deriving DecidableEq

/-- Does an element of foreign content hold text or elements of HTML? -/
def isIntegrationPoint (space : Space) (tag : String) : Bool :=
  match space with
  | .mathMl => mathTextTags.contains tag
  | .svg => svgHtmlTags.contains tag
  | .html => false

/-- Does an element end a scope? -/
def Scope.endsAt (scope : Scope) (space : Space) (tag : String) : Bool :=
  let isHtml := space == .html
  let common := isHtml && scopeTags.contains tag || isIntegrationPoint space tag
  match scope with
  | .common => common
  | .button => common || isHtml && tag == "button"
  | .listItem => common || isHtml && (tag == "ol" || tag == "ul")
  | .table => isHtml && (tag == "html" || tag == "table" || tag == "template")
  | .select => !(isHtml && (tag == "optgroup" || tag == "option"))

/-! ## Looking at the open elements -/

namespace Builder

/-- Is a node an element of HTML with one of the given tags? -/
def isOneOf (builder : Builder) (id : NodeId) (tags : List String) : Bool :=
  match builder.arena.element? id with
  | some (.html, tag) => tags.contains tag
  | _ => false

/-- Is a node an element of HTML with the given tag? -/
def isNamed (builder : Builder) (id : NodeId) (tag : String) : Bool :=
  builder.isOneOf id [tag]

/-- Is the innermost open element an element of HTML with one of the tags? -/
def currentIsOneOf (builder : Builder) (tags : List String) : Bool :=
  builder.opened.head?.any fun id => builder.isOneOf id tags

/-- Is the innermost open element an element of HTML with the tag? -/
def currentIs (builder : Builder) (tag : String) : Bool :=
  builder.currentIsOneOf [tag]

/-- Is an element of HTML with the tag open? -/
def hasOpened (builder : Builder) (tag : String) : Bool :=
  builder.opened.any fun id => builder.isNamed id tag

/-- The outermost open element, which is the root of the page. -/
def root? (builder : Builder) : Option NodeId :=
  builder.opened.getLast?

/-- The body, if it is open. -/
def body? (builder : Builder) : Option NodeId :=
  match builder.opened.reverse with
  | _ :: id :: _ => if builder.isNamed id "body" then some id else none
  | _ => none

/-- Looks for an element that satisfies `wanted` up to the end of a scope. -/
def inScopeFrom (builder : Builder) (scope : Scope) (wanted : NodeId → Bool) :
    List NodeId → Bool
  | [] => false
  | id :: rest =>
    if wanted id then true
    else
      match builder.arena.element? id with
      | some (space, tag) =>
        if scope.endsAt space tag then false else builder.inScopeFrom scope wanted rest
      | none => builder.inScopeFrom scope wanted rest

/-- Is an element that satisfies `wanted` in a scope? -/
def inScope (builder : Builder) (scope : Scope) (wanted : NodeId → Bool) : Bool :=
  builder.inScopeFrom scope wanted builder.opened

/-- Is an element with the tag in a scope? -/
def hasInScope (builder : Builder) (scope : Scope) (tag : String) : Bool :=
  builder.inScope scope fun id => builder.isNamed id tag

/-- Is a node an element that nothing generic closes across? -/
def isSpecial (builder : Builder) (id : NodeId) : Bool :=
  builder.isOneOf id specialTags

end Builder

/-! ## Closing elements -/

/-- Sets the mode. -/
def setMode (mode : InsertionMode) : Build Unit :=
  modify fun builder => { builder with mode }

/-- From now on no frameset takes the place of the body. -/
def forbidFrameset : Build Unit :=
  modify fun builder => { builder with framesetAllowed := false }

/-- Changes the stack of open elements. -/
def changeOpened (change : List NodeId → List NodeId) : Build Unit :=
  modify fun builder => { builder with opened := change builder.opened }

/-- Closes the innermost open element. -/
def pop : Build Unit :=
  changeOpened (·.drop 1)

/-- Closes open elements up to one that satisfies `wanted`, that one too. -/
def popThrough (wanted : Builder → NodeId → Bool) : Build Unit :=
  modify fun builder =>
    { builder with opened := (builder.opened.dropWhile fun id => !wanted builder id).drop 1 }

/-- Closes open elements up to one with the tag, that one too. -/
def popNamed (tag : String) : Build Unit :=
  popThrough fun builder id => builder.isNamed id tag

/-- Closes open elements until the innermost one has one of the tags. -/
def popUntilCurrent (tags : List String) : Build Unit :=
  modify fun builder =>
    { builder with opened := builder.opened.dropWhile fun id => !builder.isOneOf id tags }

/-- Closes the innermost elements as long as their end tag may be left out;
`kept` is not closed. -/
def closeImplied (tags : List String) (kept : String) : Build Unit :=
  modify fun builder =>
    { builder with
      opened := builder.opened.dropWhile fun id =>
        builder.isOneOf id tags && !builder.isNamed id kept }

/-- Takes an element off the stack, wherever it stands. -/
def removeOpened (id : NodeId) : Build Unit :=
  changeOpened (·.erase id)

/-- Closes a paragraph. -/
def closeParagraph : Build Unit := do
  closeImplied impliedEndTags "p"
  popNamed "p"

/-- Closes a paragraph that is open around the place of a new block. -/
def closeParagraphInScope : Build Unit := do
  if (← get).hasInScope .button "p" then closeParagraph

/-- Drops the formatting elements up to the last marker, and the marker. -/
def clearFormatting : Build Unit :=
  modify fun builder =>
    { builder with formatting := (builder.formatting.dropWhile (· != .marker)).drop 1 }

/-- Adds a marker to the formatting elements. -/
def addMarker : Build Unit :=
  modify fun builder => { builder with formatting := .marker :: builder.formatting }

/-- The mode that fits the open elements. -/
def fittingModeFrom (builder : Builder) : List NodeId → InsertionMode
  | [] => .inBody
  | id :: rest =>
    let isLast := rest.isEmpty
    match builder.arena.element? id with
    | some (.html, tag) =>
      if tag == "select" then
        match rest.find? fun outer => builder.isOneOf outer ["template", "table"] with
        | some outer => if builder.isNamed outer "table" then .inSelectInTable else .inSelect
        | none => .inSelect
      else if (tag == "td" || tag == "th") && !isLast then .inCell
      else if tag == "tr" then .inRow
      else if tag == "tbody" || tag == "thead" || tag == "tfoot" then .inTableBody
      else if tag == "caption" then .inCaption
      else if tag == "colgroup" then .inColumnGroup
      else if tag == "table" then .inTable
      else if tag == "template" then builder.templateModes.head?.getD .inTemplate
      else if tag == "head" && !isLast then .inHead
      else if tag == "body" then .inBody
      else if tag == "frameset" then .inFrameset
      else if tag == "html" then
        if builder.head.isSome then .afterHead else .beforeHead
      else fittingModeFrom builder rest
    | _ => fittingModeFrom builder rest

/-- Sets the mode that fits the open elements. -/
def resetMode : Build Unit :=
  modify fun builder => { builder with mode := fittingModeFrom builder builder.opened }

end Html

end ForumPost
