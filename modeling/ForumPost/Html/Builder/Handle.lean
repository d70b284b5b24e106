import ForumPost.Html.Builder.AfterBody
import ForumPost.Html.Builder.Frameset
import ForumPost.Html.Builder.Select
import ForumPost.Html.Builder.Table
import ForumPost.Html.Builder.Template

/-!
# One token

A token is handled by the rules of the mode, or, inside a vector image or a
formula, by the rules of foreign content.  Foreign content keeps its tags as
they are, apart from the capitals in names; a tag that belongs to HTML alone
ends it.
-/

namespace ForumPost

namespace Html

/-- Handles a token by the rules of a mode. -/
def stepIn (mode : InsertionMode) : Token → Build Step :=
  match mode with
  | .initial => inInitial
  | .beforeHtml => inBeforeHtml
  | .beforeHead => inBeforeHead
  | .inHead => inHead
  | .afterHead => inAfterHead
  | .inBody => inBody
  | .text => inText
  | .inTable => inTable
  | .inTableText => inTableText
  | .inCaption => inCaption
  | .inColumnGroup => inColumnGroup
  | .inTableBody => inTableBody
  | .inRow => inRow
  | .inCell => inCell
  | .inSelect => inSelect
  | .inSelectInTable => inSelectInTable
  | .inTemplate => inTemplate
  | .afterBody => inAfterBody
  | .inFrameset => inFrameset
  | .afterFrameset => inAfterFrameset
  | .afterAfterBody => inAfterAfterBody
  | .afterAfterFrameset => inAfterAfterFrameset

/-- Handles a token by the rules of the mode that is set. -/
def stepHere (token : Token) : Build Step := do
  stepIn (← get).mode token

/-! ## Foreign content -/

/-- The vocabulary and name of the innermost open element. -/
def Builder.current? (builder : Builder) : Option (Space × String) :=
  builder.opened.head?.bind builder.arena.element?

/-- Is the innermost open element foreign? -/
def Builder.isInForeign (builder : Builder) : Bool :=
  builder.current?.any fun current => current.1 != .html

/-- The MathML elements that stay in MathML inside of text. -/
def mathSignTags : List String :=
  ["mglyph", "malignmark"]

/-- Do the rules of HTML hold for a token inside a foreign element? -/
def staysHtml (space : Space) (name : String) (token : Token) : Bool :=
  match token with
  | .nul | .char _ => isIntegrationPoint space name
  | .startTag tag =>
    match space with
    | .mathMl =>
      mathTextTags.contains name && !mathSignTags.contains tag.name ||
        name == "annotation-xml" && tag.name == "svg"
    | .svg => svgHtmlTags.contains name
    | .html => true
  | .endOfPage => true
  | _ => false

/-- Is a token handled by the rules of foreign content? -/
def Builder.takesAsForeign (builder : Builder) (token : Token) : Bool :=
  match builder.current? with
  | some (space, name) => space != .html && !staysHtml space name token
  | none => false

/-- Start tags that end foreign content. -/
def breakoutTags : List String :=
  ["b", "big", "blockquote", "body", "br", "center", "code", "dd", "div", "dl", "dt", "em",
    "embed", "h1", "h2", "h3", "h4", "h5", "h6", "head", "hr", "i", "img", "li", "listing",
    "menu", "meta", "nobr", "ol", "p", "pre", "ruby", "s", "small", "span", "strong", "strike",
    "sub", "sup", "table", "tt", "u", "ul", "var"]

/-- Does a start tag end foreign content?  A font does so if it says how the
text looks. -/
def Tag.breaksOut (tag : Tag) : Bool :=
  breakoutTags.contains tag.name ||
    tag.name == "font" && ["color", "face", "size"].any fun name => (tag.attribute? name).isSome

/-- May the rules of HTML go on at an open element? -/
def Builder.admitsHtml (builder : Builder) (id : NodeId) : Bool :=
  match builder.arena.element? id with
  | some (space, name) => space == .html || isIntegrationPoint space name
  | none => true

/-- Ends foreign content at a tag of HTML. -/
def breakOut (token : Token) : Build Step := do
  modify fun builder =>
    { builder with opened := builder.opened.dropWhile fun id => !builder.admitsHtml id }
  stepHere token

/-- Opens an element of the vocabulary of the innermost open element. -/
def openForeign (tag : Tag) : Build Step := do
  match (← get).current? with
  | some (.svg, _) => insertForeign .svg (withCapitals svgTags tag.name) tag
  | some (space, _) => insertForeign space tag.name tag
  | none => return .done

/-- Handles an end tag in foreign content: it closes the innermost element of
its name, whatever the case, unless an element of HTML stands in between.
`isFirst` tells that no element has been passed. -/
def closeForeign (tag : Tag) (isFirst : Bool) : List NodeId → Build Step
  | [] => return .done
  | [_] => return .done
  | id :: outer => do
    match (← get).arena.element? id with
    | some (space, name) =>
      if !isFirst && space == .html then
        stepHere (.endTag tag)
      else if name.toLower == tag.name.toLower then
        changeOpened fun _ => outer
        return .done
      else
        closeForeign tag false outer
    | none => closeForeign tag false outer

/-- In foreign content. -/
def inForeign (token : Token) : Build Step := do
  match token with
  | .nul =>
    insertChar '\ufffd'
    return .done
  | .char c =>
    if !isSpace c then forbidFrameset
    insertChar c
    return .done
  | .comment content =>
    insertComment content
    return .done
  | .startTag tag => if tag.breaksOut then breakOut token else openForeign tag
  | .endTag tag =>
    if tag.name == "br" || tag.name == "p" then breakOut token
    else closeForeign tag true (← get).opened
  | _ => return .done

/-! ## Any token -/

/-- Handles a token once. -/
def handleOnce (token : Token) : Build Step := do
  if (← get).takesAsForeign token then inForeign token else stepHere token

/-- Handles a token until it is done with.  `fuel` bounds the number of times
that it is taken up again.  Gives the way of reading that it asks for. -/
def handleAgain (token : Token) : Nat → Build (Option Reading.Mode)
  | 0 => return none
  | fuel + 1 => do
    match ← handleOnce token with
    | .done => return none
    | .again => handleAgain token fuel
    | .read mode => return some mode

/-- Handles a token.  It is taken up again only where elements or templates
are closed, or a few times at the start of a page. -/
def handle (token : Token) : Build (Option Reading.Mode) := do
  let builder ← get
  set { builder with dropsLineFeed := false }
  match token with
  | .documentType declared =>
    declareType declared
    return none
  | _ =>
    if builder.dropsLineFeed && token == .char '\n' then
      return none
    handleAgain token (16 + 4 * (builder.opened.length + builder.templateModes.length))

end Html

end ForumPost
