import ForumPost.Html.Builder.Head

/-!
# The body of a page

The mode of ordinary content: blocks, which close an open paragraph, inline
and formatting elements, forms, lists, and the places where other modes begin.
-/

namespace ForumPost

namespace Html

/-! ## Foreign content -/

/-- SVG attributes whose names have capitals. -/
def svgAttributes : List String :=
  ["attributeName", "attributeType", "baseFrequency", "baseProfile", "calcMode", "clipPathUnits",
    "diffuseConstant", "edgeMode", "filterUnits", "glyphRef", "gradientTransform",
    "gradientUnits", "kernelMatrix", "kernelUnitLength", "keyPoints", "keySplines", "keyTimes",
    "lengthAdjust", "limitingConeAngle", "markerHeight", "markerUnits", "markerWidth",
    "maskContentUnits", "maskUnits", "numOctaves", "pathLength", "patternContentUnits",
    "patternTransform", "patternUnits", "pointsAtX", "pointsAtY", "pointsAtZ", "preserveAlpha",
    "preserveAspectRatio", "primitiveUnits", "refX", "refY", "repeatCount", "repeatDur",
    "requiredExtensions", "requiredFeatures", "specularConstant", "specularExponent",
    "spreadMethod", "startOffset", "stdDeviation", "stitchTiles", "surfaceScale",
    "systemLanguage", "tableValues", "targetX", "targetY", "textLength", "viewBox", "viewTarget",
    "xChannelSelector", "yChannelSelector", "zoomAndPan"]

/-- SVG elements whose names have capitals. -/
def svgTags : List String :=
  ["altGlyph", "altGlyphDef", "altGlyphItem", "animateColor", "animateMotion",
    "animateTransform", "clipPath", "feBlend", "feColorMatrix", "feComponentTransfer",
    "feComposite", "feConvolveMatrix", "feDiffuseLighting", "feDisplacementMap",
    "feDistantLight", "feDropShadow", "feFlood", "feFuncA", "feFuncB", "feFuncG", "feFuncR",
    "feGaussianBlur", "feImage", "feMerge", "feMergeNode", "feMorphology", "feOffset",
    "fePointLight", "feSpecularLighting", "feSpotLight", "feTile", "feTurbulence",
    "foreignObject", "glyphRef", "linearGradient", "radialGradient", "textPath"]

/-- Attributes that are qualified by another vocabulary, with their names
there. -/
def qualifiedAttributes : List (String × String) :=
  [("xlink:actuate", "actuate"), ("xlink:arcrole", "arcrole"), ("xlink:href", "href"),
    ("xlink:role", "role"), ("xlink:show", "show"), ("xlink:title", "title"),
    ("xlink:type", "type"), ("xml:lang", "lang"), ("xml:space", "space"), ("xmlns", "xmlns"),
    ("xmlns:xlink", "xlink")]

/-- The name with the capitals that a list gives it. -/
def withCapitals (names : List String) (name : String) : String :=
  (names.find? fun other => other.toLower == name).getD name

/-- The name of an attribute in a vocabulary. -/
def foreignName (space : Space) (name : String) : String :=
  match space with
  | .svg => withCapitals svgAttributes name
  | .mathMl => if name == "definitionurl" then "definitionURL" else name
  | .html => name

/-- The attributes of a tag in foreign content. -/
def foreignAttributes (space : Space) (tag : Tag) : List Attribute :=
  tag.attributes.map fun (name, value) =>
    let name := foreignName space name
    match qualifiedAttributes.lookup name with
    | some ownName => { name := ownName.toList, value := value.toList, qualified := true }
    | none => { name := name.toList, value := value.toList }

/-- Inserts an element of foreign content, and opens it unless its tag closes
itself. -/
def insertForeign (space : Space) (name : String) (tag : Tag) : Build Step := do
  let attributes := foreignAttributes space tag
  if tag.selfClosing then
    discard <| insertClosed space name attributes
  else
    discard <| insertOpened space name attributes
  return .done

/-! ## Parts of the rules -/

/-- Inserts the element of a tag, with the formatting around it opened
again. -/
def insertInline (tag : Tag) : Build Step := do
  reconstructFormatting
  discard <| insertTag tag
  return .done

/-- Inserts the element of a block, behind a paragraph that is open. -/
def insertBlock (tag : Tag) : Build Step := do
  closeParagraphInScope
  discard <| insertTag tag
  return .done

/-- Inserts the character of a text in the body. -/
def insertBodyChar (c : Char) : Build Step := do
  reconstructFormatting
  insertChar c
  if !isSpace c then forbidFrameset
  return .done

/-- Closes an element together with what is open inside it, if it is in
scope. -/
def closeInScope (scope : Scope) (name : String) : Build Step := do
  if (← get).hasInScope scope name then
    closeImplied impliedEndTags name
    popNamed name
  return .done

/-- The list item or the term that a new one closes; the search ends at an
element that nothing closes across. -/
def itemToClose (builder : Builder) (names : List String) : List NodeId → Option String
  | [] => none
  | id :: rest =>
    match names.find? fun name => builder.isNamed id name with
    | some name => some name
    | none =>
      if builder.isSpecial id && !builder.isOneOf id ["address", "div", "p"] then none
      else itemToClose builder names rest

/-- Opens a list item or a term, behind the one before it. -/
def openItem (names : List String) (tag : Tag) : Build Step := do
  forbidFrameset
  let builder ← get
  match itemToClose builder names builder.opened with
  | some name =>
    closeImplied impliedEndTags name
    popNamed name
  | none => pure ()
  insertBlock tag

/-- Opens an anchor; one that is still active is closed first. -/
def openAnchor (tag : Tag) : Build Step := do
  match (← get).recentFormatting.find? fun entry => entry.2.name == "a" with
  | some (id, _) =>
    closeFormatting "a"
    removeFormatting id
    removeOpened id
  | none => pure ()
  reconstructFormatting
  openFormatting tag
  return .done

/-- Does a tag have the type of a hidden input? -/
def isHidden (tag : Tag) : Bool :=
  (tag.attribute? "type").any fun value => value.toLower == "hidden"

/-- Inserts an element that has no content. -/
def insertVoidInline (tag : Tag) : Build Step := do
  reconstructFormatting
  discard <| insertVoidTag tag
  if !(tag.name == "input" && isHidden tag) then forbidFrameset
  return .done

/-- Opens a form, unless one is open. -/
def openForm (tag : Tag) : Build Step := do
  let builder ← get
  let inTemplate := builder.hasOpened "template"
  if builder.form.isSome && !inTemplate then
    return .done
  closeParagraphInScope
  let id ← insertTag tag
  if !inTemplate then
    modify fun builder => { builder with form := some id }
  return .done

/-- Closes the form. -/
def closeForm : Build Step := do
  let builder ← get
  if builder.hasOpened "template" then
    if builder.hasInScope .common "form" then
      closeImplied impliedEndTags ""
      popNamed "form"
  else
    set { builder with form := none }
    match builder.form with
    | some id =>
      if builder.inScope .common (· == id) then
        closeImplied impliedEndTags ""
        removeOpened id
    | none => pure ()
  return .done

/-- Opens a list of choices. -/
def openSelect (tag : Tag) : Build Step := do
  reconstructFormatting
  discard <| insertTag tag
  forbidFrameset
  modify fun builder =>
    { builder with
      mode :=
        if [.inTable, .inCaption, .inTableBody, .inRow, .inCell].contains builder.mode then
          .inSelectInTable
        else .inSelect }
  return .done

/-- Puts a frameset in the place of the body, if that is still allowed. -/
def replaceBody (tag : Tag) : Build Step := do
  let builder ← get
  match builder.body? with
  | some body =>
    if builder.framesetAllowed then
      set { builder with
        arena := builder.arena.detach body
        opened := builder.root?.toList }
      discard <| insertTag tag
      setMode .inFrameset
  | none => pure ()
  return .done

/-- Adds the attributes of a second tag of the body. -/
def mergeBody (tag : Tag) : Build Step := do
  let builder ← get
  match builder.body? with
  | some body =>
    if !builder.hasOpened "template" then
      set { builder with
        arena := builder.arena.addMissingAttributes body (plainAttributes tag)
        framesetAllowed := false }
  | none => pure ()
  return .done

/-! ## The mode -/

/-- A start tag in the body. -/
def bodyStartTag (tag : Tag) : Build Step := do
  match tag.name with
  | "html" => mergeRoot tag
  | "base" | "basefont" | "bgsound" | "link" | "meta" | "noframes" | "script" | "style"
  | "template" | "title" => inHead (.startTag tag)
  | "body" => mergeBody tag
  | "frameset" => replaceBody tag
  | "address" | "article" | "aside" | "blockquote" | "center" | "details" | "dialog" | "dir"
  | "div" | "dl" | "fieldset" | "figcaption" | "figure" | "footer" | "header" | "hgroup" | "main"
  | "menu" | "nav" | "ol" | "p" | "search" | "section" | "summary" | "ul" => insertBlock tag
  | "h1" | "h2" | "h3" | "h4" | "h5" | "h6" =>
    closeParagraphInScope
    if (← get).currentIsOneOf headingTags then pop
    discard <| insertTag tag
    return .done
  | "pre" | "listing" =>
    discard <| insertBlock tag
    modify fun builder => { builder with dropsLineFeed := true, framesetAllowed := false }
    return .done
  | "form" => openForm tag
  | "li" => openItem ["li"] tag
  | "dd" | "dt" => openItem ["dd", "dt"] tag
  | "plaintext" =>
    discard <| insertBlock tag
    return .read .plainText
  | "button" =>
    if (← get).hasInScope .common "button" then
      closeImplied impliedEndTags ""
      popNamed "button"
    reconstructFormatting
    discard <| insertTag tag
    forbidFrameset
    return .done
  | "a" => openAnchor tag
  | "b" | "big" | "code" | "em" | "font" | "i" | "s" | "small" | "strike" | "strong" | "tt"
  | "u" =>
    reconstructFormatting
    openFormatting tag
    return .done
  | "nobr" =>
    reconstructFormatting
    if (← get).hasInScope .common "nobr" then
      closeFormatting "nobr"
      reconstructFormatting
    openFormatting tag
    return .done
  | "applet" | "marquee" | "object" =>
    discard <| insertInline tag
    addMarker
    forbidFrameset
    return .done
  | "table" =>
    if !(← get).quirks then closeParagraphInScope
    discard <| insertTag tag
    forbidFrameset
    setMode .inTable
    return .done
  | "area" | "br" | "embed" | "img" | "keygen" | "wbr" | "input" => insertVoidInline tag
  | "param" | "source" | "track" =>
    discard <| insertVoidTag tag
    return .done
  | "hr" =>
    closeParagraphInScope
    discard <| insertVoidTag tag
    forbidFrameset
    return .done
  | "image" => insertVoidInline { tag with name := "img" }
  | "textarea" =>
    modify fun builder => { builder with dropsLineFeed := true, framesetAllowed := false }
    insertTextTag tag (.escapableText tag.name)
  | "xmp" =>
    closeParagraphInScope
    reconstructFormatting
    forbidFrameset
    insertTextTag tag (.rawText tag.name)
  | "iframe" =>
    forbidFrameset
    insertTextTag tag (.rawText tag.name)
  | "noembed" | "noscript" => insertTextTag tag (.rawText tag.name)
  | "select" => openSelect tag
  | "optgroup" | "option" =>
    if (← get).currentIs "option" then pop
    insertInline tag
  | "rb" | "rtc" =>
    if (← get).hasInScope .common "ruby" then closeImplied impliedEndTags ""
    discard <| insertTag tag
    return .done
  | "rp" | "rt" =>
    if (← get).hasInScope .common "ruby" then closeImplied impliedEndTags "rtc"
    discard <| insertTag tag
    return .done
  | "math" => insertForeign .mathMl tag.name tag
  | "svg" => insertForeign .svg tag.name tag
  | "caption" | "col" | "colgroup" | "frame" | "head" | "tbody" | "td" | "tfoot" | "th" | "thead"
  | "tr" => return .done
  | _ => insertInline tag

/-- An end tag in the body. -/
def bodyEndTag (tag : Tag) : Build Step := do
  match tag.name with
  | "template" => closeTemplate
  | "body" =>
    if (← get).hasInScope .common "body" then setMode .afterBody
    return .done
  | "html" =>
    if (← get).hasInScope .common "body" then againIn .afterBody else return .done
  | "address" | "article" | "aside" | "blockquote" | "button" | "center" | "details" | "dialog"
  | "dir" | "div" | "dl" | "fieldset" | "figcaption" | "figure" | "footer" | "header" | "hgroup"
  | "listing" | "main" | "menu" | "nav" | "ol" | "pre" | "search" | "section" | "summary"
  | "ul" =>
    if (← get).hasInScope .common tag.name then
      closeImplied impliedEndTags ""
      popNamed tag.name
    return .done
  | "form" => closeForm
  | "p" =>
    if !(← get).hasInScope .button "p" then discard <| insertImplied "p"
    closeParagraph
    return .done
  | "li" => closeInScope .listItem tag.name
  | "dd" | "dt" => closeInScope .common tag.name
  | "h1" | "h2" | "h3" | "h4" | "h5" | "h6" =>
    let builder ← get
    if builder.inScope .common fun id => builder.isOneOf id headingTags then
      closeImplied impliedEndTags ""
      popThrough fun builder id => builder.isOneOf id headingTags
    return .done
  | "a" | "b" | "big" | "code" | "em" | "font" | "i" | "nobr" | "s" | "small" | "strike"
  | "strong" | "tt" | "u" =>
    closeFormatting tag.name
    return .done
  | "applet" | "marquee" | "object" =>
    if (← get).hasInScope .common tag.name then
      closeImplied impliedEndTags ""
      popNamed tag.name
      clearFormatting
    return .done
  | "br" => insertVoidInline { tag with attributes := [] }
  | _ =>
    closeGeneric tag.name
    return .done

/-- In the body. -/
def inBody (token : Token) : Build Step := do
  match token with
  | .nul => return .done
  | .char c => insertBodyChar c
  | .comment content =>
    insertComment content
    return .done
  | .startTag tag => bodyStartTag tag
  | .endTag tag => bodyEndTag tag
  | .documentType _ => return .done
  | .endOfPage => endPage

end Html

end ForumPost
