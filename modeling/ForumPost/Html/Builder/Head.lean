import ForumPost.Html.Builder.Formatting

/-!
# The start of a page

The modes up to the body: the document type, the root element and the head.
The rules of the head also serve other modes, since scripts, styles, titles
and templates may stand in many places.
-/

namespace ForumPost

namespace Html

/-! ## Quirks mode -/

/-- Beginnings of public identifiers that put a page into quirks mode. -/
def quirkyPublicIds : List String :=
  ["-//advasoft ltd//dtd html 3.0 aswedit + extensions//",
    "-//as//dtd html 3.0 aswedit + extensions//",
    "-//ietf//dtd html 2.0 level 1//", "-//ietf//dtd html 2.0 level 2//",
    "-//ietf//dtd html 2.0 strict level 1//", "-//ietf//dtd html 2.0 strict level 2//",
    "-//ietf//dtd html 2.0 strict//", "-//ietf//dtd html 2.0//", "-//ietf//dtd html 2.1e//",
    "-//ietf//dtd html 3.0//", "-//ietf//dtd html 3.2 final//", "-//ietf//dtd html 3.2//",
    "-//ietf//dtd html 3//", "-//ietf//dtd html level 0//", "-//ietf//dtd html level 1//",
    "-//ietf//dtd html level 2//", "-//ietf//dtd html level 3//",
    "-//ietf//dtd html strict level 0//", "-//ietf//dtd html strict level 1//",
    "-//ietf//dtd html strict level 2//", "-//ietf//dtd html strict level 3//",
    "-//ietf//dtd html strict//", "-//ietf//dtd html//",
    "-//metrius//dtd metrius presentational//",
    "-//microsoft//dtd internet explorer 2.0 html strict//",
    "-//microsoft//dtd internet explorer 2.0 html//",
    "-//microsoft//dtd internet explorer 2.0 tables//",
    "-//microsoft//dtd internet explorer 3.0 html strict//",
    "-//microsoft//dtd internet explorer 3.0 html//",
    "-//microsoft//dtd internet explorer 3.0 tables//", "-//netscape comm. corp.//dtd html//",
    "-//netscape comm. corp.//dtd strict html//", "-//o'reilly and associates//dtd html 2.0//",
    "-//o'reilly and associates//dtd html extended 1.0//",
    "-//o'reilly and associates//dtd html extended relaxed 1.0//",
    "-//softquad software//dtd hotmetal pro 6.0::19990601::extensions to html 4.0//",
    "-//softquad//dtd hotmetal pro 4.0::19971010::extensions to html 4.0//",
    "-//spyglass//dtd html 2.0 extended//", "-//sq//dtd html 2.0 hotmetal + extensions//",
    "-//sun microsystems corp.//dtd hotjava html//",
    "-//sun microsystems corp.//dtd hotjava strict html//",
    "-//w3c//dtd html 3 1995-03-24//", "-//w3c//dtd html 3.2 draft//",
    "-//w3c//dtd html 3.2 final//", "-//w3c//dtd html 3.2//", "-//w3c//dtd html 3.2s draft//",
    "-//w3c//dtd html 4.0 frameset//", "-//w3c//dtd html 4.0 transitional//",
    "-//w3c//dtd html experimental 19960712//", "-//w3c//dtd html experimental 970421//",
    "-//w3c//dtd w3 html//", "-//w3o//dtd w3 html 3.0//", "-//webtechs//dtd mozilla html 2.0//",
    "-//webtechs//dtd mozilla html//"]

/-- Beginnings of public identifiers that put a page into quirks mode when
there is no system identifier. -/
def frameworkPublicIds : List String :=
  ["-//w3c//dtd html 4.01 frameset//", "-//w3c//dtd html 4.01 transitional//"]

/-- Whole public identifiers that put a page into quirks mode. -/
def exactQuirkyPublicIds : List String :=
  ["-//w3o//dtd w3 html strict 3.0//en//", "-/w3c/dtd html 4.0 transitional/en", "html"]

/-- The system identifier that puts a page into quirks mode. -/
def quirkySystemId : String :=
  "http://www.ibm.com/data/dtd/v11/ibmxhtml1-transitional.dtd"

/-- Does a document type put a page into quirks mode? -/
def DocumentType.isQuirky (declared : DocumentType) : Bool :=
  let publicId := (declared.publicId.map String.toLower).getD ""
  let systemId := (declared.systemId.map String.toLower).getD ""
  let beginsWithOneOf (beginnings : List String) : Bool :=
    beginnings.any fun beginning => beginning.toList.isPrefixOf publicId.toList
  declared.malformed || declared.name != some "html" ||
    exactQuirkyPublicIds.contains publicId || systemId == quirkySystemId ||
    beginsWithOneOf quirkyPublicIds ||
    declared.systemId.isNone && beginsWithOneOf frameworkPublicIds

/-- Takes note of a document type; it counts only at the start of a page. -/
def declareType (declared : DocumentType) : Build Unit :=
  modify fun builder =>
    if builder.mode == .initial then
      { builder with quirks := declared.isQuirky, mode := .beforeHtml }
    else builder

/-! ## Up to the head -/

/-- Opens the root element. -/
def openRoot (attributes : List Attribute) : Build Unit := do
  let id ← createElement .html "html" attributes
  putAt (.lastIn 0) id
  push id

/-- Adds the attributes of a second tag of the root element. -/
def mergeRoot (tag : Tag) : Build Step := do
  let builder ← get
  if !builder.hasOpened "template" then
    match builder.root? with
    | some root =>
      set { builder with
        arena := builder.arena.addMissingAttributes root (plainAttributes tag) }
    | none => pure ()
  return .done

/-- Opens the head. -/
def openHead (attributes : List Attribute) : Build Unit := do
  let id ← insertOpened .html "head" attributes
  modify fun builder => { builder with head := some id }

/-- The end tags that count before the head and the body are there. -/
def earlyEndTags : List String :=
  ["head", "body", "html", "br"]

/-- Goes on in another mode with the same token. -/
def againIn (mode : InsertionMode) : Build Step := do
  setMode mode
  return .again

/-- At the start of a page, in front of the document type. -/
def inInitial (token : Token) : Build Step := do
  match token with
  | .char c =>
    if isSpace c then return .done
  | .comment content =>
    appendComment 0 content
    return .done
  | _ => pure ()
  modify fun builder => { builder with quirks := true }
  againIn .beforeHtml

/-- In front of the root element. -/
def inBeforeHtml (token : Token) : Build Step := do
  match token with
  | .comment content =>
    appendComment 0 content
    return .done
  | .char c =>
    if isSpace c then return .done
  | .startTag tag =>
    if tag.name == "html" then
      openRoot (plainAttributes tag)
      setMode .beforeHead
      return .done
  | .endTag tag =>
    if !earlyEndTags.contains tag.name then return .done
  | _ => pure ()
  openRoot []
  againIn .beforeHead

/-- In front of the head. -/
def inBeforeHead (token : Token) : Build Step := do
  match token with
  | .comment content =>
    insertComment content
    return .done
  | .char c =>
    if isSpace c then return .done
  | .startTag tag =>
    if tag.name == "html" then
      return ← mergeRoot tag
    else if tag.name == "head" then
      openHead (plainAttributes tag)
      setMode .inHead
      return .done
  | .endTag tag =>
    if !earlyEndTags.contains tag.name then return .done
  | _ => pure ()
  openHead []
  againIn .inHead

/-! ## The head -/

/-- Opens a template. -/
def openTemplate (tag : Tag) : Build Step := do
  discard <| insertTag tag
  addMarker
  forbidFrameset
  modify fun builder =>
    { builder with mode := .inTemplate, templateModes := .inTemplate :: builder.templateModes }
  return .done

/-- Closes a template, if one is open. -/
def closeTemplate : Build Step := do
  if (← get).hasOpened "template" then
    closeImplied thoroughlyImpliedEndTags ""
    popNamed "template"
    clearFormatting
    modify fun builder => { builder with templateModes := builder.templateModes.drop 1 }
    resetMode
  return .done

/-- Handles the end of the page: templates that are still open are closed, one
at a time. -/
def endPage : Build Step := do
  let builder ← get
  if builder.templateModes.isEmpty || !builder.hasOpened "template" then
    return .done
  popNamed "template"
  clearFormatting
  modify fun builder => { builder with templateModes := builder.templateModes.drop 1 }
  resetMode
  return .again

/-- In the head. -/
def inHead (token : Token) : Build Step := do
  match token with
  | .char c =>
    if isSpace c then
      insertChar c
      return .done
  | .comment content =>
    insertComment content
    return .done
  | .startTag tag =>
    match tag.name with
    | "html" => return ← mergeRoot tag
    | "base" | "basefont" | "bgsound" | "link" | "meta" =>
      discard <| insertVoidTag tag
      return .done
    | "title" => return ← insertTextTag tag (.escapableText tag.name)
    | "noframes" | "style" | "noscript" => return ← insertTextTag tag (.rawText tag.name)
    | "script" => return ← insertTextTag tag .script
    | "template" => return ← openTemplate tag
    | "head" => return .done
    | _ => pure ()
  | .endTag tag =>
    match tag.name with
    | "head" =>
      pop
      setMode .afterHead
      return .done
    | "template" => return ← closeTemplate
    | "body" | "html" | "br" => pure ()
    | _ => return .done
  | _ => pure ()
  pop
  againIn .afterHead

/-- In an element of raw text. -/
def inText (token : Token) : Build Step := do
  match token with
  | .char c =>
    insertChar c
    return .done
  | .endOfPage =>
    pop
    againIn (← get).returnMode
  | .endTag _ =>
    pop
    setMode (← get).returnMode
    return .done
  | _ => return .done

/-- The tags that belong into the head, wherever they stand. -/
def headTags : List String :=
  ["base", "basefont", "bgsound", "link", "meta", "noframes", "script", "style", "template",
    "title"]

/-- The end tags that count between the head and the body. -/
def lateEndTags : List String :=
  ["body", "html", "br"]

/-- Between the head and the body. -/
def inAfterHead (token : Token) : Build Step := do
  match token with
  | .char c =>
    if isSpace c then
      insertChar c
      return .done
  | .comment content =>
    insertComment content
    return .done
  | .startTag tag =>
    if tag.name == "html" then
      return ← mergeRoot tag
    else if tag.name == "body" then
      discard <| insertTag tag
      forbidFrameset
      setMode .inBody
      return .done
    else if tag.name == "frameset" then
      discard <| insertTag tag
      setMode .inFrameset
      return .done
    else if headTags.contains tag.name then
      match (← get).head with
      | some head =>
        push head
        let step ← inHead token
        removeOpened head
        return step
      | none => return .done
    else if tag.name == "head" then
      return .done
  | .endTag tag =>
    if tag.name == "template" then
      return ← inHead token
    else if !lateEndTags.contains tag.name then
      return .done
  | _ => pure ()
  discard <| insertImplied "body"
  againIn .inBody

end Html

end ForumPost
