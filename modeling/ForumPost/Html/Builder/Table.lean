import ForumPost.Html.Builder.Body

/-!
# Tables

The modes inside a table.  A table takes captions, columns, row groups, rows
and cells, and supplies the groups and rows that the page leaves out.  Anything
else goes in front of the table, white space apart.
-/

namespace ForumPost

namespace Html

/-- Elements that start a part of a table. -/
def tablePartTags : List String :=
  ["caption", "col", "colgroup", "tbody", "td", "tfoot", "th", "thead", "tr"]

/-- Elements that rows stand in. -/
def rowGroupTags : List String :=
  ["tbody", "tfoot", "thead"]

/-- The cells. -/
def cellTags : List String :=
  ["td", "th"]

/-- The page outside of a table: end tags of these elements do not close it. -/
def pageTags : List String :=
  ["body", "html"]

/-- Closes what is open inside a table. -/
def backToTable : Build Unit :=
  popUntilCurrent ["table", "template", "html"]

/-- Closes what is open inside a row group. -/
def backToRowGroup : Build Unit :=
  popUntilCurrent ("template" :: "html" :: rowGroupTags)

/-- Closes what is open inside a row. -/
def backToRow : Build Unit :=
  popUntilCurrent ["tr", "template", "html"]

/-- Handles a token by the rules of the body, with nodes put in front of the
table. -/
def fosterInBody (token : Token) : Build Step := do
  modify fun builder => { builder with fostering := true }
  let step ← inBody token
  modify fun builder => { builder with fostering := false }
  return step

/-! ## Text -/

/-- Handles a character or NUL right inside a table: text is gathered before it
gets its place. -/
def tableCharacters (token : Token) : Build Step := do
  let builder ← get
  if builder.currentIsOneOf ("table" :: "tr" :: rowGroupTags) then
    modify fun builder => { builder with returnMode := builder.mode }
    againIn .inTableText
  else
    fosterInBody token

/-- Gives the gathered text of a table its place: white space stays in the
table, and any other text goes in front of it. -/
def placeTableText : Build Unit := do
  let text := (← get).tableText.reverse
  modify fun builder => { builder with tableText := [] }
  for c in text do
    if text.all isSpace then insertChar c
    else discard <| fosterInBody (.char c)

/-- In the text of a table. -/
def inTableText (token : Token) : Build Step := do
  match token with
  | .nul => return .done
  | .char c =>
    modify fun builder => { builder with tableText := c :: builder.tableText }
    return .done
  | _ =>
    placeTableText
    againIn (← get).returnMode

/-! ## The table -/

/-- Opens a form inside a table, which holds nothing there. -/
def openTableForm (tag : Tag) : Build Unit := do
  let builder ← get
  if !builder.hasOpened "template" && builder.form.isNone then
    let id ← insertVoidTag tag
    modify fun builder => { builder with form := some id }

/-- Closes the table.  Tells whether there was one. -/
def closeTable : Build Bool := do
  let isOpen := (← get).hasInScope .table "table"
  if isOpen then
    popNamed "table"
    resetMode
  return isOpen

/-- A start tag in a table. -/
def tableStartTag (tag : Tag) : Build Step := do
  match tag.name with
  | "caption" =>
    backToTable
    addMarker
    discard <| insertTag tag
    setMode .inCaption
    return .done
  | "colgroup" =>
    backToTable
    discard <| insertTag tag
    setMode .inColumnGroup
    return .done
  | "col" =>
    backToTable
    discard <| insertImplied "colgroup"
    againIn .inColumnGroup
  | "tbody" | "tfoot" | "thead" =>
    backToTable
    discard <| insertTag tag
    setMode .inTableBody
    return .done
  | "td" | "th" | "tr" =>
    backToTable
    discard <| insertImplied "tbody"
    againIn .inTableBody
  | "table" =>
    if ← closeTable then return .again else return .done
  | "style" | "script" | "template" => inHead (.startTag tag)
  | "input" =>
    if isHidden tag then
      discard <| insertVoidTag tag
      return .done
    else
      fosterInBody (.startTag tag)
  | "form" =>
    openTableForm tag
    return .done
  | _ => fosterInBody (.startTag tag)

/-- In a table. -/
def inTable (token : Token) : Build Step := do
  match token with
  | .nul | .char _ => tableCharacters token
  | .comment content =>
    insertComment content
    return .done
  | .startTag tag => tableStartTag tag
  | .endTag tag =>
    if tag.name == "table" then
      discard closeTable
      return .done
    else if tag.name == "template" then
      inHead token
    else if pageTags.contains tag.name || tablePartTags.contains tag.name then
      return .done
    else
      fosterInBody token
  | .documentType _ | .endOfPage => inBody token

/-! ## Captions and columns -/

/-- Closes the caption.  Tells whether there was one. -/
def closeCaption : Build Bool := do
  let isOpen := (← get).hasInScope .table "caption"
  if isOpen then
    closeImplied impliedEndTags ""
    popNamed "caption"
    clearFormatting
    setMode .inTable
  return isOpen

/-- In the caption of a table. -/
def inCaption (token : Token) : Build Step := do
  match token with
  | .startTag tag =>
    if tablePartTags.contains tag.name then
      if ← closeCaption then return .again else return .done
    else
      inBody token
  | .endTag tag =>
    if tag.name == "caption" then
      discard closeCaption
      return .done
    else if tag.name == "table" then
      if ← closeCaption then return .again else return .done
    else if pageTags.contains tag.name || tablePartTags.contains tag.name then
      return .done
    else
      inBody token
  | _ => inBody token

/-- Goes on behind a column group with the same token, if one is open. -/
def leaveColumnGroup : Build Step := do
  if (← get).currentIs "colgroup" then
    pop
    againIn .inTable
  else
    return .done

/-- In a column group. -/
def inColumnGroup (token : Token) : Build Step := do
  match token with
  | .char c =>
    if isSpace c then
      insertChar c
      return .done
    else
      leaveColumnGroup
  | .comment content =>
    insertComment content
    return .done
  | .startTag tag =>
    match tag.name with
    | "html" => inBody token
    | "col" =>
      discard <| insertVoidTag tag
      return .done
    | "template" => inHead token
    | _ => leaveColumnGroup
  | .endTag tag =>
    match tag.name with
    | "colgroup" =>
      if (← get).currentIs "colgroup" then
        pop
        setMode .inTable
      return .done
    | "col" => return .done
    | "template" => inHead token
    | _ => leaveColumnGroup
  | .endOfPage => inBody token
  | .nul | .documentType _ => leaveColumnGroup

/-! ## Row groups, rows and cells -/

/-- Goes on behind a row group with the same token, if a row group may be
open. -/
def leaveRowGroup : Build Step := do
  let builder ← get
  if builder.inScope .table fun id => builder.isOneOf id ["table", "tbody", "tfoot"] then
    backToRowGroup
    pop
    againIn .inTable
  else
    return .done

/-- In a row group. -/
def inTableBody (token : Token) : Build Step := do
  match token with
  | .startTag tag =>
    match tag.name with
    | "tr" =>
      backToRowGroup
      discard <| insertTag tag
      setMode .inRow
      return .done
    | "td" | "th" =>
      backToRowGroup
      discard <| insertImplied "tr"
      againIn .inRow
    | "caption" | "col" | "colgroup" | "tbody" | "tfoot" | "thead" => leaveRowGroup
    | _ => inTable token
  | .endTag tag =>
    match tag.name with
    | "tbody" | "tfoot" | "thead" =>
      if (← get).hasInScope .table tag.name then
        backToRowGroup
        pop
        setMode .inTable
      return .done
    | "table" => leaveRowGroup
    | "body" | "caption" | "col" | "colgroup" | "html" | "td" | "th" | "tr" => return .done
    | _ => inTable token
  | _ => inTable token

/-- Closes the row.  Tells whether there was one. -/
def closeRow : Build Bool := do
  let isOpen := (← get).hasInScope .table "tr"
  if isOpen then
    backToRow
    pop
    setMode .inTableBody
  return isOpen

/-- In a row. -/
def inRow (token : Token) : Build Step := do
  match token with
  | .startTag tag =>
    match tag.name with
    | "td" | "th" =>
      backToRow
      discard <| insertTag tag
      setMode .inCell
      addMarker
      return .done
    | "caption" | "col" | "colgroup" | "tbody" | "tfoot" | "thead" | "tr" =>
      if ← closeRow then return .again else return .done
    | _ => inTable token
  | .endTag tag =>
    match tag.name with
    | "tr" =>
      discard closeRow
      return .done
    | "table" =>
      if ← closeRow then return .again else return .done
    | "tbody" | "tfoot" | "thead" =>
      if !(← get).hasInScope .table tag.name then return .done
      if ← closeRow then return .again else return .done
    | "body" | "caption" | "col" | "colgroup" | "html" | "td" | "th" => return .done
    | _ => inTable token
  | _ => inTable token

/-- Closes the cell and goes on in its row with the same token. -/
def leaveCell : Build Step := do
  closeImplied impliedEndTags ""
  popThrough fun builder id => builder.isOneOf id cellTags
  clearFormatting
  againIn .inRow

/-- In a cell. -/
def inCell (token : Token) : Build Step := do
  match token with
  | .startTag tag =>
    if tablePartTags.contains tag.name then
      let builder ← get
      if builder.inScope .table fun id => builder.isOneOf id cellTags then leaveCell
      else return .done
    else
      inBody token
  | .endTag tag =>
    match tag.name with
    | "td" | "th" =>
      if (← get).hasInScope .table tag.name then
        closeImplied impliedEndTags ""
        popNamed tag.name
        clearFormatting
        setMode .inRow
      return .done
    | "body" | "caption" | "col" | "colgroup" | "html" => return .done
    | "table" | "tbody" | "tfoot" | "thead" | "tr" =>
      if (← get).hasInScope .table tag.name then leaveCell else return .done
    | _ => inBody token
  | _ => inBody token

end Html

end ForumPost
