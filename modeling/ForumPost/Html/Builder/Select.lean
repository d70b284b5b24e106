import ForumPost.Html.Builder.Body

/-!
# Lists of choices

The modes inside a list of choices, which holds options and groups of options
and drops nearly every other tag.  A list inside a table ends where the table
goes on.
-/

namespace ForumPost

namespace Html

/-- Closes the list of choices.  Tells whether there was one. -/
def closeSelect : Build Bool := do
  let isOpen := (← get).hasInScope .select "select"
  if isOpen then
    popNamed "select"
    resetMode
  return isOpen

/-- Closes the innermost element if it has the tag. -/
def popIfCurrent (tag : String) : Build Unit := do
  if (← get).currentIs tag then pop

/-- Closes a group of options, and with it an option that is open inside. -/
def closeOptionGroup : Build Unit := do
  let builder ← get
  match builder.opened with
  | option :: group :: _ =>
    if builder.isNamed option "option" && builder.isNamed group "optgroup" then pop
  | _ => pure ()
  popIfCurrent "optgroup"

/-- In a list of choices. -/
def inSelect (token : Token) : Build Step := do
  match token with
  | .nul => return .done
  | .char c =>
    insertChar c
    return .done
  | .comment content =>
    insertComment content
    return .done
  | .startTag tag =>
    match tag.name with
    | "html" => inBody token
    | "option" =>
      popIfCurrent "option"
      discard <| insertTag tag
      return .done
    | "optgroup" =>
      popIfCurrent "option"
      popIfCurrent "optgroup"
      discard <| insertTag tag
      return .done
    | "hr" =>
      popIfCurrent "option"
      popIfCurrent "optgroup"
      discard <| insertVoidTag tag
      return .done
    | "select" =>
      discard closeSelect
      return .done
    | "input" | "keygen" | "textarea" =>
      if ← closeSelect then return .again else return .done
    | "script" | "template" => inHead token
    | _ => return .done
  | .endTag tag =>
    match tag.name with
    | "optgroup" =>
      closeOptionGroup
      return .done
    | "option" =>
      popIfCurrent "option"
      return .done
    | "select" =>
      discard closeSelect
      return .done
    | "template" => inHead token
    | _ => return .done
  | .documentType _ => return .done
  | .endOfPage => inBody token

/-- Elements of a table that end a list of choices inside it. -/
def tableBreakTags : List String :=
  ["caption", "table", "tbody", "tfoot", "thead", "tr", "td", "th"]

/-- In a list of choices inside a table. -/
def inSelectInTable (token : Token) : Build Step := do
  match token with
  | .startTag tag =>
    if tableBreakTags.contains tag.name then
      popNamed "select"
      resetMode
      return .again
    else
      inSelect token
  | .endTag tag =>
    if tableBreakTags.contains tag.name then
      if !(← get).hasInScope .table tag.name then return .done
      popNamed "select"
      resetMode
      return .again
    else
      inSelect token
  | _ => inSelect token

end Html

end ForumPost
