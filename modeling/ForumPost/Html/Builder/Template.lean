import ForumPost.Html.Builder.Body

/-!
# Templates

The mode inside a template.  A template may hold what belongs into a table or a
body; it takes the mode that fits its latest tag, and keeps it.
-/

namespace ForumPost

namespace Html

/-- Goes on in another mode with the same token, and stays in it for the rest
of the template. -/
def templateAgainIn (mode : InsertionMode) : Build Step := do
  modify fun builder =>
    { builder with templateModes := mode :: builder.templateModes.drop 1 }
  againIn mode

/-- In a template. -/
def inTemplate (token : Token) : Build Step := do
  match token with
  | .nul | .char _ | .comment _ => inBody token
  | .startTag tag =>
    if headTags.contains tag.name then inHead token
    else
      match tag.name with
      | "caption" | "colgroup" | "tbody" | "tfoot" | "thead" => templateAgainIn .inTable
      | "col" => templateAgainIn .inColumnGroup
      | "tr" => templateAgainIn .inTableBody
      | "td" | "th" => templateAgainIn .inRow
      | _ => templateAgainIn .inBody
  | .endTag tag => if tag.name == "template" then inHead token else return .done
  | .documentType _ => return .done
  | .endOfPage => endPage

end Html

end ForumPost
