import ForumPost.Html.Builder.Body

/-!
# Behind the body

The modes behind the end of the body and of the page.  Only comments and white
space may stand there; anything else goes on in the body.
-/

namespace ForumPost

namespace Html

/-- Behind the body.  Comments belong to the root element. -/
def inAfterBody (token : Token) : Build Step := do
  match token with
  | .char c => if isSpace c then inBody token else againIn .inBody
  | .comment content =>
    appendComment ((← get).root?.getD 0) content
    return .done
  | .startTag tag => if tag.name == "html" then inBody token else againIn .inBody
  | .endTag tag =>
    if tag.name == "html" then
      setMode .afterAfterBody
      return .done
    else
      againIn .inBody
  | .endOfPage => return .done
  | .nul | .documentType _ => againIn .inBody

/-- Behind the end of a page.  Comments belong to the document. -/
def inAfterAfterBody (token : Token) : Build Step := do
  match token with
  | .char c => if isSpace c then inBody token else againIn .inBody
  | .comment content =>
    appendComment 0 content
    return .done
  | .startTag tag => if tag.name == "html" then inBody token else againIn .inBody
  | .endOfPage => return .done
  | .nul | .endTag _ | .documentType _ => againIn .inBody

end Html

end ForumPost
