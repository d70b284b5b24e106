import ForumPost.Html.Builder.Body

/-!
# Framesets

The modes of a page that has a frameset in the place of its body, and behind the
frameset.  Of the text there, only white space is kept.
-/

namespace ForumPost

namespace Html

/-- In a frameset. -/
def inFrameset (token : Token) : Build Step := do
  match token with
  | .char c =>
    if isSpace c then insertChar c
    return .done
  | .comment content =>
    insertComment content
    return .done
  | .startTag tag =>
    match tag.name with
    | "html" => inBody token
    | "frameset" =>
      discard <| insertTag tag
      return .done
    | "frame" =>
      discard <| insertVoidTag tag
      return .done
    | "noframes" => inHead token
    | _ => return .done
  | .endTag tag =>
    if tag.name == "frameset" && (← get).opened.length != 1 then
      pop
      if !(← get).currentIs "frameset" then setMode .afterFrameset
    return .done
  | _ => return .done

/-- Behind a frameset. -/
def inAfterFrameset (token : Token) : Build Step := do
  match token with
  | .char c =>
    if isSpace c then insertChar c
    return .done
  | .comment content =>
    insertComment content
    return .done
  | .startTag tag =>
    match tag.name with
    | "html" => inBody token
    | "noframes" => inHead token
    | _ => return .done
  | .endTag tag =>
    if tag.name == "html" then setMode .afterAfterFrameset
    return .done
  | _ => return .done

/-- Behind the end of a page with a frameset. -/
def inAfterAfterFrameset (token : Token) : Build Step := do
  match token with
  | .char c => if isSpace c then inBody token else return .done
  | .comment content =>
    appendComment 0 content
    return .done
  | .startTag tag =>
    match tag.name with
    | "html" => inBody token
    | "noframes" => inHead token
    | _ => return .done
  | _ => return .done

end Html

end ForumPost
