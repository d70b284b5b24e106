import ForumPost.Html.Token.Markup

/-!
# Reading raw text

Some elements hold text in which no tag is read but their own end tag: titles
and text areas, styles and the like, and scripts.

A script may hold a comment, and in the comment a script of its own, whose end
tag does not count.
-/

namespace ForumPost

namespace Html

/-- Does a text begin with the end tag of an element? -/
def beginsWithEndTag (name : String) (text : Text) : Bool :=
  match text with
  | '<' :: '/' :: rest =>
    beginsWithWord name rest && (rest.drop name.length).head?.any endsName
  | _ => false

/-- Cuts a text in front of the end tag of an element. -/
def readRawText (name : String) : Text → Text × Text
  | [] => ([], [])
  | c :: rest =>
    if beginsWithEndTag name (c :: rest) then ([], c :: rest)
    else
      let (content, after) := readRawText name rest
      (c :: content, after)

/-- Where in a script a character stands, with the number of dashes right in
front of it. -/
inductive ScriptSpot where
  /-- Outside a comment. -/
  | code
  /-- In a comment. -/
  | commented (dashes : Nat)
  /-- In a script inside a comment. -/
  | nested (dashes : Nat)
  deriving DecidableEq

/-- Does a text begin with the word that opens or closes a script inside a
comment? -/
def beginsWithScript (text : Text) : Bool :=
  beginsWithWord "script" text && (text.drop 6).head?.any endsName

/-- The spot behind a character, given the text behind it. -/
def ScriptSpot.behind (spot : ScriptSpot) (c : Char) (rest : Text) : ScriptSpot :=
  match spot with
  | .code => .code
  | .commented dashes =>
    if c == '-' then .commented (dashes + 1)
    else if c == '>' && 2 ≤ dashes then .code
    else if c == '<' && beginsWithScript rest then .nested 0
    else .commented 0
  | .nested dashes =>
    if c == '-' then .nested (dashes + 1)
    else if c == '>' && 2 ≤ dashes then .code
    else if c == '<' && rest.head? == some '/' && beginsWithScript (rest.drop 1) then .commented 0
    else .nested 0

/-- Cuts the text of a script in front of its end tag. -/
def readScript : ScriptSpot → Text → Text × Text
  | _, [] => ([], [])
  | .code, '<' :: '!' :: '-' :: '-' :: rest =>
    let (content, after) := readScript (.commented 2) rest
    ('<' :: '!' :: '-' :: '-' :: content, after)
  | spot, c :: rest =>
    let isNested := match spot with
      | .nested _ => true
      | _ => false
    if !isNested && beginsWithEndTag "script" (c :: rest) then ([], c :: rest)
    else
      let (content, after) := readScript (spot.behind c rest) rest
      (c :: content, after)

/-- Reads raw text in a mode: the tokens of the text, and the rest of the page
from the end tag on. -/
def readRaw (mode : Reading.Mode) (text : Text) : List Token × Text :=
  let tokens (content : Text) : List Token := content.map fun c => .char (withoutNul c)
  match mode with
  | .markup => ([], text)
  | .escapableText name =>
    let (content, after) := readRawText name text
    (tokens (resolve false content), after)
  | .rawText name =>
    let (content, after) := readRawText name text
    (tokens content, after)
  | .script =>
    let (content, after) := readScript .code text
    (tokens content, after)
  | .plainText => (tokens text, [])

end Html

end ForumPost
