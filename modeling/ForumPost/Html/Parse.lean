import ForumPost.Html.Builder.Handle
import ForumPost.Html.Token.Raw

/-!
# Reading a page

The characters of a page are read as tokens, and each token is put into the
tree before the next one is read: what the builder opens decides how the
characters behind it are read.

`parse` is total.  A page of any text gives a tree with a root element.
-/

namespace ForumPost

namespace Html

/-- Handles tokens one after the other.  Gives the way of reading that the last
of them asks for. -/
def handleAll : List Token → Build (Option Reading.Mode)
  | [] => return none
  | [token] => handle token
  | token :: rest => do
    discard <| handle token
    handleAll rest

/-- Reads the next tokens in a mode. -/
def readTokens (inForeign : Bool) (mode : Reading.Mode) (text : Text) : List Token × Text :=
  match mode with
  | .markup => readMarkup inForeign text
  | _ => readRaw mode text

/-- Reads a text to its end and puts it into the tree.  `fuel` bounds the number
of times that tokens are read; each time but after raw text takes at least one
character. -/
def buildFrom : Nat → Reading.Mode → Text → Build Unit
  | 0, _, _ => return
  | _ + 1, _, [] => discard <| handle .endOfPage
  | fuel + 1, mode, text => do
    let (tokens, rest) := readTokens (← get).isInForeign mode text
    let next ← handleAll tokens
    buildFrom fuel (next.getD .markup) rest

/-- The page that a text describes. -/
def parse (text : Text) : Page :=
  let characters := pageCharacters text
  let (_, builder) := (buildFrom (2 * characters.length + 2) .markup characters).run {}
  builder.arena.toPage

end Html

end ForumPost
