import ForumPost.Article.Table
import ForumPost.Fragments
import ForumPost.Markup

/-!
# Transcripts

A transcript is what the nodes of an article become: fragments in the order of
the article, up to the first failure.

`Style.transcribe` goes through a node by its kind.  Lists, and divisions that
wrap a table, pass on the fragments of their children; paragraphs, list items,
quotations, side notes and open game content gather the fragments of their
children into one, or fail and leave nothing.  Every other node that is
handled gives at most one fragment.  A node that no rule covers is a failure,
so that nothing disappears from a post unnoticed.
-/

namespace ForumPost

/-- The fragments written so far, and the failure that put an end to them. -/
structure Transcript where
  fragments : Fragments
  failure : Option Failure := none
  deriving DecidableEq

namespace Transcript

/-- The transcript of what leaves no trace. -/
def empty : Transcript :=
  { fragments := [] }

/-- One fragment. -/
def single (fragment : Text) : Transcript :=
  { fragments := [fragment] }

/-- A failure before any fragment. -/
def failed (failure : Failure) : Transcript :=
  { fragments := [], failure := some failure }

/-- One fragment, or the failure to write it. -/
def ofResult : Except Failure Text → Transcript
  | .ok fragment => single fragment
  | .error failure => failed failure

/-- Goes on after a transcript, unless it failed. -/
def andThen (first second : Transcript) : Transcript :=
  match first.failure with
  | none => { second with fragments := first.fragments ++ second.fragments }
  | some _ => first

/-- Gathers all fragments into one.  A failure leaves no fragment. -/
def gather (write : Fragments → Text) (transcript : Transcript) : Transcript :=
  match transcript.failure with
  | none => single (write transcript.fragments)
  | some failure => failed failure

/-- The fragments of a transcript that did not fail. -/
def toExcept (transcript : Transcript) : Except Failure Fragments :=
  match transcript.failure with
  | none => .ok transcript.fragments
  | some failure => .error failure

@[simp] theorem andThen_empty (transcript : Transcript) :
    transcript.andThen empty = transcript := by
  cases transcript with
  | mk fragments failure => cases failure <;> simp [andThen, empty]

@[simp] theorem empty_andThen (transcript : Transcript) :
    empty.andThen transcript = transcript := by
  simp [andThen, empty]

theorem andThen_assoc (first second third : Transcript) :
    (first.andThen second).andThen third = first.andThen (second.andThen third) := by
  cases first with
  | mk fragments failure => cases failure <;> cases second with
    | mk fragments' failure' => cases failure' <;> simp [andThen]

end Transcript

namespace Style

/-- A table in a style: its caption, its grid and its footer, inside what
stands around a table. -/
def table (style : Style) (table : Table) : Except Failure Text :=
  let filled := table.padded
  match style.grid filled.headers filled.rows with
  | .error failure => .error failure
  | .ok grid =>
    let above := if filled.caption.isEmpty then [] else style.caption filled.caption ++ ['\n']
    let below :=
      if filled.footer.isEmpty then []
      else '\n' :: style.tableFooter (Text.join ['\n'] filled.footer)
    .ok (style.tableContainer (above ++ grid ++ below))

/-- Open game content: the notice and the opening line with a link to the
licence, the fragments of the content, and the closing line, each stripped and
with an empty line in between. -/
def openGameContent (style : Style) (fragments : Fragments) : Text :=
  let link := style.link style.site.licenseUrl "OPEN GAME CONTENT".toList
  let opening := style.licensePreamble ++ "\n\nBEGIN ".toList ++ link
  let parts := opening :: fragments ++ ["END OPEN GAME CONTENT".toList]
  Text.join "\n\n".toList (parts.map Text.strip)

/-- A list item: a bullet, the fragments of the item and the end of the
line. -/
def listItem (fragments : Fragments) : Text :=
  Fragments.joined " " (Fragments.growLast ['\n'] (['*'] :: fragments))

/-- A text without its edge characters, if anything is left of it. -/
def plainText (text : Text) : Transcript :=
  let stripped := Text.strip text
  if stripped.isEmpty then .empty else .single stripped

/-- An anchor.  Without an address it gives nothing, and an address on the
same page gives only the text of the anchor. -/
def anchor (style : Style) (address : Option Text) (text : Text) : Transcript :=
  match address with
  | none => .empty
  | some url =>
    if "#".toList.isPrefixOf url then .single (Text.strip text)
    else .single (style.link url (Text.strip text))

/-- An image, if there is one. -/
def imageOf (style : Style) (source : Option Text) : Transcript :=
  match source with
  | none => .empty
  | some source => .single (style.image source)

mutual

/-- The transcript of a node. -/
def transcribe (style : Style) : Node → Transcript
  | .text content => plainText content
  | .comment => .failed (.atElement "comment".toList)
  | .element kind tag attributes classes children =>
    let node := Node.element kind tag attributes classes children
    match kind with
    | .superscript | .subscript | .inlineFrame | .script | .noScript | .aside | .details
    | .rule | .lineBreak | .label | .input | .preformatted => .empty
    | .footer => .single (style.footer (Text.collapse node.words))
    | .code | .emphasis | .struck | .strong | .italic | .bold | .deleted =>
      .ofResult (style.inlineElement tag (Text.strip node.words))
    | .text | .citation | .time => plainText node.words
    | .heading level => .ofResult (style.heading level (Text.strip node.words))
    | .bulletList | .numberedList | .definitionList => style.transcribeAll children
    | .listItem => (style.transcribeAll children).gather listItem
    | .paragraph => (style.transcribeAll children).gather (Fragments.joined " ")
    | .sectioning =>
      if node.hasClass "open-game-content" then
        (style.transcribeAll children).gather style.openGameContent
      else .failed (.atWrapper tag)
    | .division =>
      if node.hasClass "table-wrapper" then style.transcribeAll children
      else .failed (.atWrapper tag)
    | .quotation => (style.transcribeAll children).gather style.quotation
    | .anchor => style.anchor (node.attribute? "href") node.words
    | .table => .ofResult (style.table (.ofNode node))
    | .span =>
      if node.hasClass "marginfigure" then style.imageOf node.firstImageSource?
      else if node.hasClass "sidenote" || node.hasClass "marginnote" then
        (style.transcribeAll children).gather style.sidenote
      else if node.hasClass "newthought" then .single (style.newThought node.words)
      else .empty
    | .figure => style.imageOf node.firstImageSource?
    | .image | .caption | .tableHead | .tableBody | .tableFoot | .tableRow | .headerCell
    | .dataCell | .other _ => .failed (.atElement tag)

/-- The transcript of nodes one after the other. -/
def transcribeAll (style : Style) : List Node → Transcript
  | [] => .empty
  | node :: rest => (style.transcribe node).andThen (style.transcribeAll rest)

end

/-- The nodes of two lists give what the lists give one after the other. -/
theorem transcribeAll_append (style : Style) (first second : List Node) :
    style.transcribeAll (first ++ second) =
      (style.transcribeAll first).andThen (style.transcribeAll second) := by
  induction first with
  | nil => simp [transcribeAll]
  | cons node rest ih => simp [transcribeAll, ih, Transcript.andThen_assoc]

end Style

end ForumPost
