import ForumPost.Html.Builder.Insert

/-!
# Formatting elements

Formatting elements such as bold text may be closed in another order than they
were opened, and may reach across blocks.  The list of active formatting
elements says which of them are to be opened again, and the adoption agency
algorithm rearranges the tree where an end tag comes out of order.
-/

namespace ForumPost

namespace Html

namespace Builder

/-- The formatting elements up to the last marker, newest first. -/
def recentFormatting (builder : Builder) : List (NodeId × Tag) :=
  (builder.formatting.takeWhile (· != .marker)).filterMap fun entry =>
    match entry with
    | .marker => none
    | .element id tag => some (id, tag)

/-- The tag that a formatting element was made from. -/
def formattingTag? (builder : Builder) (id : NodeId) : Option Tag :=
  builder.formatting.findSome? fun entry =>
    match entry with
    | .element other tag => if other == id then some tag else none
    | .marker => none

/-- Is an entry of the list a marker, or an element that is open? -/
def isSettled (builder : Builder) (entry : Formatting) : Bool :=
  match entry with
  | .marker => true
  | .element id _ => builder.opened.contains id

end Builder

/-- Does an entry of the list hold an element? -/
def Formatting.holds (id : NodeId) (entry : Formatting) : Bool :=
  match entry with
  | .element other _ => other == id
  | .marker => false

/-- Changes the list of formatting elements. -/
def changeFormatting (change : List Formatting → List Formatting) : Build Unit :=
  modify fun builder => { builder with formatting := change builder.formatting }

/-- Takes an element off the list. -/
def removeFormatting (id : NodeId) : Build Unit :=
  changeFormatting (·.filter (!Formatting.holds id ·))

/-- Puts an entry in the place of an element. -/
def replaceFormatting (id : NodeId) (entry : Formatting) : Build Unit :=
  changeFormatting (·.map fun other => if other.holds id then entry else other)

/-- Opens again the elements of entries, oldest last in the list. -/
def reopen : List Formatting → Build (List Formatting)
  | [] => return []
  | entry :: older => do
    let older ← reopen older
    match entry with
    | .marker => return entry :: older
    | .element _ tag =>
      let id ← insertTag { tag with selfClosing := false }
      return .element id tag :: older

/-- Opens again the formatting elements that are active but not open any
more. -/
def reconstructFormatting : Build Unit := do
  let builder ← get
  let lost := builder.formatting.takeWhile (!builder.isSettled ·)
  if !lost.isEmpty then
    let settled := builder.formatting.drop lost.length
    let reopened ← reopen lost
    changeFormatting fun _ => reopened ++ settled

/-- Do two tags have the same name and the same attributes in some order? -/
def Tag.sameElement (first second : Tag) : Bool :=
  first.name == second.name && first.attributes.length == second.attributes.length &&
    first.attributes.all second.attributes.contains

/-- Opens a formatting element.  Of elements that are alike, only three stay
active. -/
def openFormatting (tag : Tag) : Build Unit := do
  let alike := (← get).recentFormatting.filter fun entry => tag.sameElement entry.2
  if 3 ≤ alike.length then
    match alike.getLast? with
    | some (id, _) => removeFormatting id
    | none => pure ()
  let id ← insertTag tag
  changeFormatting (.element id tag :: ·)

/-! ## Closing out of order -/

/-- The open elements from the innermost one up to one with the tag; nothing if
an element that nothing closes across stands in between. -/
def matchingOpened (builder : Builder) (tag : String) : List NodeId → Option (List NodeId)
  | [] => none
  | id :: rest =>
    if builder.isNamed id tag then some (id :: rest)
    else if builder.isSpecial id then none
    else matchingOpened builder tag rest

/-- Handles the end tag of an element without rules of its own. -/
def closeGeneric (tag : String) : Build Unit := do
  let builder ← get
  match matchingOpened builder tag builder.opened with
  | some (_ :: outer) => changeOpened fun _ => outer
  | _ => return

/-- Where the copy of a formatting element goes in the list. -/
inductive Bookmark where
  /-- In the place of the element itself. -/
  | inPlace
  /-- Right behind another element. -/
  | behind (id : NodeId)

/-- The elements between a block and the formatting element around it are
copied one after the other, from the inside out.  `last` is the node that goes
into the next copy, and `count` the number of elements passed so far.  Gives
the outermost copy, or the block itself, and the bookmark. -/
def copyBetween (block : NodeId) (last : NodeId) (bookmark : Bookmark) (count : Nat) :
    List NodeId → Build (NodeId × Bookmark)
  | [] => return (last, bookmark)
  | id :: rest => do
    let tag? := (← get).formattingTag? id
    match if 3 ≤ count then none else tag? with
    | none =>
      removeFormatting id
      removeOpened id
      copyBetween block last bookmark (count + 1) rest
    | some tag =>
      let copy ← createElement .html tag.name (plainAttributes tag)
      changeOpened (·.map fun other => if other == id then copy else other)
      replaceFormatting id (.element copy tag)
      let bookmark := if last == block then .behind copy else bookmark
      modify fun builder => { builder with arena := builder.arena.append copy last }
      copyBetween block copy bookmark (count + 1) rest

/-- Puts the copy of a formatting element into the list. -/
def placeCopy (old : NodeId) (entry : Formatting) (bookmark : Bookmark) : Build Unit := do
  match bookmark with
  | .inPlace => replaceFormatting old entry
  | .behind id =>
    changeFormatting (·.flatMap fun other =>
      if other.holds id then [entry, other] else [other])
    removeFormatting old

/-- Moves what follows the end of a formatting element out of it.  `inner` are
the open elements inside the element, innermost first, and `outer` those around
it.  Tells whether a block had to be moved. -/
def adoptOnce (id : NodeId) (tag : Tag) (inner outer : List NodeId) : Build Bool := do
  let builder ← get
  -- the outermost block inside the element
  match inner.reverse.find? builder.isSpecial with
  | none =>
    changeOpened fun _ => outer
    removeFormatting id
    return false
  | some block =>
    let ancestor := outer.head?.getD 0
    let between := (inner.dropWhile (· != block)).drop 1
    let (last, bookmark) ← copyBetween block block .inPlace 0 between
    modify fun builder => { builder with arena := builder.arena.detach last }
    putAt ((← get).placeIn ancestor) last
    let copy ← createElement .html tag.name (plainAttributes tag)
    modify fun builder =>
      { builder with arena := (builder.arena.moveChildren block copy).append block copy }
    placeCopy id (.element copy tag) bookmark
    removeOpened id
    changeOpened (·.flatMap fun other => if other == block then [copy, other] else [other])
    return true

/-- One round of the adoption agency for the end tag of a formatting element.
Tells whether another round may follow. -/
def adoptionRound (name : String) : Build Bool := do
  let builder ← get
  match builder.recentFormatting.find? fun entry => entry.2.name == name with
  | none =>
    closeGeneric name
    return false
  | some (id, tag) =>
    if !builder.opened.contains id then
      removeFormatting id
      return false
    else if !builder.inScope .common (· == id) then
      return false
    else
      adoptOnce id tag (builder.opened.takeWhile (· != id))
        ((builder.opened.dropWhile (· != id)).drop 1)

/-- Rounds of the adoption agency, a given number at most. -/
def adoptionRounds (name : String) : Nat → Build Unit
  | 0 => return
  | rounds + 1 => do
    if ← adoptionRound name then
      adoptionRounds name rounds

/-- Handles the end tag of a formatting element. -/
def closeFormatting (name : String) : Build Unit := do
  let builder ← get
  match builder.opened with
  | id :: _ =>
    if builder.isNamed id name && (builder.formattingTag? id).isNone then pop
    else adoptionRounds name 8
  | [] => return

end Html

end ForumPost
