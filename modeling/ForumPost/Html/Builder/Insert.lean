import ForumPost.Html.Builder.State

/-!
# Inserting nodes

Where a new node goes, and how elements, characters and comments are put
there.

Inside a table, what does not belong there is put in front of the table while
`fostering` is set.
-/

namespace ForumPost

namespace Html

/-- A place for a new node. -/
inductive Place where
  /-- Behind the children of a node. -/
  | lastIn (parent : NodeId)
  /-- In front of a table; where the table has no parent, behind the children
  of the element that is open around it. -/
  | around (table outer : NodeId)

namespace Builder

/-- The node that new children of an open element go into: for a template, its
contents. -/
def receiver (builder : Builder) (id : NodeId) : NodeId :=
  if builder.isNamed id "template" then (builder.arena.templateContents? id).getD id else id

/-- The place for what a table does not take, looked for among the open
elements. -/
def fosterPlaceFrom (builder : Builder) : List NodeId → Place
  | [] => .lastIn (builder.root?.getD 0)
  | id :: rest =>
    if builder.isNamed id "template" then .lastIn (builder.receiver id)
    else if builder.isNamed id "table" then .around id (rest.head?.getD 0)
    else builder.fosterPlaceFrom rest

/-- The place for a node that belongs into `target`. -/
def placeIn (builder : Builder) (target : NodeId) : Place :=
  if builder.fostering && builder.isOneOf target ["table", "tbody", "tfoot", "thead", "tr"] then
    builder.fosterPlaceFrom builder.opened
  else .lastIn (builder.receiver target)

/-- The place for the next node. -/
def place (builder : Builder) : Place :=
  builder.placeIn (builder.opened.head?.getD 0)

end Builder

/-- Puts a node at a place. -/
def putAt (place : Place) (id : NodeId) : Build Unit :=
  modify fun builder =>
    { builder with
      arena :=
        match place with
        | .lastIn parent => builder.arena.append parent id
        | .around table outer =>
          if (builder.arena.slot table).parent.isSome then builder.arena.insertBefore table id
          else builder.arena.append outer id }

/-- Puts a character at the place for the next node. -/
def insertChar (c : Char) : Build Unit :=
  modify fun builder =>
    { builder with
      arena :=
        match builder.place with
        | .lastIn parent => builder.arena.appendChar parent c
        | .around table outer =>
          if (builder.arena.slot table).parent.isSome then builder.arena.insertCharBefore table c
          else builder.arena.appendChar outer c }

/-- Makes a node that has no place yet. -/
def createNode (content : Content) : Build NodeId :=
  modifyGet fun builder =>
    let (arena, id) := builder.arena.create content
    (id, { builder with arena })

/-- Makes an element that has no place yet.  A template gets a fragment for its
contents. -/
def createElement (space : Space) (tag : String) (attributes : List Attribute) : Build NodeId := do
  let id ← createNode (.element space tag attributes)
  if space == .html && tag == "template" then
    let contents ← createNode .fragment
    modify fun builder => { builder with arena := builder.arena.append id contents }
  return id

/-- The attributes of a tag of HTML. -/
def plainAttributes (tag : Tag) : List Attribute :=
  tag.attributes.map fun (name, value) => { name := name.toList, value := value.toList }

/-- Opens an element that has its place. -/
def push (id : NodeId) : Build Unit :=
  changeOpened (id :: ·)

/-- Inserts an element without opening it. -/
def insertClosed (space : Space) (tag : String) (attributes : List Attribute) : Build NodeId := do
  let place := (← get).place
  let id ← createElement space tag attributes
  putAt place id
  return id

/-- Inserts an element and opens it. -/
def insertOpened (space : Space) (tag : String) (attributes : List Attribute) : Build NodeId := do
  let id ← insertClosed space tag attributes
  push id
  return id

/-- Inserts the element of a tag and opens it. -/
def insertTag (tag : Tag) : Build NodeId :=
  insertOpened .html tag.name (plainAttributes tag)

/-- Inserts the element of a tag that has no content. -/
def insertVoidTag (tag : Tag) : Build NodeId :=
  insertClosed .html tag.name (plainAttributes tag)

/-- Inserts an element that the page leaves out, and opens it. -/
def insertImplied (tag : String) : Build NodeId :=
  insertOpened .html tag []

/-- Inserts a comment at the place for the next node. -/
def insertComment (content : String) : Build Unit := do
  let place := (← get).place
  let id ← createNode (.comment content)
  putAt place id

/-- Adds a comment behind the children of a node. -/
def appendComment (parent : NodeId) (content : String) : Build Unit := do
  let id ← createNode (.comment content)
  putAt (.lastIn parent) id

/-- Inserts the element of a tag whose content is read as text. -/
def insertTextTag (tag : Tag) (mode : Reading.Mode) : Build Step := do
  discard <| insertTag tag
  modify fun builder => { builder with returnMode := builder.mode, mode := .text }
  return .read mode

end Html

end ForumPost
