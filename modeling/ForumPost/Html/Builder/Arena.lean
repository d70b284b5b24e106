import ForumPost.Html.Page
import ForumPost.Html.Token

/-!
# The arena

While a page is read, its nodes move: they are put in front of a table that
they do not belong into, or taken over by another parent.  The arena holds the
nodes by number, each with its parent and its children, and a number stays
with its node wherever it moves.

`Arena.freeze` gives the finished tree.
-/

namespace ForumPost

namespace Html

/-- The number of a node in the arena. -/
abbrev NodeId := Nat

/-- What a node of the arena is. -/
inductive Content where
  | document
  | fragment
  | element (space : Space) (tag : String) (attributes : List Attribute)
  | text (content : String)
  | comment (content : String)
  deriving Inhabited

/-- A node of the arena with its place in the tree. -/
structure Slot where
  content : Content
  parent : Option NodeId := none
  children : Array NodeId := #[]
  deriving Inhabited

/-- The nodes by number.  The document has the number zero. -/
abbrev Arena := Array Slot

namespace Arena

/-- An arena that holds nothing but the document. -/
def start : Arena :=
  #[{ content := .document }]

/-- The node of a number. -/
def slot (arena : Arena) (id : NodeId) : Slot :=
  arena.getD id { content := .document }

/-- Adds a node that has no place yet. -/
def create (arena : Arena) (content : Content) : Arena × NodeId :=
  (arena.push { content }, arena.size)

/-- The name of an element. -/
def element? (arena : Arena) (id : NodeId) : Option (Space × String) :=
  match (arena.slot id).content with
  | .element space tag _ => some (space, tag)
  | _ => none

/-- Changes the children of a node. -/
def setChildren (arena : Arena) (id : NodeId) (change : Array NodeId → Array NodeId) : Arena :=
  arena.modify id fun slot => { slot with children := change slot.children }

/-- Notes the parent of a node. -/
def setParent (arena : Arena) (id : NodeId) (parent : Option NodeId) : Arena :=
  arena.modify id fun slot => { slot with parent }

/-- Takes a node from its parent. -/
def detach (arena : Arena) (id : NodeId) : Arena :=
  match (arena.slot id).parent with
  | none => arena
  | some parent =>
    (arena.setChildren parent fun children => children.filter (· != id)).setParent id none

/-- Puts a node behind the children of another. -/
def append (arena : Arena) (parent child : NodeId) : Arena :=
  ((arena.detach child).setChildren parent fun children => children.push child).setParent child
    (some parent)

/-- Puts a node in front of another one with the same parent. -/
def insertBefore (arena : Arena) (sibling child : NodeId) : Arena :=
  let arena := arena.detach child
  match (arena.slot sibling).parent with
  | none => arena
  | some parent =>
    (arena.setChildren parent fun children =>
      children.flatMap fun id => if id == sibling then #[child, id] else #[id]).setParent child
        (some parent)

/-- Continues a text node.  Any other node stays as it is. -/
def growText (arena : Arena) (id : NodeId) (c : Char) : Arena :=
  arena.modify id fun slot =>
    match slot.content with
    | .text content => { slot with content := .text (content.push c) }
    | _ => slot

/-- Is a node a text? -/
def isText (arena : Arena) (id : NodeId) : Bool :=
  match (arena.slot id).content with
  | .text _ => true
  | _ => false

/-- Puts a character behind the children of a node; it continues a text that
stands last. -/
def appendChar (arena : Arena) (parent : NodeId) (c : Char) : Arena :=
  match (arena.slot parent).children.back? with
  | some last =>
    if arena.isText last then arena.growText last c
    else
      let (arena, id) := arena.create (.text (String.singleton c))
      arena.append parent id
  | none =>
    let (arena, id) := arena.create (.text (String.singleton c))
    arena.append parent id

/-- The sibling in front of a node. -/
def previousSibling? (arena : Arena) (id : NodeId) : Option NodeId := do
  let parent ← (arena.slot id).parent
  let siblings := (arena.slot parent).children
  let index ← siblings.findIdx? (· == id)
  if index == 0 then none else siblings[index - 1]?

/-- Puts a character in front of a node; it continues a text that stands
there. -/
def insertCharBefore (arena : Arena) (sibling : NodeId) (c : Char) : Arena :=
  let fresh : Arena :=
    let (arena, id) := arena.create (.text (String.singleton c))
    arena.insertBefore sibling id
  match arena.previousSibling? sibling with
  | some before => if arena.isText before then arena.growText before c else fresh
  | none => fresh

/-- Gives the children of one node to another one. -/
def moveChildren (arena : Arena) (source target : NodeId) : Arena :=
  (arena.slot source).children.foldl (fun arena child => arena.append target child) arena

/-- Adds the attributes that an element does not have. -/
def addMissingAttributes (arena : Arena) (id : NodeId) (added : List Attribute) : Arena :=
  arena.modify id fun slot =>
    match slot.content with
    | .element space tag attributes =>
      let isNew (candidate : Attribute) : Bool :=
        !attributes.any fun other =>
          other.name == candidate.name && other.qualified == candidate.qualified
      { slot with content := .element space tag (attributes ++ added.filter isNew) }
    | _ => slot

/-- The fragment that holds the contents of a template. -/
def templateContents? (arena : Arena) (id : NodeId) : Option NodeId :=
  (arena.slot id).children.find? fun child =>
    match (arena.slot child).content with
    | .fragment => true
    | _ => false

/-- The finished tree below a node.  `fuel` bounds its depth. -/
def freeze (arena : Arena) : Nat → NodeId → Node
  | 0, _ => .fragment []
  | fuel + 1, id =>
    let slot := arena.slot id
    let children := slot.children.toList.map (arena.freeze fuel)
    match slot.content with
    | .document => .fragment children
    | .fragment => .fragment children
    | .element space tag attributes => .element space tag.toList attributes children
    | .text content => .text content.toList
    | .comment content => .comment content.toList

/-- The finished page: all that is below the document. -/
def toPage (arena : Arena) : Page :=
  (arena.slot 0).children.toList.map (arena.freeze arena.size)

end Arena

end Html

end ForumPost
