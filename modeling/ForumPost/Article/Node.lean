import ForumPost.Article.Kind

/-!
# Article nodes

An article is a tree of nodes: texts, comments and elements.  An element has a
kind, its tag, its attributes, its classes and its children.  The tag is kept
beside the kind because several tags may share a rule that treats them apart
later on.

The module also says what the text of a node is, and how nodes are found below
a node.
-/

namespace ForumPost

/-- A node of an article. -/
inductive Node where
  /-- A piece of text. -/
  | text (content : Text)
  /-- A comment.  Its words are never part of an article. -/
  | comment
  /-- An element. -/
  | element (kind : Kind) (tag : Text) (attributes : List (Text × Text)) (classes : List Text)
      (children : List Node)
  deriving Inhabited

namespace Node

/-- The kind of a node. -/
def kind : Node → Kind
  | text _ => .text
  | comment => .comment
  | element kind _ _ _ _ => kind

/-- The tag of a node; texts and comments have names in place of one. -/
def tag : Node → Text
  | text _ => "text".toList
  | comment => "comment".toList
  | element _ tag _ _ _ => tag

/-- The attributes of a node, by name. -/
def attributes : Node → List (Text × Text)
  | element _ _ attributes _ _ => attributes
  | _ => []

/-- The classes of a node. -/
def classes : Node → List Text
  | element _ _ _ classes _ => classes
  | _ => []

/-- The children of a node. -/
def children : Node → List Node
  | element _ _ _ _ children => children
  | _ => []

/-- The value of an attribute. -/
def attribute? (node : Node) (name : String) : Option Text :=
  node.attributes.lookup name.toList

/-- Does a node have a class? -/
def hasClass (node : Node) (name : String) : Bool :=
  node.classes.contains name.toList

/-! ## Building elements -/

/-- Puts a name into a list without repetitions in the order of code points. -/
def insertClass (name : Text) : List Text → List Text
  | [] => [name]
  | other :: rest =>
    if name == other then other :: rest
    else if name < other then name :: other :: rest
    else other :: insertClass name rest

/-- The names of a list, each once and in the order of code points. -/
def sortedClasses (names : List Text) : List Text :=
  names.foldr insertClass []

/-- Gives an attribute its value, in the place of an earlier value. -/
def setAttribute (name value : Text) : List (Text × Text) → List (Text × Text)
  | [] => [(name, value)]
  | (other, old) :: rest =>
    if name == other then (name, value) :: rest else (other, old) :: setAttribute name value rest

/-- Attributes with each name once; of several values the last one counts. -/
def distinctAttributes (attributes : List (Text × Text)) : List (Text × Text) :=
  attributes.foldl (fun kept (name, value) => setAttribute name value kept) []

/-- An element whose classes are put in order and whose attributes are made
distinct. -/
def ofParts (kind : Kind) (tag : Text) (attributes : List (Text × Text)) (classes : List Text)
    (children : List Node) : Node :=
  element kind tag (distinctAttributes attributes) (sortedClasses classes) children

/-! ## The text of a node -/

mutual

/-- What a node adds to the text of the element around it.  Elements that are
named like a text or a comment are taken for one, and add nothing. -/
def innerText : Node → Text
  | text content => content
  | comment => []
  | element kind _ _ _ children =>
    if kind = .text ∨ kind = .comment then [] else innerTextOf children

/-- What nodes add to the text of the element around them. -/
def innerTextOf : List Node → Text
  | [] => []
  | node :: rest => node.innerText ++ innerTextOf rest

end

/-- The text of a node: the texts below it in document order. -/
def words : Node → Text
  | text content => content
  | comment => []
  | element kind _ _ _ children => if kind = .text then [] else innerTextOf children

theorem innerTextOf_append (first second : List Node) :
    innerTextOf (first ++ second) = innerTextOf first ++ innerTextOf second := by
  induction first with
  | nil => simp [innerTextOf]
  | cons node rest ih => simp [innerTextOf, ih]

/-! ## Nodes below a node -/

mutual

/-- The first node of a kind below a node, in document order. -/
def findBelow (wanted : Kind) : Node → Option Node
  | text _ => none
  | comment => none
  | element _ _ _ _ children => findAmong wanted children

/-- The first node of a kind among nodes and all that is below them. -/
def findAmong (wanted : Kind) : List Node → Option Node
  | [] => none
  | node :: rest =>
    if node.kind = wanted then some node
    else
      match node.findBelow wanted with
      | some found => some found
      | none => findAmong wanted rest

end

mutual

/-- The nodes of a kind below a node, in document order.  Nothing is looked
for inside a node that is found. -/
def allBelow (wanted : Kind) : Node → List Node
  | text _ => []
  | comment => []
  | element _ _ _ _ children => allAmong wanted children

/-- The nodes of a kind among nodes and below those that are of another
kind. -/
def allAmong (wanted : Kind) : List Node → List Node
  | [] => []
  | node :: rest =>
    (if node.kind = wanted then [node] else node.allBelow wanted) ++ allAmong wanted rest

end

/-- The source of the first image below a node.  Only that image counts: if it
has no source, later ones are not looked at. -/
def firstImageSource? (node : Node) : Option Text :=
  (node.findBelow .image).bind fun image => image.attribute? "src"

end Node

end ForumPost
