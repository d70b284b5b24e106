import ForumPost.Html.Page
import ForumPost.Text.Blank

/-!
# Finding elements in a page

The elements that tell what a page is about: the headings in the headers of its
articles, its canonical link, and the element that holds the content.  The
search goes through a page in document order, and into the contents of
templates too.
-/

namespace ForumPost

namespace Html

/-- The value of an attribute that is not qualified, in a list of
attributes. -/
def unqualified? (attributes : List Attribute) (name : String) : Option Text :=
  (attributes.find? fun entry => entry.name == name.toList && !entry.qualified).map (·.value)

/-- The classes of an element with the given attributes. -/
def classesOf (attributes : List Attribute) : List Text :=
  Text.words ((unqualified? attributes "class").getD [])

namespace Node

/-- The tag of an element. -/
def tag? : Node → Option Text
  | element _ tag _ _ => some tag
  | _ => none

mutual

/-- The texts in a node, in document order. -/
def words : Node → Text
  | text content => content
  | comment _ => []
  | fragment children => wordsOf children
  | element _ _ _ children => wordsOf children

/-- The texts in nodes, in document order. -/
def wordsOf : List Node → Text
  | [] => []
  | node :: rest => node.words ++ wordsOf rest

end

mutual

/-- The elements that satisfy `wanted` in a node, itself included, in document
order. -/
def elements (wanted : Node → Bool) : Node → List Node
  | text _ => []
  | comment _ => []
  | fragment children => elementsOf wanted children
  | element space tag attributes children =>
    let below := elementsOf wanted children
    if wanted (element space tag attributes children) then
      element space tag attributes children :: below
    else below

/-- The elements that satisfy `wanted` in nodes, in document order. -/
def elementsOf (wanted : Node → Bool) : List Node → List Node
  | [] => []
  | node :: rest => node.elements wanted ++ elementsOf wanted rest

end

/-- Is a node a link to the canonical address of the page? -/
def isCanonicalLink : Node → Bool
  | element space tag attributes _ =>
    tag == "link".toList &&
      (unqualified? attributes "rel").any fun value =>
        if space == .html then Text.sameIgnoringCase value "canonical".toList
        else value == "canonical".toList
  | _ => false

/-- Does a node hold the content of a page? -/
def isContent : Node → Bool
  | element _ _ attributes _ => (classesOf attributes).contains "content".toList
  | _ => false

end Node

/-! ## The headings of articles -/

/-- Where in an article a node stands. -/
inductive Standing where
  | outside
  | inArticle
  | inHeader
  deriving DecidableEq

/-- Where the children of an element stand. -/
def Standing.below (standing : Standing) (tag : Text) : Standing :=
  match standing with
  | .outside => if tag == "article".toList then .inArticle else .outside
  | .inArticle => if tag == "header".toList then .inHeader else .inArticle
  | .inHeader => .inHeader

mutual

/-- The main headings in the headers of articles, in document order.  A template
is taken out of what stands around it. -/
def Node.articleHeadings (standing : Standing) : Node → List Node
  | .text _ => []
  | .comment _ => []
  | .fragment children => articleHeadingsOf .outside children
  | .element space tag attributes children =>
    let below := articleHeadingsOf (standing.below tag) children
    if standing = .inHeader ∧ tag = "h1".toList then
      .element space tag attributes children :: below
    else below

/-- The main headings in the headers of articles among nodes and below them. -/
def articleHeadingsOf (standing : Standing) : List Node → List Node
  | [] => []
  | node :: rest => node.articleHeadings standing ++ articleHeadingsOf standing rest

end

/-! ## What a page says about itself -/

namespace Page

/-- The root element of a page. -/
def root? (page : Page) : Option Node :=
  page.find? fun node => node.tag?.isSome

/-- The title of the article: the texts of all its main headings. -/
def title (page : Page) : Text :=
  Text.strip ((articleHeadingsOf .outside page).flatMap Node.words)

/-- The canonical address of the page, which is the one of the first canonical
link.  If that one has no address, no later one counts. -/
def canonicalUrl? (page : Page) : Option Text :=
  match (Node.elementsOf Node.isCanonicalLink page).head? with
  | some (.element _ _ attributes _) => unqualified? attributes "href"
  | _ => none

/-- The first element that holds the content of the page. -/
def content? (page : Page) : Option Node :=
  (Node.elementsOf Node.isContent page).head?

end Page

end Html

end ForumPost
