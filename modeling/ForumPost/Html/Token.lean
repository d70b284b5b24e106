import ForumPost.Text.Basic

/-!
# Tokens

What the characters of a page are read as, before the tokens are put together
to a tree: tags, characters, comments and the document type.

NUL is a token of its own, since in most places it is dropped and in some it
becomes the replacement character.
-/

namespace ForumPost

namespace Html

/-- A start or end tag.  Names are in small letters as far as they are ASCII,
and of two attributes with one name only the first is kept. -/
structure Tag where
  name : String
  attributes : List (String × String) := []
  selfClosing : Bool := false
  deriving DecidableEq, Inhabited

/-- The document type that a page declares. -/
structure DocumentType where
  name : Option String := none
  publicId : Option String := none
  systemId : Option String := none
  /-- Is the declaration malformed? -/
  malformed : Bool := false
  deriving DecidableEq, Inhabited

/-- A token. -/
inductive Token where
  | documentType (declared : DocumentType)
  | startTag (tag : Tag)
  | endTag (tag : Tag)
  | comment (content : String)
  | char (c : Char)
  | nul
  | endOfPage
  deriving DecidableEq, Inhabited

/-- The value of an attribute of a tag. -/
def Tag.attribute? (tag : Tag) (name : String) : Option String :=
  tag.attributes.lookup name

/-- How the characters behind a tag are read. -/
inductive Reading.Mode where
  /-- As tags, characters and comments. -/
  | markup
  /-- As text with references, up to the end tag of the given name. -/
  | escapableText (name : String)
  /-- As text without references, up to the end tag of the given name. -/
  | rawText (name : String)
  /-- As a script, up to its end tag. -/
  | script
  /-- As text, up to the end of the page. -/
  | plainText
  deriving DecidableEq, Inhabited

/-- White space inside markup. -/
def isSpace (c : Char) : Bool :=
  c == '\t' || c == '\n' || c == '\x0c' || c == ' ' || c == '\r'

/-- The character as it stands in names, values and raw text, where NUL becomes
the replacement character. -/
def withoutNul (c : Char) : Char :=
  if c == '\x00' then '\ufffd' else c

/-- A text as a string without NUL. -/
def cleaned (text : Text) : String :=
  String.ofList (text.map withoutNul)

/-- Line ends in one form: a carriage return, with the line feed behind it if
there is one, becomes a line feed. -/
def unifiedLineEnds : Text → Text
  | [] => []
  | '\r' :: '\n' :: rest => '\n' :: unifiedLineEnds rest
  | c :: rest => (if c == '\r' then '\n' else c) :: unifiedLineEnds rest

/-- The characters of a page: without a byte order mark at the start, and with
line ends in one form. -/
def pageCharacters (page : Text) : Text :=
  match page with
  | '\ufeff' :: rest => unifiedLineEnds rest
  | _ => unifiedLineEnds page

end Html

end ForumPost
