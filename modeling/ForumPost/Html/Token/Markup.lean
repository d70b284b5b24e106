import ForumPost.Html.Reference
import ForumPost.Html.Token

/-!
# Reading markup

Reads one token, or a few characters, at the start of a text: tags with their
attributes, comments, the document type and single characters.  Each function
gives the rest of the text as well.

Errors never stop the reading.  What looks like markup but is not becomes a
comment or stays text, and a tag that the page ends in is dropped.
-/

namespace ForumPost

namespace Html

/-! ## Tags -/

/-- Does a character end the name of a tag or attribute? -/
def endsName (c : Char) : Bool :=
  isSpace c || c == '/' || c == '>'

/-- A name as it is kept. -/
def keptName (name : Text) : String :=
  cleaned (Text.lowerAscii name)

/-- The value of an attribute as it is kept: with its references resolved. -/
def keptValue (value : Text) : String :=
  cleaned (resolve true value)

/-- Adds an attribute, unless there is one of that name. -/
def addAttribute (attributes : List (String × String)) (name : String) (value : String) :
    List (String × String) :=
  if (attributes.lookup name).isSome then attributes else attributes ++ [(name, value)]

/-- Reads the value of an attribute behind its equals sign.  A value without
quotation marks ends at a space or at the end of the tag. -/
def readValue (text : Text) : Option (Text × Text) :=
  match text.dropWhile isSpace with
  | [] => none
  | c :: rest =>
    if c == '"' || c == '\'' then
      match rest.dropWhile (· != c) with
      | [] => none
      | _ :: after => some (rest.takeWhile (· != c), after)
    else
      let ends : Char → Bool := fun c => isSpace c || c == '>'
      some ((c :: rest).takeWhile (!ends ·), (c :: rest).dropWhile (!ends ·))

/-- Reads attributes up to the end of a tag.  `fuel` bounds their number. -/
def readAttributes : Nat → Tag → Text → Option (Tag × Text)
  | 0, _, _ => none
  | fuel + 1, tag, text =>
    match text.dropWhile isSpace with
    | [] => none
    | '>' :: rest => some (tag, rest)
    | '/' :: '>' :: rest => some ({ tag with selfClosing := true }, rest)
    | '/' :: rest => readAttributes fuel tag rest
    | c :: rest =>
      -- a name has at least one character, which may be an equals sign
      let endsHere : Char → Bool := fun c => endsName c || c == '='
      let name := keptName (c :: rest.takeWhile (!endsHere ·))
      match (rest.dropWhile (!endsHere ·)).dropWhile isSpace with
      | '=' :: after =>
        match readValue after with
        | none => none
        | some (value, after) =>
          readAttributes fuel
            { tag with attributes := addAttribute tag.attributes name (keptValue value) } after
      | after =>
        readAttributes fuel { tag with attributes := addAttribute tag.attributes name "" } after

/-- Reads a tag from its name on.  A tag that does not end gives nothing. -/
def readTag (text : Text) : Option (Tag × Text) :=
  readAttributes (text.length + 1) { name := keptName (text.takeWhile (!endsName ·)) }
    (text.dropWhile (!endsName ·))

/-! ## Comments -/

/-- Reads a comment up to its end mark.  At the end of the page, dashes that
could begin the end mark are dropped. -/
def readCommentBody : Text → Text × Text
  | [] => ([], [])
  | ['-'] => ([], [])
  | ['-', '-'] => ([], [])
  | ['-', '-', '!'] => ([], [])
  | '-' :: '-' :: '>' :: rest => ([], rest)
  | '-' :: '-' :: '!' :: '>' :: rest => ([], rest)
  | c :: rest =>
    let (content, after) := readCommentBody rest
    (c :: content, after)

/-- Reads a comment behind its opening mark.  It may be closed at once. -/
def readComment (text : Text) : Text × Text :=
  match text with
  | '>' :: rest => ([], rest)
  | '-' :: '>' :: rest => ([], rest)
  | _ => readCommentBody text

/-- Reads what is not markup, and so becomes a comment, up to the next closing
bracket. -/
def readBogusComment (text : Text) : Text × Text :=
  (text.takeWhile (· != '>'), (text.dropWhile (· != '>')).drop 1)

/-! ## The document type -/

/-- Reads an identifier in quotation marks.  The flag tells whether its closing
mark is there. -/
def readIdentifier (quote : Char) (text : Text) : Text × Bool × Text :=
  let ends : Char → Bool := fun c => c == quote || c == '>'
  match text.dropWhile (!ends ·) with
  | [] => (text, false, [])
  | c :: rest => (text.takeWhile (!ends ·), c == quote, if c == quote then rest else c :: rest)

/-- Goes on to the end of the declaration. -/
def skipDeclaration (declared : DocumentType) (text : Text) : DocumentType × Text :=
  match text.dropWhile (· != '>') with
  | [] => (declared, [])
  | _ :: rest => (declared, rest)

/-- The declaration goes wrong here. -/
def malformedAt (declared : DocumentType) (text : Text) : DocumentType × Text :=
  skipDeclaration { declared with malformed := true } text

/-- Reads what follows the system identifier. -/
def readDeclarationEnd (declared : DocumentType) (text : Text) : DocumentType × Text :=
  if (text.dropWhile isSpace).isEmpty then malformedAt declared [] else skipDeclaration declared text

/-- Reads a system identifier.  `needed` tells whether it must be there. -/
def readSystemId (needed : Bool) (declared : DocumentType) (text : Text) : DocumentType × Text :=
  match text.dropWhile isSpace with
  | [] => malformedAt declared []
  | c :: rest =>
    if c == '"' || c == '\'' then
      let (identifier, closed, after) := readIdentifier c rest
      let declared := { declared with systemId := some (cleaned identifier) }
      if closed then readDeclarationEnd declared after else malformedAt declared after
    else if c == '>' && !needed then (declared, rest)
    else malformedAt declared (c :: rest)

/-- Reads a public identifier and what follows it. -/
def readPublicId (declared : DocumentType) (text : Text) : DocumentType × Text :=
  match text.dropWhile isSpace with
  | [] => malformedAt declared []
  | c :: rest =>
    if c == '"' || c == '\'' then
      let (identifier, closed, after) := readIdentifier c rest
      let declared := { declared with publicId := some (cleaned identifier) }
      if closed then readSystemId false declared after else malformedAt declared after
    else malformedAt declared (c :: rest)

/-- Does a text begin with a word, in any case? -/
def beginsWithWord (word : String) (text : Text) : Bool :=
  Text.sameIgnoringCase word.toList (text.take word.length)

/-- Reads a document type behind its keyword. -/
def readDocumentType (text : Text) : DocumentType × Text :=
  match text.dropWhile isSpace with
  | [] => malformedAt {} []
  | c :: rest =>
    if c == '>' then malformedAt {} (c :: rest)
    else
      let ends : Char → Bool := fun c => isSpace c || c == '>'
      let declared : DocumentType := { name := some (keptName (c :: rest.takeWhile (!ends ·))) }
      match (rest.dropWhile (!ends ·)).dropWhile isSpace with
      | [] => malformedAt declared []
      | '>' :: after => (declared, after)
      | after =>
        if beginsWithWord "public" after then readPublicId declared (after.drop 6)
        else if beginsWithWord "system" after then readSystemId true declared (after.drop 6)
        else malformedAt declared after

/-! ## One token -/

/-- A character as a token. -/
def charToken (c : Char) : Token :=
  if c == '\x00' then .nul else .char c

/-- Reads a marked section up to its end mark. -/
def readSection : Text → Text × Text
  | [] => ([], [])
  | ']' :: ']' :: '>' :: rest => ([], rest)
  | c :: rest =>
    let (content, after) := readSection rest
    (c :: content, after)

/-- Reads a declaration behind `<!`.  A marked section is text, but only in
content that is foreign to HTML. -/
def readDeclaration (inForeign : Bool) (text : Text) : List Token × Text :=
  match text with
  | '-' :: '-' :: rest =>
    let (content, after) := readComment rest
    ([.comment (cleaned content)], after)
  | _ =>
    if beginsWithWord "doctype" text then
      let (declared, after) := readDocumentType (text.drop 7)
      ([.documentType declared], after)
    else if inForeign && "[CDATA[".toList.isPrefixOf text then
      let (content, after) := readSection (text.drop 7)
      (content.map charToken, after)
    else
      let (content, after) := readBogusComment text
      ([.comment (cleaned content)], after)

/-- Reads a tag as a token; the page ends in a tag that does not end. -/
def readTagToken (token : Tag → Token) (text : Text) : List Token × Text :=
  match readTag text with
  | some (tag, after) => ([token tag], after)
  | none => ([], [])

/-- Reads the next tokens of a text that is not empty. -/
def readMarkup (inForeign : Bool) (text : Text) : List Token × Text :=
  match text with
  | [] => ([], [])
  | '<' :: '!' :: rest => readDeclaration inForeign rest
  | '<' :: '/' :: [] => ([.char '<', .char '/'], [])
  | '<' :: '/' :: '>' :: rest => ([], rest)
  | '<' :: '/' :: c :: rest =>
    if c.isAlpha then readTagToken .endTag (c :: rest)
    else
      let (content, after) := readBogusComment (c :: rest)
      ([.comment (cleaned content)], after)
  | '<' :: c :: rest =>
    if c.isAlpha then readTagToken .startTag (c :: rest)
    else if c == '?' then
      let (content, after) := readBogusComment (c :: rest)
      ([.comment (cleaned content)], after)
    else ([.char '<'], c :: rest)
  | '&' :: rest =>
    match readReference false rest with
    | some reading => (reading.characters.map .char, rest.drop reading.length)
    | none => ([.char '&'], rest)
  | c :: rest => ([charToken c], rest)

end Html

end ForumPost
