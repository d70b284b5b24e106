import ForumPost.Text.Basic

/-!
# The Markdown of Reddit

How each part of a post is written for Reddit.  There is one usable level of
headings, so that lower headings become emphasis; code has no markup, and
images are left out.
-/

namespace ForumPost

namespace Reddit

/-- The characters that Reddit reads as markup wherever they stand. -/
def isSigil (c : Char) : Bool :=
  c == '^' || c == '*' || c == '#' || c == '~'

/-- A text with a backslash in front of each sigil. -/
def escape (text : Text) : Text :=
  text.flatMap fun c => if isSigil c then ['\\', c] else [c]

/-- A text between two copies of a mark. -/
def between (mark : String) (text : Text) : Text :=
  mark.toList ++ text ++ mark.toList

/-- A link with text that is already escaped or needs no escape. -/
def plainLink (url text : Text) : Text :=
  "[".toList ++ text ++ "](".toList ++ url ++ ")".toList

/-- The line that tells where an article was posted first. -/
def banner (siteName url : Text) : Text :=
  between "**" ("Originally posted at ".toList ++ plainLink url siteName)

/-- A footer stands as it is. -/
def footer (text : Text) : Text :=
  text

/-- A heading, if its level has markup. -/
def heading? (level : Nat) (text : Text) : Option Text :=
  match level with
  | 1 | 2 => some ("# ".toList ++ escape text)
  | 3 => some (between "**" (escape text))
  | 4 => some (between "*" (escape text))
  | _ => none

/-- A link. -/
def link (url text : Text) : Text :=
  plainLink url (escape text)

/-- A quotation: each part on lines of its own, with an empty quoted line in
between. -/
def quotation (parts : List Text) : Text :=
  Text.join "\n>\n".toList (parts.map fun part => '>' :: part)

/-- A side note, raised above the line. -/
def sidenote (parts : List Text) : Text :=
  let body :=
    match parts with
    | [] => []
    | first :: rest => Text.join " ".toList (("SIDENOTE: ".toList ++ first) :: rest)
  "^(".toList ++ body ++ ")".toList

/-- The opening words of a new thought. -/
def newThought (text : Text) : Text :=
  between "**" (escape text)

/-- The marks around an inline element, by its tag. -/
def marks : List (String × String) :=
  [("strong", "**"), ("b", "**"), ("em", "*"), ("i", "*"), ("del", "~~"), ("s", "~~")]

/-- An inline element, if its tag has markup. -/
def inline? (tag text : Text) : Option Text :=
  (marks.lookup (String.ofList tag)).map fun mark => between mark (escape text)

/-- A cell with a backslash in front of each bar. -/
def escapeBars (cell : Text) : Text :=
  cell.flatMap fun c => if c == '|' then ['\\', '|'] else [c]

/-- A row of a table: each cell ends in a bar, and a bar stands in front. -/
def pipeRow (cells : List Text) : Text :=
  '|' :: cells.flatMap fun cell => escapeBars cell ++ ['|']

/-- A table: an empty line, the headers, the alignment of the columns, and the
rows. -/
def table (headers : List Text) (rows : List (List Text)) : Text :=
  let alignment := headers.map fun _ => ":-".toList
  '\n' :: Text.join ['\n'] (pipeRow headers :: pipeRow alignment :: rows.map pipeRow)

/-- The caption of a table. -/
def caption (text : Text) : Text :=
  between "**" (escape text)

/-- The footer of a table. -/
def tableFooter (text : Text) : Text :=
  between "*" (escape text)

/-- A table with its caption and footer needs nothing around it. -/
def tableContainer (content : Text) : Text :=
  content

theorem escape_cons (c : Char) (rest : Text) :
    escape (c :: rest) = (if isSigil c then ['\\', c] else [c]) ++ escape rest :=
  List.flatMap_cons

theorem escape_append (first second : Text) :
    escape (first ++ second) = escape first ++ escape second := by
  simp [escape]

end Reddit

end ForumPost
