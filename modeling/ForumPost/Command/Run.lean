import ForumPost.Command.Arguments
import ForumPost.Files
import ForumPost.Post.OfPage
import ForumPost.Source
import ForumPost.Text.Escapes

/-!
# Running the program

A run reads its arguments, does what they ask for, and ends with an outcome:
how it ended, what it shows, and its notes.  `run` works on any file system
that `Files` describes.

A run that fails shows nothing, and has written nothing: the post is complete
before the first byte is put out.

The manual comes from outside, like the files.  A run only tells which page of it
is wanted.
-/

namespace ForumPost

/-- How a run ends. -/
inductive Ending where
  | finished
  /-- With a failure and its causes, outermost first. -/
  | failed (causes : List Text)
  /-- With arguments that make no sense. -/
  | misused
  /-- In the middle, at a table that cannot be drawn. -/
  | broken
  deriving DecidableEq, Inhabited

/-- The status that tells how a run ended. -/
def Ending.status : Ending → Nat
  | finished => 0
  | failed _ => 1
  | misused => 2
  | broken => 101

/-- What comes of a run. -/
structure Outcome where
  ending : Ending := .finished
  /-- The text that is shown. -/
  shown : Text := []
  /-- What is said on the side. -/
  notes : Text := []
  deriving DecidableEq, Inhabited

/-- A text as it is shown where no terminal is.  It keeps its escape sequences
only if the environment asks for it. -/
def shownText (environment : Environment) (text : Text) : Text :=
  let refused := (environment.value? "NO_COLOR").any (!·.isEmpty)
  let forced := (environment.value? "CLICOLOR_FORCE").any (· != "0".toList)
  if forced && !refused then text else Text.withoutEscapes text

/-! ## The manual -/

/-- A manual: for each topic a page in short and a page in detail.  A page may tell
what the environment sets. -/
abbrev Manual := Environment → Topic → Bool → Text

namespace Topic

/-- What a topic is about, in one sentence. -/
def purpose (detailed : Bool) : Topic → Text
  | program =>
    if detailed then "Convert blog articles into forum markup for cross-posting".toList
    else "Cross-post blog articles as Reddit markdown or RPGGeek markup".toList
  | posts => "Export an article to a forum dialect".toList
  | dialects => "List the available dialects".toList
  | help => "Print this message or the help of the given subcommand(s)".toList

/-- How the program is called. -/
def usage : Topic → Text
  | program => "crosspost [OPTIONS] <COMMAND>".toList
  | posts => "crosspost export [OPTIONS] <SOURCE>".toList
  | dialects => "crosspost dialects [OPTIONS]".toList
  | help => "crosspost help [COMMAND]...".toList

end Topic

/-- The manual of a run that is given no other one: the first lines of each page. -/
def Manual.brief : Manual := fun _ topic detailed =>
  topic.purpose detailed ++ "\n\nUsage: ".toList ++ topic.usage ++ "\n".toList

/-! ## Lists -/

/-- A dialect in the list of dialects. -/
def Dialect.entry (dialect : Dialect) : Json :=
  .object [
    ("id".toList, .string dialect.id),
    ("description".toList, .string dialect.description)]

/-- A line of the list: a name, filled up to the width of the longest one, and
a description. -/
def listLine (width : Nat) (name description : Text) : Text :=
  ' ' :: name ++ List.replicate (width - name.length) ' ' ++ "  ".toList ++ description ++
    " \n".toList

/-- The list of the dialects under its headings. -/
def dialectList : Text :=
  let lines : List (Text × Text) :=
    ("Dialect".toList, "Description".toList) ::
      Dialect.all.map fun dialect => (dialect.id, dialect.description)
  let width := (lines.map fun line => line.1.length).foldl max 0
  lines.flatMap fun (name, description) => listLine width name description

/-- What is shown for the list of the dialects. -/
def listing (json notes : Bool) : Text :=
  let count := (toString Dialect.all.length).toList ++ " dialect(s) registered\n".toList
  (if notes then count else []) ++
    (if json then (Json.array (Dialect.all.map Dialect.entry)).written else dialectList) ++ ['\n']

/-! ## Posts -/

/-- A text as the content of a file: its last line has an end. -/
def endedLine (content : Text) : Text :=
  if content.getLast? == some '\n' then content else content ++ ['\n']

/-- What is put out for a page that was found at a path. -/
def Request.content (request : Request) (dialect : Dialect) (path : Text) (found : Found) :
    Except Ending Text :=
  match found with
  | .nothing => .error (.failed ["Source not found: ".toList ++ path])
  | .folder =>
    .error (.failed ["Failed to read ".toList ++ path, Obstacle.folder.message])
  | .bytes =>
    .error (.failed
      ["Failed to read ".toList ++ path, "stream did not contain valid UTF-8".toList])
  | .text page =>
    match Post.ofText { dialect, site := request.site } page with
    | .ok post => .ok (post.output dialect request.json)
    | .error .brokenGrid => .error .broken
    | .error failure =>
      .error (.failed ["Failed to export ".toList ++ path, failure.message])

/-- The notes on a request. -/
def notesOn (source : Source) (dialect : Dialect) : Text :=
  "Source: ".toList ++ source.display ++ "\nDialect: ".toList ++ dialect.id ++ "\n".toList

section

variable {m : Type → Type} [Monad m]

/-- Puts out a post: to the file that the request names, or to be shown. -/
def Request.deliver (request : Request) (files : Files m) (environment : Environment)
    (content : Text) : m Outcome := do
  match request.output with
  | none => return { shown := shownText environment (content ++ ['\n']) }
  | some path =>
    match ← files.write path (endedLine content) with
    | none => return {}
    | some obstacle =>
      return { ending := .failed ["Failed to write ".toList ++ path, obstacle.message] }

/-- Makes a post from the page at a source. -/
def Request.carryOut (request : Request) (files : Files m) (environment : Environment)
    (dialect : Dialect) (source : Source) : m Outcome := do
  match source with
  | .url address => return { ending := .failed ["Failed to fetch ".toList ++ address] }
  | .path path =>
    match request.content dialect path (← files.read path) with
    | .ok content => request.deliver files environment content
    | .error ending => return { ending }

/-- Makes a post.  The dialect is looked up before the source is touched. -/
def Request.run (request : Request) (files : Files m) (environment : Environment)
    (notes : Bool) : m Outcome := do
  match Dialect.ofId request.dialect with
  | .error failure => return { ending := .failed [failure.message] }
  | .ok dialect =>
    let source := Source.ofText request.source
    let outcome ← request.carryOut files environment dialect source
    let text := if notes then shownText environment (notesOn source dialect) else []
    return { outcome with notes := text }

/-- Runs the program. -/
def run (files : Files m) (environment : Environment) (arguments : List Text)
    (manual : Manual := Manual.brief) : m Outcome := do
  match Command.ofArguments? environment arguments with
  | none => return { ending := .misused }
  | some (.showVersion, _) => return { shown := "crosspost 0.1.0\n".toList }
  | some (.showHelp topic detailed, _) => return { shown := manual environment topic detailed }
  | some (.listDialects json, notes) => return { shown := listing json notes }
  | some (.makePost request, notes) => request.run files environment notes

end

end ForumPost
