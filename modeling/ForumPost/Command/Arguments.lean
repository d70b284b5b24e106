import ForumPost.Command

/-!
# Arguments

A command is read from the arguments of the program, and what they leave open
from its environment.

An option is known by its long name, behind two dashes, and some by a letter
behind one dash.  The value of an option stands behind an equals sign, right
behind the letter, or in the next argument, where it may not begin with a
dash.  Behind two dashes alone nothing is an option.  No option may be given
twice.  Arguments that break a rule give no command.

Help may be asked for at any place where an option may stand.  The arguments are
read one by one: a rule that is broken further in front comes before the help, and
nothing behind it is read at all.  So help can be had for a command whose other
arguments are not complete.
-/

namespace ForumPost

/-- The variables of the environment with their values. -/
abbrev Environment := List (Text × Text)

/-- The value of a variable. -/
def Environment.value? (environment : Environment) (name : String) : Option Text :=
  environment.lookup name.toList

namespace Command

/-! ## Options and operands -/

/-- An option of a command. -/
structure Switch where
  name : String
  letter : Option Char := none
  takesValue : Bool := true
  /-- The values that it may have. -/
  accepts : Text → Bool := fun _ => true

/-- What may stand behind a command: its options, and the number of its operands. -/
structure Form where
  switches : List Switch
  operands : Nat

/-- The options and operands that were given. -/
structure Given where
  switches : List (String × Text) := []
  operands : List Text := []

/-- Why arguments are not read to their end. -/
inductive Stop where
  /-- Help is asked for, in short or in detail. -/
  | help (detailed : Bool)
  /-- A rule is broken. -/
  | misuse

namespace Given

/-- The value that was given for an option. -/
def value? (given : Given) (name : String) : Option Text :=
  given.switches.lookup name

/-- Was an option given? -/
def has (given : Given) (name : String) : Bool :=
  (given.value? name).isSome

/-- Adds an option, unless it was given before or may not have the value. -/
def withSwitch (given : Given) (switch : Switch) (value : Text) : Except Stop Given :=
  if given.has switch.name || !switch.accepts value then .error .misuse
  else .ok { given with switches := given.switches ++ [(switch.name, value)] }

/-- Adds operands, up to the number that a form has. -/
def withOperands (given : Given) (form : Form) (operands : List Text) : Except Stop Given :=
  let operands := given.operands ++ operands
  if operands.length ≤ form.operands then .ok { given with operands } else .error .misuse

end Given

/-- What an argument is. -/
inductive Argument where
  | operand
  /-- Two dashes, behind which all arguments are operands. -/
  | divider
  | help (detailed : Bool)
  | flag (switch : Switch)
  /-- An option whose value is the next argument. -/
  | pending (switch : Switch)
  | valued (switch : Switch) (value : Text)
  | unknown

/-- What an argument is that begins with an option.  `attached` is the value
that stands in the same argument. -/
def Switch.argument (switch : Switch) (attached : Option Text) : Argument :=
  match switch.takesValue, attached with
  | true, none => .pending switch
  | true, some value => .valued switch value
  | false, none => .flag switch
  | false, some _ => .unknown

/-- The value behind the letter of an option. -/
def attachedValue : Text → Option Text
  | [] => none
  | '=' :: value => some value
  | value => some value

/-- Does an argument ask for help, and then for help in detail?  What stands behind
the letter does not matter. -/
def helpAsked? (argument : Text) : Option Bool :=
  if argument == "--help".toList then some true
  else if "-h".toList.isPrefixOf argument then some false
  else none

/-- What an argument is that does not ask for help. -/
def Form.classifyOther (form : Form) (argument : Text) : Argument :=
  match argument with
  | ['-', '-'] => .divider
  | '-' :: '-' :: rest =>
    let isNamed (switch : Switch) : Bool := switch.name.toList == rest.takeWhile (· != '=')
    match form.switches.find? isNamed with
    | some switch => switch.argument ((rest.dropWhile (· != '=')).tail?)
    | none => .unknown
  | '-' :: letter :: rest =>
    match form.switches.find? fun switch => switch.letter == some letter with
    | some switch => switch.argument (attachedValue rest)
    | none => .unknown
  | _ => .operand

/-- What an argument is. -/
def Form.classify (form : Form) (argument : Text) : Argument :=
  match helpAsked? argument with
  | some detailed => .help detailed
  | none => form.classifyOther argument

/-- Reads the options and operands of a command onto those that are read
already. -/
def Form.read (form : Form) (given : Given) : List Text → Except Stop Given
  | [] => .ok given
  | argument :: rest =>
    match form.classify argument with
    | .operand => do form.read (← given.withOperands form [argument]) rest
    | .divider => given.withOperands form rest
    | .help detailed => .error (.help detailed)
    | .flag switch => do form.read (← given.withSwitch switch []) rest
    | .valued switch value => do form.read (← given.withSwitch switch value) rest
    | .pending switch =>
      match rest with
      | value :: rest =>
        match form.classify value with
        | .operand => do form.read (← given.withSwitch switch value) rest
        | _ => .error .misuse
      | [] => .error .misuse
    | .unknown => .error .misuse

/-! ## Commands -/

/-- Reads a number of seconds: digits, with a plus sign in front or not, that
fit into 64 bits. -/
def readSeconds? (text : Text) : Option Nat :=
  let digits := if text.head? == some '+' then text.drop 1 else text
  let value := digits.foldl (fun value c => 10 * value + (c.toNat - '0'.toNat)) 0
  if !digits.isEmpty && digits.all Char.isDigit && value < 0x10000000000000000 then some value else none

/-- What may stand behind the command for making a post. -/
def postForm : Form where
  operands := 1
  switches :=
    [{ name := "to", letter := some 't' }, { name := "site-name" }, { name := "license-url" },
      { name := "output", letter := some 'o', accepts := fun path => !path.isEmpty },
      { name := "json", takesValue := false },
      { name := "timeout", accepts := fun text => (readSeconds? text).isSome },
      { name := "verbose", takesValue := false }]

/-- What may stand behind the command for listing the dialects. -/
def listForm : Form where
  operands := 0
  switches := [{ name := "json", takesValue := false }, { name := "verbose", takesValue := false }]

/-- Are notes wanted?  The flag may stand in front of the command and behind it;
the environment is asked unless it stands at both places, and has to answer
with one of two words. -/
def wantsNotes? (environment : Environment) (before behind : Bool) : Option Bool :=
  if before && behind then some true
  else
    match environment.value? "CROSSPOST_VERBOSE" with
    | none => some (before || behind)
    | some answer =>
      if answer == "true".toList then some true
      else if answer == "false".toList then some (before || behind)
      else none

/-- The request that options and operands make.  What they leave open is taken
from the environment. -/
def requestOf? (environment : Environment) (given : Given) : Option Request := do
  let value? (name setting : String) : Option Text :=
    given.value? name <|> environment.value? setting
  let source ←
    match given.operands with
    | [] => environment.value? "CROSSPOST_SOURCE"
    | [source] => some source
    | _ => none
  let request : Request := { source }
  let timeout ←
    match value? "timeout" "CROSSPOST_TIMEOUT" with
    | some text => readSeconds? text
    | none => some request.timeout
  let output := value? "output" "CROSSPOST_OUTPUT"
  if output == some [] then none
  return { request with
    dialect := (value? "to" "CROSSPOST_TO").getD request.dialect
    site := {
      name := (value? "site-name" "CROSSPOST_SITE_NAME").getD request.site.name
      licenseUrl := (value? "license-url" "CROSSPOST_LICENSE_URL").getD request.site.licenseUrl }
    output
    json := given.has "json"
    timeout }

/-- The page of the manual that is asked for by name. -/
def topicOf? : List Text → Option Topic
  | [] => some .program
  | [name] =>
    if name == "export".toList then some .posts
    else if name == "dialects".toList then some .dialects
    else if name == "help".toList then some .help
    else none
  | _ => none

/-- Goes on with what was read, or shows help if reading has come to a question for
it. -/
def orHelp (topic : Topic) (noted : Bool) (read : Except Stop Given)
    (proceed : Given → Option (Command × Bool)) : Option (Command × Bool) :=
  match read with
  | .ok given => proceed given
  | .error (.help detailed) => some (.showHelp topic detailed, noted)
  | .error .misuse => none

/-- Reads a command and whether notes are wanted.  `noted` tells that the flag
for notes stood in front. -/
def ofArgumentsFrom (environment : Environment) (noted : Bool) :
    List Text → Option (Command × Bool)
  | [] => none
  | argument :: rest =>
    match helpAsked? argument with
    | some detailed => some (.showHelp .program detailed, noted)
    | none =>
      if argument == "--version".toList || "-V".toList.isPrefixOf argument then
        some (.showVersion, noted)
      else if argument == "--verbose".toList then
        if noted then none else ofArgumentsFrom environment true rest
      else if argument == "help".toList then do
        return (.showHelp (← topicOf? rest) true, noted)
      else if argument == "dialects".toList then
        orHelp .dialects noted (listForm.read {} rest) fun given => do
          let notes ← wantsNotes? environment noted (given.has "verbose")
          return (.listDialects (given.has "json"), notes)
      else if argument == "export".toList then
        orHelp .posts noted (postForm.read {} rest) fun given => do
          let notes ← wantsNotes? environment noted (given.has "verbose")
          return (.makePost (← requestOf? environment given), notes)
      else none

/-- Reads a command and whether notes are wanted; nothing if the arguments make
no sense. -/
def ofArguments? (environment : Environment) (arguments : List Text) :
    Option (Command × Bool) :=
  ofArgumentsFrom environment false arguments

end Command

end ForumPost
