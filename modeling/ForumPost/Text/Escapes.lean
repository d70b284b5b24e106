import ForumPost.Text.Basic

/-!
# Escape sequences of a terminal

A text that does not go to a terminal is shown without escape sequences, and
without control characters other than white space.

An escape sequence is swallowed up to its end.  White space that breaks a line
interrupts a sequence: it is shown, and so is what follows it up to the next
control character, behind which the sequence goes on.
-/

namespace ForumPost

namespace Text

/-- The part of an escape sequence that a character stands in. -/
inductive Escape where
  /-- No part of any sequence. -/
  | outside
  /-- Right behind the escape character. -/
  | opened
  /-- Behind the escape character and characters of a set. -/
  | designating
  /-- In a control sequence, up to a letter or the like. -/
  | control
  /-- At the start of a device control string. -/
  | device
  /-- In the parameters of a device control string. -/
  | deviceParameters
  /-- Behind the parameters of a device control string. -/
  | deviceSet
  /-- In a string, up to a string terminator. -/
  | string
  /-- In a command to the operating system, up to a bell. -/
  | command
  deriving DecidableEq

/-- White space that is a control character. -/
def isControlSpace (c : Char) : Bool :=
  c == '\t' || c == '\n' || c == '\x0c' || c == '\r'

/-- Is a character shown outside of escape sequences? -/
def isShown (c : Char) : Bool :=
  isControlSpace c || 0x20 ≤ c.toNat && c.toNat != 0x7F

/-- Is a character written as more than one byte? -/
def isWide (c : Char) : Bool :=
  0x80 ≤ c.toNat

/-- Is one of the bytes behind the first one the string terminator, whose
number is 0x9C? -/
def holdsTerminator (c : Char) : Bool :=
  let code := c.toNat
  isWide c &&
    (code % 64 == 0x1C || 0x800 ≤ code && code / 64 % 64 == 0x1C ||
      0x10000 ≤ code && code / 4096 % 64 == 0x1C)

namespace Escape

/-- The part of a sequence behind a character that follows the escape
character. -/
def opening (c : Char) : Escape :=
  if c == '[' then .control
  else if c == 'P' then .device
  else if c == 'X' || c == '^' || c == '_' then .string
  else if c == ']' then .command
  else .outside

/-- The part of a sequence behind a character that is swallowed. -/
def behind (escape : Escape) (c : Char) : Escape :=
  let isSilent := c.toNat < 0x20 || c.toNat == 0x7F
  let isSet := c.toNat < 0x30
  if c == '\x18' || c == '\x1a' then .outside
  else if c == '\x1b' then .opened
  else if isWide c then
    if escape = .string ∧ holdsTerminator c = true then .outside else escape
  else
    match escape with
    | .outside => .outside
    | .opened => if isSilent then .opened else if isSet then .designating else opening c
    | .designating => if isSilent || isSet then .designating else .outside
    | .control => if isSilent || c.toNat < 0x40 then .control else .outside
    | .device =>
      if isSilent then .device
      else if isSet then .deviceSet
      else if c.toNat < 0x40 then .deviceParameters
      else .string
    | .deviceParameters =>
      if isSilent then .deviceParameters
      else if isSet then .deviceSet
      else if c.toNat < 0x3C then .deviceParameters
      else .string
    | .deviceSet => if isSilent || isSet then .deviceSet else .string
    | .string => .string
    | .command => if c == '\x07' then .outside else .command

/-- Is a character shown in spite of the sequence that it stands in? -/
def shows (escape : Escape) (c : Char) : Bool :=
  match escape with
  | .outside => isShown c
  | .opened | .designating | .control => isControlSpace c
  | _ => false

end Escape

/-- A text from some part of a sequence on.  `showing` tells that the character
before was shown. -/
def withoutEscapesFrom (showing : Bool) (escape : Escape) : Text → Text
  | [] => []
  | c :: rest =>
    if showing && isShown c || escape.shows c then
      c :: withoutEscapesFrom true (if isWide c then .outside else escape) rest
    else
      withoutEscapesFrom false (escape.behind c) rest

/-- A text without the escape sequences of a terminal. -/
def withoutEscapes (text : Text) : Text :=
  withoutEscapesFrom false .outside text

/-- A text in which every character is shown stays as it is. -/
theorem withoutEscapes_of_all {text : Text} (hshown : text.all isShown = true) :
    withoutEscapes text = text := by
  have hfrom : ∀ showing, withoutEscapesFrom showing .outside text = text := by
    induction text with
    | nil => intro _; rfl
    | cons c rest ih =>
      intro showing
      simp only [List.all_cons, Bool.and_eq_true] at hshown
      simp [withoutEscapesFrom, Escape.shows, hshown.1, ih hshown.2]
  exact hfrom false

end Text

end ForumPost
