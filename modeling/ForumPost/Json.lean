import ForumPost.Text.Basic

/-!
# JSON values

JSON values with their fields in order, and the text in which they are
written: one item on a line, two spaces of indentation for each level, and no
line break inside an empty list or object.

In a string only the quotation mark, the backslash and the control characters
below the space are escaped; every other character stands for itself.
-/

namespace ForumPost

/-- A JSON value.  A number is kept as it is written. -/
inductive Json where
  | null
  | bool (value : Bool)
  | number (literal : Text)
  | string (text : Text)
  | array (items : List Json)
  | object (fields : List (Text × Json))
  deriving Inhabited

namespace Json

/-- The hexadecimal digit of a number below sixteen, in small letters. -/
def hexDigit (n : Nat) : Char :=
  Char.ofNat (if n < 10 then '0'.toNat + n else 'a'.toNat + (n - 10))

/-- A character as it is written inside a string. -/
def escapeChar (c : Char) : Text :=
  if c == '"' then ['\\', '"']
  else if c == '\\' then ['\\', '\\']
  else if c == '\x08' then ['\\', 'b']
  else if c == '\x0c' then ['\\', 'f']
  else if c == '\n' then ['\\', 'n']
  else if c == '\r' then ['\\', 'r']
  else if c == '\t' then ['\\', 't']
  else if c.toNat < 0x20 then
    ['\\', 'u', '0', '0', hexDigit (c.toNat / 16), hexDigit (c.toNat % 16)]
  else [c]

/-- A text as a string in quotation marks. -/
def quoted (text : Text) : Text :=
  '"' :: text.flatMap escapeChar ++ ['"']

/-- The start of a line at a level of indentation. -/
def newline (level : Nat) : Text :=
  '\n' :: List.replicate (2 * level) ' '

mutual

/-- A value as it is written at a level of indentation. -/
def writtenAt (level : Nat) : Json → Text
  | null => "null".toList
  | bool value => if value then "true".toList else "false".toList
  | number literal => literal
  | string text => quoted text
  | array [] => "[]".toList
  | array (item :: items) =>
    '[' :: newline (level + 1) ++ writtenAt (level + 1) item ++ itemsAt level items ++
      newline level ++ [']']
  | object [] => "\x7b\x7d".toList
  | object ((name, value) :: fields) =>
    '\x7b' :: newline (level + 1) ++ quoted name ++ ": ".toList ++ writtenAt (level + 1) value ++
      fieldsAt level fields ++ newline level ++ ['\x7d']

/-- The items of an array behind its first one. -/
def itemsAt (level : Nat) : List Json → Text
  | [] => []
  | item :: items =>
    ',' :: newline (level + 1) ++ writtenAt (level + 1) item ++ itemsAt level items

/-- The fields of an object behind its first one. -/
def fieldsAt (level : Nat) : List (Text × Json) → Text
  | [] => []
  | (name, value) :: fields =>
    ',' :: newline (level + 1) ++ quoted name ++ ": ".toList ++ writtenAt (level + 1) value ++
      fieldsAt level fields

end

/-- A value as it is written. -/
def written (value : Json) : Text :=
  writtenAt 0 value

/-- The value of a field of an object. -/
def field? (name : String) : Json → Option Json
  | object fields => fields.lookup name.toList
  | _ => none

/-- The text of a string. -/
def text? : Json → Option Text
  | string text => some text
  | _ => none

end Json

end ForumPost
