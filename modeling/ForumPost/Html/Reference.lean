import ForumPost.Html.Reference.Names
import ForumPost.Text.Lines

/-!
# Character references

A character reference stands for one or two characters: by number, as in
`&#65;` and `&#x41;`, or by name, as in `&amp;`.  Of the names that a text goes
on with, the longest counts.  Some names may lack their semicolon; inside the
value of an attribute such a name is a reference only where no letter, digit
or equals sign follows.

An ampersand that no reference follows stands for itself.
-/

namespace ForumPost

namespace Html

/-! ## The table of names -/

/-- The value of a hexadecimal digit. -/
def hexValue? (c : Char) : Option Nat :=
  if c.isDigit then some (c.toNat - '0'.toNat)
  else if 'a' ≤ c && c ≤ 'f' then some (c.toNat - 'a'.toNat + 10)
  else if 'A' ≤ c && c ≤ 'F' then some (c.toNat - 'A'.toNat + 10)
  else none

/-- The value of a decimal digit. -/
def digitValue? (c : Char) : Option Nat :=
  if c.isDigit then some (c.toNat - '0'.toNat) else none

/-- Reads digits of a base up to the first other character, onto a value read
so far; also gives the number of digits. -/
def readDigits (value? : Char → Option Nat) (base : Nat) (value count : Nat) : Text → Nat × Nat
  | [] => (value, count)
  | c :: rest =>
    match value? c with
    | some digit => readDigits value? base (value * base + digit) (count + 1) rest
    | none => (value, count)

/-- Pairs up neighbours. -/
def paired : List Text → List (Text × Text)
  | name :: value :: rest => (name, value) :: paired rest
  | _ => []

/-- The characters that are listed by their code points. -/
def listedCharacters (codes : Text) : Text :=
  (Text.piecesBetween (· == '+') codes).map fun code =>
    Char.ofNat (readDigits hexValue? 16 0 0 code).1

/-- A name with the characters that it stands for, and whether it needs a
semicolon. -/
structure NamedCharacter where
  name : Text
  characters : Text
  needsSemicolon : Bool

/-- All names of characters. -/
def allNamedCharacters : List NamedCharacter :=
  let isGap : Char → Bool := fun c => c == ' ' || c == '\n'
  let free := Text.piecesBetween isGap namesWithoutSemicolon.toList
  (paired (Text.piecesBetween isGap namedCharacters.toList)).map fun (name, codes) =>
    { name, characters := listedCharacters codes, needsSemicolon := !free.contains name }

/-! ## Reading a reference -/

/-- A reference that has been read: the characters that it stands for, and the
number of characters that it takes behind the ampersand. -/
structure Reading where
  characters : Text
  length : Nat

/-- The characters that stand for the numbers from 128 to 159, which are taken
for the code points of an older character set. -/
def oldCharacters : List Nat :=
  [0x20AC, 0x81, 0x201A, 0x192, 0x201E, 0x2026, 0x2020, 0x2021, 0x2C6, 0x2030, 0x160, 0x2039,
    0x152, 0x8D, 0x17D, 0x8F, 0x90, 0x2018, 0x2019, 0x201C, 0x201D, 0x2022, 0x2013, 0x2014,
    0x2DC, 0x2122, 0x161, 0x203A, 0x153, 0x9D, 0x17E, 0x178]

/-- The character with a given number.  A number that has no character stands
for the replacement character. -/
def numberedCharacter (number : Nat) : Char :=
  if number == 0 || 0x10FFFF < number || 0xD800 ≤ number && number ≤ 0xDFFF then '\ufffd'
  else if 0x80 ≤ number && number ≤ 0x9F then
    Char.ofNat (oldCharacters.getD (number - 0x80) 0xFFFD)
  else Char.ofNat number

/-- The length of a reference with or without the semicolon that may follow
it. -/
def withSemicolon (text : Text) (length : Nat) : Nat :=
  if (text.drop length).head? == some ';' then length + 1 else length

/-- Reads a number behind an ampersand and a number sign. -/
def readNumber (text : Text) : Option Reading :=
  let (start, value?, base) : Nat × (Char → Option Nat) × Nat :=
    match text with
    | c :: _ => if c == 'x' || c == 'X' then (1, hexValue?, 16) else (0, digitValue?, 10)
    | [] => (0, digitValue?, 10)
  let (number, count) := readDigits value? base 0 0 (text.drop start)
  if count == 0 then none
  else
    some {
      characters := [numberedCharacter number]
      length := 1 + withSemicolon text (start + count) }

/-- The length that a name takes at the start of a text, if it is there. -/
def NamedCharacter.length? (entry : NamedCharacter) (text : Text) : Option Nat :=
  if entry.name.isPrefixOf text then
    let length := entry.name.length
    let total := withSemicolon text length
    if total == length && entry.needsSemicolon then none else some total
  else none

/-- The longer one of two readings. -/
def longerOf (best : Option Reading) (reading : Reading) : Option Reading :=
  match best with
  | some other => if other.length < reading.length then some reading else best
  | none => some reading

/-- Reads the longest name behind an ampersand. -/
def readName (text : Text) : Option Reading :=
  allNamedCharacters.foldl (fun best entry =>
    match entry.length? text with
    | some length => longerOf best { characters := entry.characters, length }
    | none => best) none

/-- Is a reference cut short by the character behind it?  So it is inside an
attribute, where a name without semicolon may be part of an address. -/
def isCutShort (text : Text) (reading : Reading) : Bool :=
  (text.drop (reading.length - 1)).head? != some ';' &&
    match (text.drop reading.length).head? with
    | some next => next == '=' || next.isAlphanum
    | none => false

/-- Reads a reference behind an ampersand. -/
def readReference (inAttribute : Bool) (text : Text) : Option Reading :=
  match text with
  | [] => none
  | '#' :: rest => readNumber rest
  | c :: _ =>
    if c.isAlphanum then
      match readName text with
      | some reading =>
        if inAttribute && isCutShort text reading then none else some reading
      | none => none
    else none

/-- `resolveFrom skip` passes over the rest of a reference that is already
resolved. -/
def resolveFrom (inAttribute : Bool) : Nat → Text → Text
  | _, [] => []
  | skip + 1, _ :: rest => resolveFrom inAttribute skip rest
  | 0, c :: rest =>
    if c == '&' then
      match readReference inAttribute rest with
      | some reading => reading.characters ++ resolveFrom inAttribute reading.length rest
      | none => c :: resolveFrom inAttribute 0 rest
    else c :: resolveFrom inAttribute 0 rest

/-- A text with its references resolved. -/
def resolve (inAttribute : Bool) (text : Text) : Text :=
  resolveFrom inAttribute 0 text

end Html

end ForumPost
