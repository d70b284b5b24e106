import Mathlib.Data.List.Forall2
import ForumPost.Html.Reference
import ForumPost.Json

/-!
# The grammar of JSON

`Json.Spells` says which texts stand for a JSON value.  It is the grammar of JSON in
full, with everything that `Json.written` makes no use of: white space around each
value, name, colon, comma and bracket, and every way to write a character of a
string.

* A character stands for itself, or it is named by a letter behind a backslash, or
  by the number of its code unit in four hexadecimal digits, or by those of its two
  surrogates.
* A number is kept as it is written (`Json.isNumber`).
* The grammar is an inductive relation, one constructor for each kind of value.  An
  array and an object are joined of the texts of their parts, so that facts about
  parts need an induction over lists only.
-/

namespace ForumPost

namespace Json

/-! ## Characters and strings -/

/-- Is a character white space between the parts of a value? -/
def isGap (c : Char) : Bool :=
  c == ' ' || c == '\t' || c == '\n' || c == '\r'

/-- Does a text consist of white space? -/
def IsGap (text : Text) : Prop :=
  ∀ c ∈ text, isGap c = true

/-- Can a character stand for itself in a string? -/
def isPlain (c : Char) : Bool :=
  c != '"' && c != '\\' && 0x20 ≤ c.toNat

/-- The letters that name a character behind a backslash. -/
def letters : List (Char × Char) :=
  [('"', '"'), ('\\', '\\'), ('/', '/'), ('b', '\x08'), ('f', '\x0c'), ('n', '\n'), ('r', '\r'),
    ('t', '\t')]

/-- The code unit that four hexadecimal digits stand for. -/
def codeUnit? (digits : Text) : Option Nat :=
  if digits.length = 4 then
    digits.foldlM (fun unit digit => (Html.hexValue? digit).map (16 * unit + ·)) 0
  else none

/-- The code point of two surrogates, if the first one is high and the second one
is low. -/
def codePoint? (high low : Nat) : Option Nat :=
  if 0xD800 ≤ high ∧ high < 0xDC00 ∧ 0xDC00 ≤ low ∧ low < 0xE000 then
    some (0x10000 + 0x400 * (high - 0xD800) + (low - 0xDC00))
  else none

/-- A code unit in a string. -/
def unitText (digits : Text) : Text :=
  '\\' :: 'u' :: digits

/-- Does a text stand for a character inside a string? -/
inductive SpellsChar : Text → Char → Prop where
  | plain {c : Char} (hplain : isPlain c = true) : SpellsChar [c] c
  | letter {letter c : Char} (hletter : letters.lookup letter = some c) :
      SpellsChar ['\\', letter] c
  | unit {digits : Text} {c : Char} (hunit : codeUnit? digits = some c.toNat) :
      SpellsChar (unitText digits) c
  | surrogates {first second : Text} {high low : Nat} {c : Char}
      (hfirst : codeUnit? first = some high) (hsecond : codeUnit? second = some low)
      (hpoint : codePoint? high low = some c.toNat) :
      SpellsChar (unitText first ++ unitText second) c

/-- Does a text stand for a string, quotation marks included? -/
def SpellsString (spelled text : Text) : Prop :=
  ∃ parts, List.Forall₂ SpellsChar parts text ∧ spelled = '"' :: parts.flatten ++ ['"']

/-! ## Names and numbers -/

/-- What is behind one or more digits at the front of a text. -/
def afterDigits? : Text → Option Text
  | [] => none
  | c :: rest => if c.isDigit then some (rest.dropWhile Char.isDigit) else none

/-- What is behind a whole number at the front of a text.  It may have a sign, and
no digit follows a leading zero. -/
def afterWhole? : Text → Option Text
  | '-' :: '0' :: rest => some rest
  | '-' :: rest => afterDigits? rest
  | '0' :: rest => some rest
  | text => afterDigits? text

/-- What is behind a point with digits, if there is a point. -/
def afterFraction? : Text → Option Text
  | '.' :: rest => afterDigits? rest
  | text => some text

/-- What is behind digits that may have a sign. -/
def afterSigned? : Text → Option Text
  | '+' :: digits => afterDigits? digits
  | '-' :: digits => afterDigits? digits
  | digits => afterDigits? digits

/-- What is behind an exponent, if there is one. -/
def afterExponent? : Text → Option Text
  | [] => some []
  | c :: rest => if c == 'e' || c == 'E' then afterSigned? rest else some (c :: rest)

/-- Does a text stand for a number? -/
def isNumber (text : Text) : Bool :=
  (do afterExponent? (← afterFraction? (← afterWhole? text))) == some []

/-- The value that a text without brackets and quotation marks stands for. -/
def ofWord? (word : Text) : Option Json :=
  if word = "null".toList then some null
  else if word = "true".toList then some (bool true)
  else if word = "false".toList then some (bool false)
  else if isNumber word then some (number word)
  else none

/-! ## Values -/

/-- A field of an object: how its name and its value are spelled, and what they
are. -/
structure Member where
  spelledName : Text
  spelledValue : Text
  name : Text
  value : Json

namespace Member

/-- How a field is spelled. -/
def spelled (member : Member) : Text :=
  member.spelledName ++ ':' :: member.spelledValue

/-- The field itself. -/
def field (member : Member) : Text × Json :=
  (member.name, member.value)

end Member

/-- Does a text stand for the name of a field, with white space around it? -/
def SpellsName (spelled name : Text) : Prop :=
  ∃ before quoted after, IsGap before ∧ SpellsString quoted name ∧ IsGap after ∧
    spelled = before ++ quoted ++ after

/-- Does a text stand for a value? -/
inductive Spells : Text → Json → Prop where
  | word {word : Text} {value : Json} (hword : ofWord? word = some value) : Spells word value
  | string {spelled text : Text} (htext : SpellsString spelled text) : Spells spelled (.string text)
  | emptyArray {gap : Text} (hgap : IsGap gap) : Spells ('[' :: gap ++ [']']) (.array [])
  | array {items : List (Text × Json)} (hitems : items ≠ [])
      (hspelled : ∀ item ∈ items, Spells item.1 item.2) :
      Spells ('[' :: Text.join [','] (items.map Prod.fst) ++ [']']) (.array (items.map Prod.snd))
  | emptyObject {gap : Text} (hgap : IsGap gap) : Spells ('\x7b' :: gap ++ ['\x7d']) (.object [])
  | object {members : List Member} (hmembers : members ≠ [])
      (hnames : ∀ member ∈ members, SpellsName member.spelledName member.name)
      (hvalues : ∀ member ∈ members, Spells member.spelledValue member.value) :
      Spells ('\x7b' :: Text.join [','] (members.map Member.spelled) ++ ['\x7d'])
        (.object (members.map Member.field))
  | spaced {before spelled after : Text} {value : Json} (hbefore : IsGap before)
      (hafter : IsGap after) (hspelled : Spells spelled value) :
      Spells (before ++ spelled ++ after) value

theorem isGap_nil : IsGap [] :=
  nofun

/-- White space may also stand in front of a value only. -/
theorem Spells.behind {before spelled : Text} {value : Json} (hbefore : IsGap before)
    (hspelled : Spells spelled value) : Spells (before ++ spelled) value := by
  have hspaced := hspelled.spaced hbefore isGap_nil
  rwa [List.append_nil] at hspaced

end Json

end ForumPost
