import ForumPost.Text.Blank
import ForumPost.Text.Columns.Table

/-!
# Columns

How many columns a text takes in a fixed-width font.  Most characters take
one; combining marks take none; East Asian wide characters and emoji take two.

Some sequences of characters are shown as one sign, and take fewer columns
than their characters do alone:

* an emoji with its variation selector, skin tone, flag letters or tags, and
  emoji that zero width joiners tie together, take two columns in total;
* an emoji with the text variation selector takes one;
* a few ligatures of single scripts are listed in `shapes`;
* an Arabic lam joins an alef behind it.

A control character takes a column inside a text, since it is shown somehow,
but none of its own (`ownColumns`).
-/

namespace ForumPost

namespace Text

/-- A control character of ASCII or Latin-1. -/
def isControl (c : Char) : Bool :=
  c.toNat < 0x20 || 0x7F ≤ c.toNat && c.toNat < 0xA0

/-- The columns that a character that is not a control character takes. -/
def shownColumns (c : Char) : Nat :=
  let code := c.toNat
  if code < 0xAD then 1
  else if code == 0x115F || code == 0x17A4 then 2
  else if code == 0x17D8 then 3
  else if inRanges narrowRanges code then 0
  else if inRanges wideRanges code then 2
  else 1

/-- The columns of a character by itself: none for a control character. -/
def ownColumns (c : Char) : Nat :=
  if isControl c then 0 else shownColumns c

/-! ## Sequences -/

/-- A class of characters, by its ranges of code points. -/
abbrev CharClass := List (Nat × Nat)

/-- The class of one character. -/
def only (code : Nat) : CharClass :=
  [(code, code)]

/-- Does a text begin with one character of each class, in order? -/
def beginsWith : List CharClass → Text → Bool
  | [], _ => true
  | _ :: _, [] => false
  | charClass :: classes, c :: rest =>
    inRanges charClass c.toNat && beginsWith classes rest

/-- The zero width joiner. -/
def joiner : CharClass := only 0x200D

/-- The letters that denote a flag, two at a time. -/
def flagLetters : CharClass := [(0x1F1E6, 0x1F1FF)]

/-- The skin tones. -/
def skinTones : CharClass := [(0x1F3FB, 0x1F3FF)]

/-- The consonants of the Tifinagh script. -/
def tifinaghConsonants : CharClass := [(0x2D31, 0x2D65), (0x2D6F, 0x2D6F)]

/-- The Khmer letters that have a form below another letter. -/
def khmerSubscriptLetters : CharClass :=
  [(0x1780, 0x1782), (0x1784, 0x1787), (0x1789, 0x178C), (0x178E, 0x1793), (0x1795, 0x1798),
    (0x179B, 0x179D), (0x17A0, 0x17A0), (0x17A2, 0x17A2), (0x17A7, 0x17A7), (0x17AB, 0x17AC),
    (0x17AF, 0x17AF)]

/-- The sequences of fixed length that are shown as one sign, with the columns
that the sign takes: a line end, text-style emoji, and ligatures of the Hebrew,
Khmer, Buginese, Tifinagh, Lisu, Kirat Rai and Old Turkic scripts. -/
def shapes : List (List CharClass × Nat) :=
  [([only 0x0D, only 0x0A], 1),
    ([textStyleRanges, only 0xFE0E], 1),
    ([only 0x05D0, joiner, only 0x05DC], 1),
    ([only 0x17D2, khmerSubscriptLetters], 0),
    ([only 0x1A15, only 0x1A17, joiner, only 0x1A10], 1),
    ([tifinaghConsonants, only 0x2D7F, tifinaghConsonants], 1),
    ([tifinaghConsonants, joiner, tifinaghConsonants], 1),
    ([[(0xA4F8, 0xA4FB)], [(0xA4FC, 0xA4FD)]], 1),
    ([only 0x16D63, only 0x16D67, only 0x16D67], 1),
    ([[(0x16D63, 0x16D63), (0x16D67, 0x16D67), (0x16D69, 0x16D69)], only 0x16D67], 1),
    ([only 0x10C32, joiner, only 0x10C03], 1)]

/-- The sequences of fixed length that make one emoji: a key cap, an emoji
with its variation selector, an emoji with a skin tone, and a flag. -/
def emojiShapes : List (List CharClass) :=
  [[[(0x23, 0x23), (0x2A, 0x2A), (0x30, 0x39)], only 0xFE0F, only 0x20E3],
    [emojiStyleRanges, only 0xFE0F],
    [modifierBaseRanges, skinTones],
    [flagLetters, flagLetters]]

/-- The length of the tags that follow a flag, if their end tag is there. -/
def tagsLength : Text → Option Nat
  | [] => none
  | c :: rest =>
    if c.toNat == 0xE007F then some 1
    else if 0xE0020 ≤ c.toNat && c.toNat < 0xE007F then (tagsLength rest).map (· + 1)
    else none

/-- The number of characters of the emoji that a text begins with.  A flag
letter alone is not an emoji, and a skin tone alone is one only at the start
of a sequence. -/
def emojiLength (atStart : Bool) (text : Text) : Option Nat :=
  match emojiShapes.find? fun shape => beginsWith shape text with
  | some shape => some shape.length
  | none =>
    match text with
    | [] => none
    | c :: rest =>
      match if c.toNat == 0x1F3F4 then tagsLength rest else none with
      | some length => some (length + 1)
      | none =>
        if inRanges flagLetters c.toNat then none
        else if !atStart && inRanges skinTones c.toNat then none
        else if inRanges emojiRanges c.toNat then some 1
        else none

/-- The number of characters of the emoji that joiners tie to the one before;
`fuel` bounds their number. -/
def joinedLength : Nat → Text → Nat
  | 0, _ => 0
  | fuel + 1, text =>
    match text with
    | [] => 0
    | c :: rest =>
      if inRanges joiner c.toNat then
        match emojiLength false rest with
        | some length => 1 + length + joinedLength fuel (rest.drop length)
        | none => 0
      else 0

/-- The number of characters behind a lam up to the alef that it joins. -/
def alefLength : Text → Option Nat
  | [] => none
  | c :: rest =>
    if inRanges alefRanges c.toNat then some 1
    else if inRanges transparentRanges c.toNat then (alefLength rest).map (· + 1)
    else none

/-- The columns of the sign that a text begins with, and the number of
characters of the sign behind its first one. -/
def sign (c : Char) (rest : Text) : Nat × Nat :=
  if 0x20 ≤ c.toNat && c.toNat < 0x7F && (rest.head?.elim true fun next => next.toNat < 0x300) then
    (1, 0)
  else
    match shapes.find? fun shape => beginsWith shape.1 (c :: rest) with
    | some (shape, columns) => (columns, shape.length - 1)
    | none =>
      match emojiLength true (c :: rest) with
      | some length =>
        let tail := rest.drop (length - 1)
        (2, length - 1 + joinedLength tail.length tail)
      | none =>
        match if inRanges lamRanges c.toNat then alefLength rest else none with
        | some length => (1, length)
        | none => (if isControl c then 1 else shownColumns c, 0)

/-- `columnsFrom skip` passes over the next `skip` characters, which belong to
a sign that is counted already. -/
def columnsFrom : Nat → Text → Nat
  | _, [] => 0
  | skip + 1, _ :: rest => columnsFrom skip rest
  | 0, c :: rest =>
    let (columns, more) := sign c rest
    columns + columnsFrom more rest

/-- The number of columns that a text takes. -/
def columns (text : Text) : Nat :=
  columnsFrom 0 text

@[simp] theorem columns_nil : columns [] = 0 := rfl

end Text

end ForumPost
