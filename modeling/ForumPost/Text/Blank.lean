import ForumPost.Text.Basic

/-!
# Blank characters

The Unicode property `White_Space`, and the operations that use it: trimming
both ends of a text, trimming its end, and cutting a text into words.
-/

namespace ForumPost

namespace Text

/-- The ranges of characters with the property `White_Space`. -/
def blankRanges : List (Nat × Nat) :=
  [(0x09, 0x0D), (0x20, 0x20), (0x85, 0x85), (0xA0, 0xA0), (0x1680, 0x1680),
    (0x2000, 0x200A), (0x2028, 0x2029), (0x202F, 0x202F), (0x205F, 0x205F), (0x3000, 0x3000)]

/-- Does a code point lie in one of the ranges? -/
def inRanges (ranges : List (Nat × Nat)) (code : Nat) : Bool :=
  ranges.any fun range => range.1 ≤ code && code ≤ range.2

/-- Is a character white space in the sense of Unicode? -/
def isBlank (c : Char) : Bool :=
  inRanges blankRanges c.toNat

/-- A text without blank characters at its ends. -/
def trimBlank (text : Text) : Text :=
  trim isBlank text

/-- A text without blank characters at its end. -/
def trimBlankEnd (text : Text) : Text :=
  dropEndWhile isBlank text

/-- The words of a text: its longest pieces without a blank character. -/
def words (text : Text) : List Text :=
  piecesBetween isBlank text

end Text

end ForumPost
