import ForumPost.Text.Basic

/-!
# Fragments

A block of a post is gathered as a list of fragments, in the order of the
article.  When the block is complete the fragments are joined by spaces, and
the spaces that should not stay are taken out (`Fragments.tidied`).
-/

namespace ForumPost

/-- The fragments of a block, in order. -/
abbrev Fragments := List Text

namespace Fragments

/-- Adds a fragment at the end. -/
def push (fragments : Fragments) (fragment : Text) : Fragments :=
  fragments ++ [fragment]

/-- Continues the last fragment.  Where there is none, nothing happens. -/
def growLast (suffix : Text) : Fragments → Fragments
  | [] => []
  | [last] => [last ++ suffix]
  | fragment :: rest => fragment :: growLast suffix rest

/-- Is every fragment empty? -/
def isBlank (fragments : Fragments) : Bool :=
  fragments.all List.isEmpty

/-- The fragments with a separator in between. -/
def joined (separator : String) (fragments : Fragments) : Text :=
  Text.join separator.toList fragments

/-- Takes out the space that joining leaves between a closed link and a
closing parenthesis. -/
def tightenLinks (text : Text) : Text :=
  Text.replaceAll "[/url] )".toList "[/url])".toList text

/-- Takes out one space at the start of each line but the first. -/
def dedent (text : Text) : Text :=
  Text.replaceAll "\n ".toList "\n".toList text

/-- The finished block: the fragments joined by spaces, without the edge
characters at its ends and without the spaces that joining leaves in wrong
places. -/
def tidied (fragments : Fragments) : Text :=
  dedent (tightenLinks (Text.strip (fragments.joined " ")))

/-- Growing the last fragment keeps the number of fragments. -/
theorem length_growLast (suffix : Text) (fragments : Fragments) :
    (growLast suffix fragments).length = fragments.length := by
  fun_induction growLast suffix fragments with
  | case1 => rfl
  | case2 => rfl
  | case3 _ _ _ ih => simp [ih]

@[simp] theorem isBlank_nil : isBlank [] = true := rfl

end Fragments

end ForumPost
