import ForumPost.Text.Basic
import ForumPost.Text.UpperCase.Table

/-!
# Capitals

The upper-case form of a text, character by character and by the full mapping
of Unicode: some characters have a capital of two or three characters, such as
the sharp s, whose capital is a pair of S.
-/

namespace ForumPost

namespace Text

/-- Does a run of capitals hold a code point? -/
def CapitalRun.holds (run : CapitalRun) (code : Nat) : Bool :=
  let (first, last, step, _) := run
  first ≤ code && code ≤ last && (code - first) % step == 0

/-- The capital of a code point in a run that holds it. -/
def CapitalRun.capital (run : CapitalRun) (code : Nat) : Char :=
  Char.ofNat (run.2.2.2 + (code - run.1))

/-- The capital of a character; a character without one stands for itself. -/
def capital (c : Char) : Text :=
  match capitalTexts.lookup c.toNat with
  | some codes => codes.map Char.ofNat
  | none =>
    match capitalRuns.find? fun run => CapitalRun.holds run c.toNat with
    | some run => [CapitalRun.capital run c.toNat]
    | none => [c]

/-- The upper-case form of a text. -/
def upperCase (text : Text) : Text :=
  text.flatMap capital

end Text

end ForumPost
