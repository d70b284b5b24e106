import Mathlib.Data.List.Basic
import ForumPost.Markup.RpgGeek
import ForumPost.Proofs.Lookup
import ForumPost.Proofs.Markup.Erasure

/-!
# The markup of RPGGeek is well nested

Every rule of `RpgGeek` opens and closes its own tags around what it is given.
A rule for one text adds tags and nothing else, which `Tags` states with all
that follows from it, so that there is one lemma for each rule.  Most rules are
uses of `tagged`, inside of one another where they need several names.

Quotations and side notes put fixed tags around several parts, which they strip
(`stripped`).  What is true of them is stated by `Gathers`.
-/

namespace ForumPost

namespace RpgGeek

open Brackets
open Text (BracketFree)

/-- The second text is the first one with tags around it.  It is well nested if
the first one is, and no more is left of it without its tags and white space. -/
structure Tags (text written : Text) : Prop where
  wellNested : WellNested text → WellNested written
  bare_eq : WellNested text → bare written = bare text
  sublist : text.Sublist written

theorem Tags.trans {text between written : Text} (hfirst : Tags text between)
    (hsecond : Tags between written) : Tags text written where
  wellNested htext := hsecond.wellNested (hfirst.wellNested htext)
  bare_eq htext := (hsecond.bare_eq (hfirst.wellNested htext)).trans (hfirst.bare_eq htext)
  sublist := hfirst.sublist.trans hsecond.sublist

/-- The text is made of the parts, with tags and white space around them. -/
structure Gathers (parts : List Text) (written : Text) : Prop where
  wellNested : (∀ part ∈ parts, WellNested part) → WellNested written
  bare_eq : (∀ part ∈ parts, WellNested part) → bare written = parts.flatMap bare
  sublist : (parts.flatMap Text.compact).Sublist (Text.compact written)

/-! ## A text between the tags of a name -/

section Tagged

/-- An opening tag without its brackets. -/
def opening (tag : String) (value : Option Text) : Text :=
  tag.toList ++ value.elim [] fun value => '=' :: value

theorem tagged_eq (tag : String) (value : Option Text) (text : Text) :
    tagged tag value text =
      ("[".toList ++ opening tag value ++ "]".toList) ++ text ++
        ("[".toList ++ '/' :: tag.toList ++ "]".toList) := by
  have hslash : "[/".toList = "[".toList ++ ['/'] := rfl
  delta tagged
  simp only [hslash, opening, List.append_assoc, List.cons_append, List.nil_append]

variable {tag : String} {value : Option Text}

theorem bracketFree_opening (hname : isName tag.toList = true)
    (hvalue : ∀ text ∈ value, BracketFree text) : BracketFree (opening tag value) := by
  apply (bracketFree_of_isName hname).append
  cases value with
  | none => simp [BracketFree]
  | some text =>
    have hequals : BracketFree ['='] := by decide
    exact hequals.append (hvalue text rfl)

theorem nameOf_opening (hname : isName tag.toList = true) :
    nameOf (opening tag value) = tag.toList := by
  have hplain : ∀ c ∈ tag.toList, (c != '=') = true := by
    intro c hc
    simp only [isName, Bool.and_eq_true, List.all_eq_true] at hname
    exact (hname.2 c hc).1.2
  rw [nameOf, opening, List.takeWhile_append_of_pos hplain]
  cases value <;> simp

/-- The opening tag opens its name. -/
theorem run_opening (hname : isName tag.toList = true)
    (hvalue : ∀ text ∈ value, BracketFree text) :
    Reader.run {} ("[".toList ++ opening tag value ++ "]".toList) =
      some { opened := [tag.toList] } := by
  have hopens : isName (nameOf (opening tag value)) = true := by rwa [nameOf_opening hname]
  rw [Reader.run_tag (bracketFree_opening hname hvalue), afterTag_opening hopens,
    nameOf_opening hname]
  rfl

/-- The closing tag closes it. -/
theorem run_closing (hname : isName tag.toList = true) :
    Reader.run { opened := [tag.toList] } ("[".toList ++ '/' :: tag.toList ++ "]".toList) =
      some {} := by
  rw [Reader.run_tag (bracketFree_closing hname), afterTag_closing hname]
  rfl

theorem sublist_tagged (tag : String) (value : Option Text) (text : Text) :
    text.Sublist (tagged tag value text) := by
  rw [tagged_eq]
  exact (List.sublist_append_right _ text).trans (List.sublist_append_left _ _)

theorem tags_tagged (hname : isName tag.toList = true) (hvalue : ∀ text ∈ value, BracketFree text)
    (text : Text) : Tags text (tagged tag value text) where
  wellNested htext := by
    rw [tagged_eq]
    exact WellNested.enclosed [tag.toList] (run_opening hname hvalue) (run_closing hname) htext
  bare_eq htext := by
    rw [tagged_eq]
    apply bare_enclosed (run_opening hname hvalue) htext
    · rw [bare, eraseTags_tag (bracketFree_opening hname hvalue), Text.compact_nil]
    · rw [bare, eraseTags_tag (bracketFree_closing hname), Text.compact_nil]
  sublist := sublist_tagged tag value text

end Tagged

/-! ## The rules that use one name or more -/

section Rules

variable {text written : Text}

theorem tags_sized {size : Nat} (hsize : BracketFree (toString size).toList) (text : Text) :
    Tags text (sized size text) :=
  tags_tagged (by decide) (by simpa using hsize) text

theorem tags_link {url : Text} (hurl : BracketFree url) (text : Text) : Tags text (link url text) :=
  tags_tagged (by decide) (by simpa using hurl) text

theorem tags_footer (text : Text) : Tags text (footer text) :=
  (tags_sized (by decide) text).trans (tags_tagged (by decide) (by simp) _)

theorem tags_newThought (text : Text) : Tags text (newThought text) := by
  have hbold : Tags text (tagged "b" none (sized 14 text)) :=
    (tags_sized (by decide) text).trans (tags_tagged (by decide) (by simp) _)
  exact hbold.trans (tags_tagged (by decide) (by simp) _)

/-- The sizes of headings are numbers without brackets. -/
theorem tags_heading {level : Nat} (hwritten : heading? level text = some written) :
    Tags text written := by
  obtain ⟨size, hsize, rfl⟩ := Option.map_eq_some_iff.mp hwritten
  have hmem : (level, size) ∈ headingSizes := mem_of_lookup_eq_some hsize
  have hall : ∀ entry ∈ headingSizes, BracketFree (toString entry.2).toList := by decide
  exact tags_sized (hall (level, size) hmem) text

/-- An inline element stands between the tags of a name. -/
theorem tags_inline {tag : Text} (hwritten : inline? tag text = some written) :
    Tags text written := by
  obtain ⟨mapped, hmapped, rfl⟩ := Option.map_eq_some_iff.mp hwritten
  have hmem : (String.ofList tag, mapped) ∈ inlineTags := mem_of_lookup_eq_some hmapped
  have hall : ∀ entry ∈ inlineTags, isName entry.2.toList = true := by decide
  exact tags_tagged (hall (String.ofList tag, mapped) hmem) (by simp) text

theorem tags_caption (text : Text) : Tags text (caption text) :=
  tags_tagged (by decide) (by simp) text

theorem tags_tableFooter (text : Text) : Tags text (tableFooter text) :=
  tags_tagged (by decide) (by simp) text

theorem wellNested_banner {siteName url : Text} (hname : BracketFree siteName)
    (hurl : BracketFree url) : WellNested (banner siteName url) := by
  have hlink := (tags_link hurl siteName).wellNested (wellNested_of_bracketFree hname)
  have hline : WellNested ("Originally posted at ".toList ++ link url siteName) :=
    WellNested.append (by decide) hlink
  exact (tags_tagged (by decide) (by simp) _).wellNested hline

theorem wellNested_image {source : Text} (hsource : BracketFree source) :
    WellNested (image source) :=
  (tags_tagged (by decide) (by simp) source).wellNested (wellNested_of_bracketFree hsource)

theorem wellNested_tableContainer (htext : WellNested text) : WellNested (tableContainer text) :=
  WellNested.enclosed ["c".toList] (by decide) (by decide) htext

end Rules

/-! ## Several parts between fixed tags -/

section Stripped

variable {separator : String} {first last : Text}

theorem stripped_eq (separator : String) (first last : Text) (parts : List Text) :
    stripped separator (first :: parts ++ [last]) =
      Text.strip first ++
        ((parts.map Text.strip).flatMap (separator.toList ++ ·) ++ separator.toList) ++
          Text.strip last := by
  simp [stripped, Text.join_cons, List.flatMap_append]

private theorem wellNested_strippedParts {parts : List Text} (hparts : ∀ part ∈ parts, WellNested part) :
    ∀ part ∈ parts.map Text.strip, WellNested part := by
  intro text htext
  obtain ⟨part, hpart, rfl⟩ := List.mem_map.mp htext
  exact (hparts part hpart).strip

/-- Fixed tags around parts, with white space in between, gather the parts. -/
theorem gathers_stripped (names : List Text)
    (hfirst : Reader.run {} (Text.strip first) = some { opened := names })
    (hlast : Reader.run { opened := names } (Text.strip last) = some {})
    (hopens : bare (Text.strip first) = []) (hcloses : bare (Text.strip last) = [])
    (hseparator : Text.compact separator.toList = []) (parts : List Text) :
    Gathers parts (stripped separator (first :: parts ++ [last])) := by
  have hwhite := wellNested_of_bracketFree (bracketFree_of_compact hseparator)
  constructor
  · intro hparts
    rw [stripped_eq]
    exact WellNested.enclosed names hfirst hlast
      ((hwhite.behind (wellNested_strippedParts hparts)).append hwhite)
  · intro hparts
    have hstripped := wellNested_strippedParts hparts
    rw [stripped_eq, bare_enclosed hfirst ((hwhite.behind hstripped).append hwhite) hopens hcloses,
      bare_append (hwhite.behind hstripped), bare_behind hseparator hstripped,
      bare_of_compact hseparator, List.append_nil, List.flatMap_map]
    exact List.flatMap_congr fun part hpart => bare_strip (hparts part hpart)
  · rw [stripped, Text.compact_join hseparator, List.flatMap_map]
    simp only [Text.compact_strip, List.flatMap_append, List.cons_append, List.flatMap_cons]
    have hlast : (parts.flatMap Text.compact).Sublist
        (parts.flatMap Text.compact ++ [last].flatMap Text.compact) := List.sublist_append_left _ _
    exact hlast.trans (List.sublist_append_right _ _)

theorem gathers_quotation (parts : List Text) : Gathers parts (quotation parts) :=
  gathers_stripped ["q".toList] (by decide) (by decide) (by decide) (by decide) (by decide) parts

theorem gathers_sidenote (parts : List Text) : Gathers parts (sidenote parts) :=
  gathers_stripped ["size".toList, "i".toList, "COLOR".toList] (by decide) (by decide) (by decide)
    (by decide) (by decide) parts

end Stripped

end RpgGeek

end ForumPost
