import ForumPost.Proofs.Text.Tidying

/-!
# Stray spaces

Joining fragments leaves spaces in wrong places: behind a line feed, and between a closed
link and a closing parenthesis.  `Fragments.tidied` looks for these places by two
replacements, one after the other.  Here they are taken together and told by what stands
in front of a space and behind it (`Fragments.isStray`).

* `Text.dropSpaces` goes through a text once and leaves out the spaces that are stray for
  the text as it was.  A replacement that takes a space out of its pattern does the same
  if the pattern cannot overlap itself (`Text.replaceAll_eq_dropSpaces`).
* The second replacement sees a text in which some spaces are missing already.  None of
  them stood behind a line feed or hid one, so that both replacements together take out
  what is stray for the one reason or the other (`Fragments.dropSpaces_feed_dropSpaces_link`).
-/

namespace ForumPost

namespace Text

/-! ## Spaces between two texts -/

/-- A text without the spaces that are stray for what stands in front of them and behind
them.  `before` is what stands in front of the text. -/
def dropSpaces (stray : Text → Text → Bool) (before : Text) : Text → Text
  | [] => []
  | c :: rest =>
    if c = ' ' ∧ stray before rest = true then dropSpaces stray (before ++ [c]) rest
    else c :: dropSpaces stray (before ++ [c]) rest

/-- Is there one text right in front and another one right behind? -/
def isBetween (front back before after : Text) : Bool :=
  front.isSuffixOf before && back.isPrefixOf after

theorem isBetween_iff {front back before after : Text} :
    isBetween front back before after = true ↔ front <:+ before ∧ back <+: after := by
  rw [isBetween, Bool.and_eq_true, List.isSuffixOf_iff_suffix, List.isPrefixOf_iff_prefix]

theorem dropSpaces_cons_of_kept {stray : Text → Text → Bool} {before rest : Text} {c : Char}
    (hkept : ¬ (c = ' ' ∧ stray before rest = true)) :
    dropSpaces stray before (c :: rest) = c :: dropSpaces stray (before ++ [c]) rest := by
  rw [dropSpaces, if_neg hkept]

/-- What holds no space is kept as it is. -/
theorem dropSpaces_append {stray : Text → Text → Bool} {part : Text} (hpart : ' ' ∉ part)
    (before rest : Text) :
    dropSpaces stray before (part ++ rest) = part ++ dropSpaces stray (before ++ part) rest := by
  induction part generalizing before with
  | nil => simp
  | cons c more ih =>
    have hc : ¬ (c = ' ' ∧ stray before (more ++ rest) = true) := fun hspace =>
      List.ne_of_not_mem_cons hpart hspace.1.symm
    rw [List.cons_append, dropSpaces_cons_of_kept hc, ih (List.not_mem_of_not_mem_cons hpart)]
    simp

section Apart

variable {pattern before rest : Text}

/-- Nothing begins in an empty text. -/
theorem Apart.nil (pattern rest : Text) : Apart pattern [] rest := by
  rintro start stop hstart - - hsuffix -
  exact hstart (List.suffix_nil.mp hsuffix)

/-- A character that begins no occurrence may be taken to what stands in front. -/
theorem Apart.concat {c : Char} (hapart : Apart pattern before (c :: rest))
    (hmiss : ¬ pattern <+: c :: rest) : Apart pattern (before ++ [c]) rest := by
  rintro start stop hstart - hpattern hsuffix hstarts
  rcases List.suffix_concat_iff.mp hsuffix with rfl | ⟨front, rfl, hfront⟩
  · exact hstart rfl
  · have hsplit : pattern = front ++ c :: stop := by simpa using hpattern
    have hnext : c :: stop <+: c :: rest := List.cons_prefix_cons.mpr ⟨rfl, hstarts⟩
    rcases eq_or_ne front [] with rfl | hne
    · exact hmiss (hsplit ▸ hnext)
    · exact hapart front (c :: stop) hne (List.cons_ne_nil c stop) hsplit hfront hnext

/-- Nor does an occurrence begin inside of another one, if its first character stands at
the front of the pattern only. -/
theorem Apart.behind {head : Char} {tail : Text} (hhead : head ∉ tail) (before rest : Text) :
    Apart (head :: tail) (before ++ head :: tail) rest := by
  rintro start stop hstart hstop hpattern hsuffix -
  obtain ⟨c, more, rfl⟩ := List.exists_cons_of_ne_nil hstart
  obtain ⟨rfl, htail⟩ := List.cons.inj hpattern
  have hshort : (head :: more).length ≤ tail.length := by
    have hlength := List.length_pos_iff.mpr hstop
    have htotal : tail.length = more.length + stop.length :=
      (congrArg List.length htail).trans List.length_append
    rw [List.length_cons]
    omega
  have hinside : tail <:+ before ++ head :: tail :=
    (List.suffix_cons head tail).trans (List.suffix_append before _)
  have hends := List.suffix_of_suffix_length_le hsuffix hinside hshort
  exact hhead (hends.subset (List.mem_cons_self ..))

end Apart

/-- A replacement that takes the space out of its pattern leaves out the spaces between the
two parts of the pattern, unless the pattern overlaps itself. -/
theorem replaceAll_eq_dropSpaces (front back : Text) (hne : front ≠ []) (hfront : ' ' ∉ front)
    (hback : ' ' ∉ back)
    (hself : ∀ before rest, Apart (front ++ ' ' :: back) (before ++ (front ++ ' ' :: back)) rest)
    {before text : Text} (hapart : Apart (front ++ ' ' :: back) before text) :
    replaceAll (front ++ ' ' :: back) (front ++ back) text =
      dropSpaces (isBetween front back) before text := by
  have hpattern : front ++ ' ' :: back ≠ [] := List.append_ne_nil_of_left_ne_nil hne _
  induction text using replaceAll_induction hpattern generalizing before with
  | nil => rfl
  | hit rest ih =>
    -- What is put in ends where the pattern did, and no other one begins inside of it.
    have hstray : isBetween front back (before ++ front) (back ++ rest) = true :=
      isBetween_iff.mpr ⟨List.suffix_append _ _, List.prefix_append _ _⟩
    have hbefore : before ++ front ++ [' '] ++ back = before ++ (front ++ ' ' :: back) := by simp
    have htext : front ++ ' ' :: back ++ rest = front ++ ' ' :: (back ++ rest) :=
      List.append_assoc front _ rest
    rw [replaceAll_append_self hpattern, ih (hself before rest), htext, dropSpaces_append hfront,
      dropSpaces, if_pos ⟨rfl, hstray⟩, dropSpaces_append hback, hbefore, List.append_assoc]
  | miss c rest hmiss ih =>
    have hkept : ¬ (c = ' ' ∧ isBetween front back before rest = true) := by
      rintro ⟨rfl, hstray⟩
      obtain ⟨hends, hstarts⟩ := isBetween_iff.mp hstray
      exact hapart front (' ' :: back) hne (List.cons_ne_nil _ _) rfl hends
        (List.cons_prefix_cons.mpr ⟨rfl, hstarts⟩)
    rw [replaceAll_cons hmiss, dropSpaces_cons_of_kept hkept, ih (hapart.concat hmiss)]

end Text

namespace Fragments

open Text (dropSpaces isBetween)

/-! ## Spaces behind line feeds and behind links -/

/-- Is a place right behind a line feed? -/
def isBehindFeed : Text → Text → Bool :=
  isBetween "\n".toList []

/-- Is a place between a closed link and a closing parenthesis? -/
def isBehindLink : Text → Text → Bool :=
  isBetween "[/url]".toList ")".toList

/-- Is a space stray between what stands in front of it and behind it? -/
def isStray (before after : Text) : Bool :=
  isBehindFeed before after || isBehindLink before after

theorem isBehindFeed_iff {before after : Text} :
    isBehindFeed before after = true ↔ before.getLast? = some '\n' := by
  rw [isBehindFeed, Text.isBetween_iff, and_iff_left List.nil_prefix, List.getLast?_eq_some_iff]
  exact ⟨fun ⟨front, hfront⟩ => ⟨front, hfront.symm⟩, fun ⟨front, hfront⟩ => ⟨front, hfront.symm⟩⟩

/-- A closed link ends in a bracket. -/
theorem getLast?_of_isBehindLink {before after : Text} (hlink : isBehindLink before after = true) :
    before.getLast? = some ']' := by
  obtain ⟨⟨front, rfl⟩, -⟩ := Text.isBetween_iff.mp hlink
  rw [List.getLast?_append]
  rfl

/-- Of spaces next to each other, only the first one can be stray. -/
theorem isStray_behind_space (before after : Text) : isStray (before ++ [' ']) after = false := by
  rw [isStray, Bool.or_eq_false_iff, Bool.eq_false_iff, Bool.eq_false_iff]
  constructor
  · intro hfeed
    have hlast := isBehindFeed_iff.mp hfeed
    rw [List.getLast?_concat] at hlast
    exact absurd hlast (by decide)
  · intro hlink
    have hlast := getLast?_of_isBehindLink hlink
    rw [List.getLast?_concat] at hlast
    exact absurd hlast (by decide)

theorem tightenLinks_eq_dropSpaces (text : Text) :
    tightenLinks text = dropSpaces isBehindLink [] text :=
  Text.replaceAll_eq_dropSpaces "[/url]".toList ")".toList (by decide) (by decide) (by decide)
    (fun before rest => .behind (by decide) before rest) (.nil _ text)

theorem dedent_eq_dropSpaces (text : Text) : dedent text = dropSpaces isBehindFeed [] text :=
  Text.replaceAll_eq_dropSpaces "\n".toList [] (by decide) (by decide) (by decide)
    (fun before rest => .behind (by decide) before rest) (.nil _ text)

/-- What is left of a text without the spaces behind links ends in a line feed where the
text does.  So it makes no difference for the spaces behind line feeds. -/
theorem dropSpaces_feed_dropSpaces_link {before left : Text}
    (hends : left.getLast? = some '\n' ↔ before.getLast? = some '\n') (text : Text) :
    dropSpaces isBehindFeed left (dropSpaces isBehindLink before text) =
      dropSpaces isStray before text := by
  induction text generalizing before left with
  | nil => rfl
  | cons c rest ih =>
    by_cases hlink : c = ' ' ∧ isBehindLink before rest = true
    · obtain ⟨rfl, hlink⟩ := hlink
      have hstray : isStray before rest = true := by rw [isStray, hlink, Bool.or_true]
      -- The space is missing in front of what follows, but the link that it stood behind does
      -- not end in a line feed either.
      have hbehind : left.getLast? = some '\n' ↔ (before ++ [' ']).getLast? = some '\n' := by
        rw [hends, getLast?_of_isBehindLink hlink, List.getLast?_concat]
        decide
      rw [dropSpaces, if_pos ⟨rfl, hlink⟩, dropSpaces, if_pos ⟨rfl, hstray⟩, ih hbehind]
    · have hboth : (left ++ [c]).getLast? = some '\n' ↔ (before ++ [c]).getLast? = some '\n' := by
        rw [List.getLast?_concat, List.getLast?_concat]
      have hsame : c = ' ' ∧ isBehindFeed left (dropSpaces isBehindLink (before ++ [c]) rest) = true ↔
          c = ' ' ∧ isStray before rest = true := by
        refine and_congr_right fun hspace => ?_
        have hnolink : ¬ isBehindLink before rest = true := fun hstray => hlink ⟨hspace, hstray⟩
        rw [isStray, Bool.or_eq_true, or_iff_left hnolink, isBehindFeed_iff, isBehindFeed_iff, hends]
      rw [Text.dropSpaces_cons_of_kept hlink, dropSpaces, dropSpaces, ih hboth]
      simp only [hsame]

/-- Tidying leaves out the stray spaces of the stripped fragments. -/
theorem tidied_eq_dropSpaces (fragments : Fragments) :
    fragments.tidied = dropSpaces isStray [] (Text.strip (fragments.joined " ")) := by
  rw [tidied, tightenLinks_eq_dropSpaces, dedent_eq_dropSpaces,
    dropSpaces_feed_dropSpaces_link Iff.rfl]

/-- A finished block is the stripped fragments without their stray spaces: the ones that
stand right behind a line feed, of each run of spaces the first, and the ones between a
closed link and a closing parenthesis.  Nothing else is taken out, and what is left is
stripped and has no gap behind a link.  Nothing is left exactly of edge characters. -/
theorem tidied_drops_stray_spaces (fragments : Fragments) :
    Text.strip fragments.tidied = fragments.tidied ∧
    ¬ "[/url] )".toList <:+: fragments.tidied ∧
    fragments.tidied = dropSpaces isStray [] (Text.strip (fragments.joined " ")) ∧
    (∀ before after, isStray before after = true ↔
      before.getLast? = some '\n' ∨ ("[/url]".toList <:+ before ∧ ")".toList <+: after)) ∧
    (∀ before after, isStray (before ++ [' ']) after = false) ∧
    (fragments.tidied = [] ↔
      ∀ fragment ∈ fragments, ∀ c ∈ fragment, Text.isEdge c = true) := by
  have hstray (before after : Text) : isStray before after = true ↔
      before.getLast? = some '\n' ∨ ("[/url]".toList <:+ before ∧ ")".toList <+: after) := by
    rw [isStray, Bool.or_eq_true, isBehindFeed_iff, isBehindLink, Text.isBetween_iff]
  refine ⟨strip_tidied fragments, not_linkGap_infix_tidied fragments,
    tidied_eq_dropSpaces fragments, hstray, isStray_behind_space, ?_⟩
  rw [tidied_eq_nil_iff_compact, List.flatMap_eq_nil_iff]
  simp only [Text.compact_eq_nil_iff]

/-- A footnote of two lines: the space behind the link goes, and one of the two in front
of the second line. -/
example : tidied [" (see [url=a]b[/url]".toList, ")\n  then".toList] =
    "(see [url=a]b[/url])\n then".toList := by decide

end Fragments

end ForumPost
