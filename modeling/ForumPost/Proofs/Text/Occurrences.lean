import Mathlib.Data.List.Infix
import ForumPost.Proofs.Text.Compact

/-!
# Occurrences of a pattern

What a replacement does to a text hangs on where the pattern occurs.  Two texts
are apart for a pattern if no occurrence begins in the first and ends in the
second (`Apart`).  Then the occurrences in both together are those in each, and
both can be replaced one by one (`Apart.infix_append_iff`, `Apart.replaceAll`).
A look at one character is enough to see it: the first or the last one of the
pattern, or the one at either side of the border.  So a pattern is found in parts
with a character in between that it does not hold exactly if it is found in one of
them (`infix_join_iff`).

The pattern and its replacement often begin with one character.  A text without
this character then occurs after the replacement where it did before
(`prefix_replaceAll_iff`, `infix_replaceAll_iff`).
-/

namespace ForumPost

namespace Text

section Apart

variable {pattern first second : Text}

/-- No occurrence of the pattern begins in the first text and ends in the
second. -/
def Apart (pattern first second : Text) : Prop :=
  ∀ start stop, start ≠ [] → stop ≠ [] → pattern = start ++ stop → start <:+ first →
    ¬ stop <+: second

/-- The first text does not hold the first character of the pattern. -/
theorem Apart.of_head {c : Char} (hhead : pattern.head? = some c) (hfirst : c ∉ first) :
    Apart pattern first second := by
  rintro start stop hstart - rfl hsuffix -
  obtain ⟨d, rest, rfl⟩ := List.exists_cons_of_ne_nil hstart
  obtain rfl : d = c := Option.some.inj hhead
  exact hfirst (hsuffix.subset (List.mem_cons_self ..))

/-- The second text does not hold the last character of the pattern. -/
theorem Apart.of_getLast {c : Char} (hlast : pattern.getLast? = some c) (hsecond : c ∉ second) :
    Apart pattern first second := by
  rintro start stop - hstop rfl - hstarts
  rw [List.getLast?_append_of_ne_nil _ hstop] at hlast
  exact hsecond (hstarts.subset (List.mem_of_getLast? hlast))

/-- The last character of the first text stands in the pattern at the end only. -/
theorem Apart.of_last (hpattern : ∀ c ∈ pattern.dropLast, first.getLast? ≠ some c) :
    Apart pattern first second := by
  rintro start stop hstart hstop rfl hsuffix -
  obtain ⟨before, rfl⟩ := hsuffix
  apply hpattern (start.getLast hstart)
  · rw [List.dropLast_append_of_ne_nil hstop]
    exact List.mem_append_left _ (List.getLast_mem hstart)
  · rw [List.getLast?_append_of_ne_nil _ hstart, List.getLast?_eq_some_getLast hstart]

/-- The first character of the second text stands in the pattern at the front
only. -/
theorem Apart.of_next (hpattern : ∀ c ∈ pattern.tail, second.head? ≠ some c) :
    Apart pattern first second := by
  rintro start stop hstart hstop rfl - hstarts
  obtain ⟨c, rest, rfl⟩ := List.exists_cons_of_ne_nil hstop
  obtain ⟨after, rfl⟩ := hstarts
  apply hpattern c
  · rw [List.tail_append_of_ne_nil hstart]
    exact List.mem_append_right _ (List.mem_cons_self ..)
  · rfl

/-- No end of the first text is at the front of the pattern. -/
theorem Apart.of_tails
    (htails : ∀ ending ∈ first.tails, ending ≠ [] → ¬ ending <+: pattern) :
    Apart pattern first second := by
  rintro start stop hstart - hpattern hsuffix -
  exact htails start ((List.mem_tails ..).mpr hsuffix) hstart ⟨stop, hpattern.symm⟩

/-- No front of the second text is at the end of the pattern. -/
theorem Apart.of_inits
    (hinits : ∀ beginning ∈ second.inits, beginning ≠ [] → ¬ beginning <:+ pattern) :
    Apart pattern first second := by
  rintro start stop - hstop hpattern - hstarts
  exact hinits stop ((List.mem_inits ..).mpr hstarts) hstop ⟨start, hpattern.symm⟩

theorem Apart.infix_append_iff (hapart : Apart pattern first second) :
    pattern <:+: first ++ second ↔ pattern <:+: first ∨ pattern <:+: second := by
  rw [List.infix_append_iff]
  constructor
  · rintro (hfirst | hsecond | ⟨start, stop, hpattern, hsuffix, hstarts⟩)
    · exact .inl hfirst
    · exact .inr hsecond
    · rcases eq_or_ne start [] with rfl | hstart
      · rw [hpattern]
        exact .inr hstarts.isInfix
      · rcases eq_or_ne stop [] with rfl | hstop
        · rw [hpattern, List.append_nil]
          exact .inl hsuffix.isInfix
        · exact absurd hstarts (hapart start stop hstart hstop hpattern hsuffix)
  · rintro (hfirst | hsecond)
    · exact .inl hfirst
    · exact .inr (.inl hsecond)

/-- A pattern does not occur in a run of a character that it does not end in. -/
theorem not_infix_replicate {c last : Char} (hlast : pattern.getLast? = some last)
    (hne : last ≠ c) (count : Nat) : ¬ pattern <:+: List.replicate count c := fun hinside =>
  hne (List.mem_replicate.mp (hinside.subset (List.mem_of_getLast? hlast))).2

/-- A character that the pattern does not hold keeps its occurrences apart. -/
theorem infix_append_cons_iff {c : Char} (hc : c ∉ pattern) :
    pattern <:+: first ++ c :: second ↔ pattern <:+: first ∨ pattern <:+: second := by
  have hapart : Apart pattern first (c :: second) :=
    .of_next fun d hd hnext => hc (Option.some.inj hnext ▸ List.mem_of_mem_tail hd)
  rw [hapart.infix_append_iff, List.infix_cons_iff]
  refine or_congr_right (or_iff_right_of_imp fun hfront => ?_)
  cases pattern with
  | nil => exact List.nil_infix
  | cons d rest =>
    obtain ⟨rfl, -⟩ := List.cons_prefix_cons.mp hfront
    exact absurd (List.mem_cons_self ..) hc

/-- So it occurs in parts with this character in between where it occurs in a part. -/
theorem infix_join_iff {c : Char} (hc : c ∉ pattern) (hpattern : pattern ≠ [])
    {parts : List Text} : pattern <:+: join [c] parts ↔ ∃ part ∈ parts, pattern <:+: part := by
  induction parts with
  | nil => simpa using hpattern
  | cons part rest ih =>
    rw [List.exists_mem_cons_iff]
    cases rest with
    | nil => simp
    | cons next others =>
      rw [join_cons_cons, List.append_assoc, List.singleton_append, infix_append_cons_iff hc, ih]

/-- What stands around a text holds no occurrence, and none reaches into the text. -/
theorem infix_enclosed_iff {opening closing text : Text}
    (htails : ∀ ending ∈ opening.tails, ending ≠ [] → ¬ ending <+: pattern)
    (hinits : ∀ beginning ∈ closing.inits, beginning ≠ [] → ¬ beginning <:+ pattern)
    (hopening : ¬ pattern <:+: opening) (hclosing : ¬ pattern <:+: closing) :
    pattern <:+: opening ++ text ++ closing ↔ pattern <:+: text := by
  rw [List.append_assoc, (Apart.of_tails htails).infix_append_iff, or_iff_right hopening,
    (Apart.of_inits hinits).infix_append_iff, or_iff_left hclosing]

/-- Nothing is replaced where nothing occurs. -/
theorem replaceAll_eq_self {replacement text : Text} (hpattern : pattern ≠ [])
    (hnone : ¬ pattern <:+: text) : Text.replaceAll pattern replacement text = text := by
  induction text using replaceAll_induction hpattern with
  | nil => rfl
  | hit rest _ => exact absurd (List.prefix_append pattern rest).isInfix hnone
  | miss c rest hfront ih =>
    rw [replaceAll_cons hfront, ih fun hrest => hnone (List.infix_cons hrest)]

/-- An occurrence at the front of both texts together is one at the front of the
first. -/
theorem Apart.prefix_of_prefix_append (hapart : Apart pattern first second) (hfirst : first ≠ [])
    (hstarts : pattern <+: first ++ second) : pattern <+: first := by
  obtain ⟨rest, hrest⟩ := hstarts
  rcases List.append_eq_append_iff.mp hrest with ⟨left, hleft, -⟩ | ⟨stop, hstop, hsecond⟩
  · exact ⟨left, hleft.symm⟩
  · rcases eq_or_ne stop [] with rfl | hne
    · rw [hstop, List.append_nil]
    · exact absurd ⟨rest, hsecond.symm⟩ (hapart first stop hfirst hne hstop (List.suffix_refl _))

theorem Apart.replaceAll {replacement : Text} (hpattern : pattern ≠ [])
    (hapart : Apart pattern first second) :
    Text.replaceAll pattern replacement (first ++ second) =
      Text.replaceAll pattern replacement first ++ Text.replaceAll pattern replacement second := by
  induction first using replaceAll_induction hpattern with
  | nil => rfl
  | hit rest ih =>
    have hrest : Apart pattern rest second := fun start stop hstart hstop heq hsuffix =>
      hapart start stop hstart hstop heq (hsuffix.trans (List.suffix_append pattern rest))
    rw [List.append_assoc, replaceAll_append_self hpattern, replaceAll_append_self hpattern,
      ih hrest, List.append_assoc]
  | miss c rest hfront ih =>
    have hrest : Apart pattern rest second := fun start stop hstart hstop heq hsuffix =>
      hapart start stop hstart hstop heq (hsuffix.trans (List.suffix_cons c rest))
    have hmiss : ¬ pattern <+: c :: (rest ++ second) := fun hstarts =>
      hfront (hapart.prefix_of_prefix_append (List.cons_ne_nil c rest) hstarts)
    rw [List.cons_append, replaceAll_cons hmiss, ih hrest, replaceAll_cons hfront, List.cons_append]

end Apart

section SharedHead

variable {head : Char} {pattern replacement wanted : Text}

/-- What is at the front of a text stays there if it does not hold the character
that every occurrence and every replacement begins with. -/
theorem prefix_replaceAll_iff (hwanted : head ∉ wanted) {text : Text} :
    wanted <+: replaceAll (head :: pattern) (head :: replacement) text ↔ wanted <+: text := by
  induction wanted generalizing text with
  | nil => simp
  | cons d more ih =>
    have hd : head ≠ d := List.ne_of_not_mem_cons hwanted
    have hmore : head ∉ more := List.not_mem_of_not_mem_cons hwanted
    cases text with
    | nil => simp
    | cons c rest =>
      by_cases hfront : head :: pattern <+: c :: rest
      · obtain ⟨tail, htail⟩ := hfront
        rw [← htail, replaceAll_append_self (List.cons_ne_nil head pattern)]
        simp [List.cons_prefix_cons, hd.symm]
      · rw [replaceAll_cons hfront, List.cons_prefix_cons, List.cons_prefix_cons, ih hmore]

/-- So does what occurs anywhere in it, if its own first character is none of those
that are replaced and put in. -/
theorem infix_replaceAll_iff {first : Char} (hwanted : head ∉ wanted)
    (hpattern : first ∉ head :: pattern) (hreplacement : first ∉ head :: replacement)
    {text : Text} :
    first :: wanted <:+: replaceAll (head :: pattern) (head :: replacement) text ↔
      first :: wanted <:+: text := by
  have hskip {part : Text} (hpart : first ∉ part) (rest : Text) :
      first :: wanted <:+: part ++ rest ↔ first :: wanted <:+: rest := by
    rw [(Apart.of_head rfl hpart).infix_append_iff, or_iff_right]
    intro hoccurs
    exact hpart (hoccurs.subset (List.mem_cons_self ..))
  induction text using replaceAll_induction (List.cons_ne_nil head pattern) with
  | nil => rfl
  | hit rest ih =>
    rw [replaceAll_append_self (List.cons_ne_nil head pattern), hskip hreplacement, hskip hpattern]
    exact ih
  | miss c rest hfront ih =>
    rw [replaceAll_cons hfront, List.infix_cons_iff, List.infix_cons_iff, List.cons_prefix_cons,
      List.cons_prefix_cons, prefix_replaceAll_iff hwanted]
    exact or_congr_right ih

end SharedHead

end Text

end ForumPost
