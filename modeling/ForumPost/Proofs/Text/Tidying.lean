import Mathlib.Data.List.Infix
import ForumPost.Proofs.Text.Compact
import ForumPost.Proofs.Text.Lines
import ForumPost.Proofs.Text.Occurrences
import ForumPost.Proofs.Text.Strip

/-!
# Tidying again

`Fragments.tidied` strips the joined fragments, closes the gap behind a link and
takes one space out behind each line feed.  The order does not matter: both
replacements work inside of what stripping leaves, so that they may as well come
first (`tidied_eq_strip`).  A stripped text stays as it is exactly if neither finds
anything in it (`tidied_eq_self_iff`).

What is tidied is stripped and has no gap left behind a link, so that tidying it
again takes out spaces behind line feeds and does nothing else
(`tidied_singleton`).  It takes out one of each run of spaces, and only one: a
line feed with `n + 1` spaces behind it is left where there was one with `n + 2`
(`infix_dedent_iff`).  So a finished block need not be finished for good.  It is
exactly if no line feed had two spaces behind it, and every further round is
enough for one more space (`tidied_again_iff`).
-/

namespace ForumPost

namespace Text

/-! ## The ends of a text without some of its spaces -/

theorem SpacesDropped.reverse {text left : Text} (hspaces : SpacesDropped text left) :
    SpacesDropped text.reverse left.reverse := by
  induction hspaces with
  | nil => exact .nil
  | keep c _ ih =>
    rw [List.reverse_cons, List.reverse_cons]
    exact ih.append (.refl [c])
  | drop _ ih =>
    have hdropped := ih.append (.drop .nil)
    rwa [List.append_nil, ← List.reverse_cons] at hdropped

theorem SpacesDropped.head?_eq {text left : Text} (hspaces : SpacesDropped text left)
    (hspace : text.head? ≠ some ' ') : left.head? = text.head? := by
  cases hspaces with
  | nil => rfl
  | keep c _ => rfl
  | drop _ => exact absurd rfl hspace

theorem SpacesDropped.getLast?_eq {text left : Text} (hspaces : SpacesDropped text left)
    (hspace : text.getLast? ≠ some ' ') : left.getLast? = text.getLast? := by
  rw [← List.head?_reverse, ← List.head?_reverse] at *
  exact hspaces.reverse.head?_eq hspace

theorem SpacesDropped.length_le {text left : Text} (hspaces : SpacesDropped text left) :
    left.length ≤ text.length := by
  induction hspaces with
  | nil => exact Nat.le_refl 0
  | keep c _ ih => exact Nat.succ_le_succ ih
  | drop _ ih => exact Nat.le_succ_of_le ih

/-! ## Stripping before and after -/

/-- Edge characters around a text are stripped with its own. -/
theorem strip_enclosed {before after : Text} (hbefore : compact before = [])
    (hafter : compact after = []) (core : Text) : strip (before ++ core ++ after) = strip core := by
  have hfront := compact_eq_nil_iff.mp hbefore
  have hback : ∀ c ∈ after.reverse, isEdge c = true := fun c hc =>
    compact_eq_nil_iff.mp hafter c (List.mem_reverse.mp hc)
  rw [strip, trim, List.append_assoc, List.dropWhile_append_of_pos hfront, List.dropWhile_append]
  split
  · rename_i hempty
    have hcore : core.dropWhile isEdge = [] := List.isEmpty_iff.mp hempty
    have hdropped : after.dropWhile isEdge = [] :=
      List.dropWhile_eq_nil_iff.mpr (compact_eq_nil_iff.mp hafter)
    rw [strip, trim, hcore, hdropped]
  · rw [strip, trim, dropEndWhile, dropEndWhile, List.reverse_append,
      List.dropWhile_append_of_pos hback]

/-- In front of a character that is no edge character nothing is taken off. -/
theorem strip_cons {c : Char} (hc : isEdge c = false) (rest : Text) :
    strip (c :: rest) = c :: dropEndWhile isEdge rest :=
  trim_around (List.cons_ne_nil c []) (by simp [hc]) (by simp [hc]) [] rest

/-- A first character that is no edge character stays. -/
theorem head?_strip {text : Text} {c : Char} (hhead : text.head? = some c)
    (hc : isEdge c = false) : (strip text).head? = some c := by
  obtain ⟨rest, rfl⟩ := List.head?_eq_some_iff.mp hhead
  rw [strip_cons hc, List.head?_cons]

/-- What stands in front of a text stays if neither begins with an edge character. -/
theorem strip_append {first second : Text} {c : Char}
    (hfirst : ∀ d ∈ first.head?, isEdge d = false) (hsecond : second.head? = some c)
    (hc : isEdge c = false) : strip (first ++ second) = first ++ strip second := by
  obtain ⟨rest, rfl⟩ := List.head?_eq_some_iff.mp hsecond
  have hne : first ++ [c] ≠ [] := List.append_ne_nil_of_right_ne_nil first (List.cons_ne_nil c [])
  have hhead : ∀ d ∈ (first ++ [c]).head?, isEdge d = false := by
    cases first with
    | nil => simp [hc]
    | cons e more => exact hfirst
  have hlast : ∀ d ∈ (first ++ [c]).getLast?, isEdge d = false := by simp [hc]
  have htogether : strip (first ++ [c] ++ rest) = first ++ [c] ++ dropEndWhile isEdge rest :=
    trim_around hne hhead hlast [] rest
  rw [strip_cons hc, List.append_cons, htogether, ← List.append_cons]

/-- Taking out spaces leaves the ends of a stripped text as they are. -/
theorem SpacesDropped.strip_eq {core left : Text} (hspaces : SpacesDropped core left)
    (hcore : strip core = core) : strip left = left := by
  have hfirst {c : Char} (hc : core.head? = some c) : isEdge c = false :=
    not_edge_of_head?_strip (hcore.symm ▸ hc)
  have hlast {c : Char} (hc : core.getLast? = some c) : isEdge c = false :=
    not_edge_of_getLast?_strip (hcore.symm ▸ hc)
  apply strip_eq_self
  · rw [hspaces.head?_eq fun hspace => absurd (hfirst hspace) (by decide)]
    exact fun c hc => hfirst hc
  · rw [hspaces.getLast?_eq fun hspace => absurd (hlast hspace) (by decide)]
    exact fun c hc => hlast hc

/-- A change of edge characters, one that leaves the ends of a stripped text and works on
it apart from the edge characters around it, may come before stripping or after. -/
theorem strip_comm {change : Text → Text} (hcompact : ∀ text, compact (change text) = compact text)
    (hends : ∀ core, strip core = core → strip (change core) = change core)
    (happend : ∀ before core after, compact before = [] → compact after = [] →
      core ≠ [] → strip core = core →
      change (before ++ core ++ after) = change before ++ change core ++ change after)
    (text : Text) : strip (change text) = change (strip text) := by
  obtain ⟨before, after, htext, hbefore, hafter⟩ := exists_eq_strip text
  have hempty {part : Text} (hpart : compact part = []) : compact (change part) = [] := by
    rw [hcompact, hpart]
  rcases eq_or_ne (strip text) [] with hnil | hcore
  · -- Of a text of edge characters, only edge characters are left.
    have hwhole : strip (change text) = [] :=
      strip_eq_nil_iff.mpr (hempty (strip_eq_nil_iff.mp hnil))
    have hchange : strip (change []) = [] := strip_eq_nil_iff.mpr (hempty compact_nil)
    rw [hwhole, hnil, ← hends [] strip_nil, hchange]
  · conv => lhs; rw [htext]
    rw [happend before _ after hbefore hafter hcore (strip_strip text),
      strip_enclosed (hempty hbefore) (hempty hafter), hends _ (strip_strip text)]

end Text

namespace Fragments

open Text (SpacesDropped)

/-! ## What tidying looks for -/

/-- The gap behind a link that `tightenLinks` closes. -/
def linkGap : Text :=
  '[' :: "/url] )".toList

/-- A line feed with a number of spaces behind it.  `dedent` looks for one. -/
def indented (spaces : Nat) : Text :=
  '\n' :: List.replicate spaces ' '

theorem linkGap_ne_nil : linkGap ≠ [] :=
  List.cons_ne_nil _ _

theorem indented_ne_nil (spaces : Nat) : indented spaces ≠ [] :=
  List.cons_ne_nil _ _

theorem tightenLinks_eq (text : Text) :
    tightenLinks text = Text.replaceAll linkGap ('[' :: "/url])".toList) text := rfl

theorem dedent_eq (text : Text) : dedent text = Text.replaceAll (indented 1) ['\n'] text := rfl

theorem tightenLinks_append {first second : Text} (hapart : Text.Apart linkGap first second) :
    tightenLinks (first ++ second) = tightenLinks first ++ tightenLinks second :=
  hapart.replaceAll linkGap_ne_nil

theorem dedent_append {first second : Text} (hapart : Text.Apart (indented 1) first second) :
    dedent (first ++ second) = dedent first ++ dedent second :=
  hapart.replaceAll (indented_ne_nil 1)

/-- No link ends in front of what is stripped, and no gap behind it. -/
theorem strip_tightenLinks (text : Text) :
    Text.strip (tightenLinks text) = tightenLinks (Text.strip text) := by
  refine Text.strip_comm (fun text => (spacesDropped_tightenLinks text).compact_eq)
    (fun core hcore => (spacesDropped_tightenLinks core).strip_eq hcore) ?_ text
  intro before core after hbefore hafter _ _
  have hopening : '[' ∉ before := fun hmem => by
    have hedge := Text.compact_eq_nil_iff.mp hbefore _ hmem
    exact absurd hedge (by decide)
  have hclosing : ')' ∉ after := fun hmem => by
    have hedge := Text.compact_eq_nil_iff.mp hafter _ hmem
    exact absurd hedge (by decide)
  rw [tightenLinks_append (.of_getLast rfl hclosing),
    tightenLinks_append (.of_head rfl hopening)]

/-- A stripped text does not begin with a space or end in a line feed. -/
theorem strip_dedent (text : Text) : Text.strip (dedent text) = dedent (Text.strip text) := by
  refine Text.strip_comm (fun text => (spacesDropped_dedent text).compact_eq)
    (fun core hcore => (spacesDropped_dedent core).strip_eq hcore) ?_ text
  intro before core after _ _ hcore hstrip
  have hnext : core.head? ≠ some ' ' := fun hspace => by
    rw [← hstrip] at hspace
    exact absurd (Text.not_edge_of_head?_strip hspace) (by decide)
  have hlast : (before ++ core).getLast? ≠ some '\n' := fun hfeed => by
    rw [List.getLast?_append_of_ne_nil _ hcore, ← hstrip] at hfeed
    exact absurd (Text.not_edge_of_getLast?_strip hfeed) (by decide)
  rw [dedent_append (.of_last (by simpa [indented] using hlast)),
    dedent_append (.of_next (by simpa [indented] using hnext))]

/-- Stripping may as well come last. -/
theorem tidied_eq_strip (fragments : Fragments) :
    fragments.tidied = Text.strip (dedent (tightenLinks (fragments.joined " "))) := by
  rw [tidied, strip_dedent, strip_tightenLinks]

/-! ## What is left to look for -/

/-- Closing gaps leaves none. -/
theorem not_infix_tightenLinks (text : Text) : ¬ linkGap <:+: tightenLinks text := by
  induction text using Text.replaceAll_induction linkGap_ne_nil with
  | nil => decide
  | hit rest ih =>
    have hapart : Text.Apart linkGap "[/url])".toList (tightenLinks rest) :=
      -- What is put in has one bracket that opens, so that only the whole of it could begin a gap.
      .of_tails (by decide)
    have hclosed : tightenLinks (linkGap ++ rest) = "[/url])".toList ++ tightenLinks rest :=
      Text.replaceAll_append_self linkGap_ne_nil rest
    rw [hclosed, hapart.infix_append_iff, not_or]
    exact ⟨by decide, ih⟩
  | miss c rest hfront ih =>
    have hkept : tightenLinks (c :: rest) = c :: tightenLinks rest := Text.replaceAll_cons hfront
    rw [hkept, List.infix_cons_iff, not_or]
    refine ⟨fun hstarts => hfront ?_, ih⟩
    obtain ⟨hc, hbehind⟩ := List.cons_prefix_cons.mp hstarts
    rw [tightenLinks_eq] at hbehind
    have hopening : '[' ∉ "/url] )".toList := by decide
    exact List.cons_prefix_cons.mpr ⟨hc, (Text.prefix_replaceAll_iff hopening).mp hbehind⟩

theorem infix_tightenLinks_iff {spaces : Nat} {text : Text} :
    indented spaces <:+: tightenLinks text ↔ indented spaces <:+: text := by
  rw [tightenLinks_eq]
  exact Text.infix_replaceAll_iff (by simp [List.mem_replicate]) (by decide) (by decide)

theorem linkGap_infix_dedent_iff {text : Text} : linkGap <:+: dedent text ↔ linkGap <:+: text := by
  rw [dedent_eq]
  exact Text.infix_replaceAll_iff (by decide) (by decide) (by decide)

/-- Where a line feed keeps spaces behind it, it had one more. -/
theorem infix_dedent_iff {spaces : Nat} {text : Text} :
    indented (spaces + 1) <:+: dedent text ↔ indented (spaces + 2) <:+: text := by
  have hmem : '\n' ∉ List.replicate (spaces + 1) ' ' := by simp [List.mem_replicate]
  have hfront (rest : Text) : List.replicate (spaces + 1) ' ' <+: dedent rest ↔
      List.replicate (spaces + 1) ' ' <+: rest := Text.prefix_replaceAll_iff hmem
  induction text using Text.replaceAll_induction (indented_ne_nil 1) with
  | nil => simp [indented, dedent]
  | hit rest ih =>
    have hdropped : dedent (indented 1 ++ rest) = '\n' :: dedent rest :=
      Text.replaceAll_append_self (indented_ne_nil 1) rest
    have hspaces : indented (spaces + 2) <:+: indented 1 ++ rest ↔
        List.replicate (spaces + 1) ' ' <+: rest ∨ indented (spaces + 2) <:+: rest := by
      simp [indented, List.replicate_succ, List.infix_cons_iff, List.cons_prefix_cons]
    rw [hdropped, hspaces, indented, List.infix_cons_iff, List.cons_prefix_cons, and_iff_right rfl]
    exact or_congr (hfront rest) ih
  | miss c rest hmiss ih =>
    have hkept : dedent (c :: rest) = c :: dedent rest := Text.replaceAll_cons hmiss
    have hnone {more : Nat} : ¬ ('\n' = c ∧ List.replicate (more + 1) ' ' <+: rest) := by
      rintro ⟨rfl, hspaces⟩
      have hspace : [' '] <+: rest := (List.prefix_append [' '] _).trans hspaces
      exact hmiss (List.cons_prefix_cons.mpr ⟨rfl, hspace⟩)
    rw [hkept, indented, indented, List.infix_cons_iff, List.infix_cons_iff,
      List.cons_prefix_cons, List.cons_prefix_cons, hfront, or_iff_right hnone, or_iff_right hnone]
    exact ih

/-- A text stays as it is exactly if no line feed has a space behind it. -/
theorem dedent_eq_self_iff {text : Text} : dedent text = text ↔ ¬ indented 1 <:+: text := by
  refine ⟨fun hself => ?_, Text.replaceAll_eq_self (indented_ne_nil 1)⟩
  induction text using Text.replaceAll_induction (indented_ne_nil 1) with
  | nil => decide
  | hit rest _ =>
    have hdropped : dedent (indented 1 ++ rest) = '\n' :: dedent rest :=
      Text.replaceAll_append_self (indented_ne_nil 1) rest
    have hshort := (spacesDropped_dedent rest).length_le
    have hlength := congrArg List.length (hdropped.symm.trans hself)
    simp only [indented, List.length_cons, List.length_append, List.length_replicate] at hlength
    omega
  | miss c rest hmiss ih =>
    have hkept : dedent (c :: rest) = c :: dedent rest := Text.replaceAll_cons hmiss
    rw [hkept, List.cons.injEq] at hself
    rw [List.infix_cons_iff, not_or]
    exact ⟨hmiss, ih hself.2⟩

/-! ## Finished blocks -/

@[simp] theorem strip_tidied (fragments : Fragments) :
    Text.strip fragments.tidied = fragments.tidied := by
  rw [tidied_eq_strip, Text.strip_strip]

theorem not_linkGap_infix_tidied (fragments : Fragments) : ¬ linkGap <:+: fragments.tidied := by
  rw [tidied, linkGap_infix_dedent_iff]
  exact not_infix_tightenLinks _

/-- A finished block that is finished again loses one more space behind each line
feed, and nothing else. -/
theorem tidied_singleton (fragments : Fragments) :
    tidied [fragments.tidied] = dedent fragments.tidied := by
  have htight : tightenLinks fragments.tidied = fragments.tidied :=
    Text.replaceAll_eq_self linkGap_ne_nil (not_linkGap_infix_tidied fragments)
  conv => lhs; rw [tidied, joined, Text.join_singleton, strip_tidied, htight]

/-- A stripped text is finished already if and only if there is nothing to look for in
it. -/
theorem tidied_eq_self_iff {text : Text} (hstrip : Text.strip text = text) :
    tidied [text] = text ↔ ¬ linkGap <:+: text ∧ ¬ indented 1 <:+: text := by
  have htidied : tidied [text] = dedent (tightenLinks text) := by
    rw [tidied, joined, Text.join_singleton, hstrip]
  constructor
  · intro hself
    have hgap : ¬ linkGap <:+: text := hself ▸ not_linkGap_infix_tidied [text]
    have htight : tightenLinks text = text := Text.replaceAll_eq_self linkGap_ne_nil hgap
    rw [htidied, htight] at hself
    exact ⟨hgap, dedent_eq_self_iff.mp hself⟩
  · rintro ⟨hgap, hindent⟩
    have htight : tightenLinks text = text := Text.replaceAll_eq_self linkGap_ne_nil hgap
    rw [htidied, htight, dedent_eq_self_iff.mpr hindent]

/-- A block that is finished, and then finished again a number of times. -/
def retidied (fragments : Fragments) : Nat → Text
  | 0 => fragments.tidied
  | rounds + 1 => tidied [fragments.retidied rounds]

theorem retidied_succ (fragments : Fragments) (rounds : Nat) :
    fragments.retidied (rounds + 1) = dedent (fragments.retidied rounds) := by
  cases rounds with
  | zero => exact tidied_singleton fragments
  | succ rounds => exact tidied_singleton [fragments.retidied rounds]

/-- Each round takes out one space of every run behind a line feed. -/
theorem infix_retidied_iff (fragments : Fragments) (rounds spaces : Nat) :
    indented (spaces + 1) <:+: fragments.retidied rounds ↔
      indented (spaces + rounds + 2) <:+: Text.strip (fragments.joined " ") := by
  induction rounds generalizing spaces with
  | zero => rw [retidied, tidied, infix_dedent_iff, infix_tightenLinks_iff, Nat.add_zero]
  | succ rounds ih =>
    rw [retidied_succ, infix_dedent_iff, ih]
    have hspaces : spaces + 1 + rounds + 2 = spaces + (rounds + 1) + 2 := by omega
    rw [hspaces]

/-- What it takes for a block to be finished for good.  Every further round takes one
space out behind each line feed that has one and does nothing else.  So the block stays
as it is, and no line of it but the first begins with a space, exactly if no line feed
of the stripped fragments had two spaces behind it, or one more after each round.  At
some round this is the case. -/
theorem tidied_again_iff (fragments : Fragments) :
    (∀ rounds, fragments.retidied (rounds + 1) = dedent (fragments.retidied rounds)) ∧
    (∀ rounds, fragments.retidied (rounds + 1) = fragments.retidied rounds ↔
      ¬ indented (rounds + 2) <:+: Text.strip (fragments.joined " ")) ∧
    (∀ rounds, (∀ line ∈ ((fragments.retidied rounds).splitOn '\n').tail, line.head? ≠ some ' ') ↔
      ¬ indented (rounds + 2) <:+: Text.strip (fragments.joined " ")) ∧
    ∃ rounds, fragments.retidied (rounds + 1) = fragments.retidied rounds := by
  have hleft (rounds : Nat) : indented 1 <:+: fragments.retidied rounds ↔
      indented (rounds + 2) <:+: Text.strip (fragments.joined " ") := by
    rw [fragments.infix_retidied_iff rounds 0, Nat.zero_add]
  have hstays (rounds : Nat) : fragments.retidied (rounds + 1) = fragments.retidied rounds ↔
      ¬ indented (rounds + 2) <:+: Text.strip (fragments.joined " ") := by
    rw [retidied_succ, dedent_eq_self_iff, hleft]
  refine ⟨fragments.retidied_succ, hstays, fun rounds => ?_, ?_⟩
  · simp only [ne_eq, ← Text.singleton_prefix_iff]
    rw [Text.forall_mem_lines_not_prefix_iff (by decide), ← hleft]
    rfl
  · refine ⟨(Text.strip (fragments.joined " ")).length, (hstays _).mpr fun hoccurs => ?_⟩
    have hlength := hoccurs.length_le
    simp only [indented, List.length_cons, List.length_replicate] at hlength
    omega

/-- A line with three spaces in front is finished for good after two further rounds. -/
theorem tidied_again_twice :
    let fragments : Fragments := ["a\n  ".toList, "b".toList]
    ¬ indented 4 <:+: Text.strip (fragments.joined " ") ∧
      fragments.retidied 2 = "a\nb".toList ∧ fragments.retidied 3 = fragments.retidied 2 ∧
      fragments.retidied 1 ≠ fragments.retidied 0 := by
  intro fragments
  have hshort : ¬ indented 4 <:+: Text.strip (fragments.joined " ") := by decide
  have hlong : indented 2 <:+: Text.strip (fragments.joined " ") := by decide
  obtain ⟨-, hstays, -, -⟩ := tidied_again_iff fragments
  exact ⟨hshort, by decide, (hstays 2).mpr hshort, fun hequal => (hstays 0).mp hequal hlong⟩

/-- An indented line keeps a space when the block is finished, and loses it when the
block is finished again. -/
theorem tidied_keeps_indent :
    let block := tidied ["a\n  b".toList]
    block = "a\n b".toList ∧ tidied [block] = "a\nb".toList ∧ tidied [block] ≠ block ∧
      ¬ ∀ line ∈ (block.splitOn '\n').tail, line.head? ≠ some ' ' := by
  decide

end Fragments

end ForumPost
