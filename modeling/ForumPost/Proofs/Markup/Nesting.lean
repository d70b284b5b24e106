import ForumPost.Proofs.Text.Compact

/-!
# Well-nested bracket markup

A reader of bracket markup goes through a text from left to right and keeps the
names of the tags that are open, the innermost first.  A tag `[name]` or
`[name=value]` opens a name, and a tag `[/name]` closes the innermost open name,
which has to be the same.  A text is well nested if every bracket belongs to a
tag and no name is open at its end (`WellNested`).

The reader takes one character after the other (`Reader.step`), and each fact
about a run over a text comes from a fact about a step.

* What is open around a text does not matter (`run_within`).  So a well-nested
  text can stand anywhere, and well-nested texts can be put together in any way
  (`WellNested.append`, `WellNested.join`, `WellNested.enclosed`).
* Edge characters at the ends of a text can go (`WellNested.strip`), and so can
  spaces anywhere in it (`WellNested.spacesDropped`).  The latter would fail for
  names with spaces, which is why the name of a tag has none (`isName`).
-/

namespace ForumPost

/-- Neither of the two brackets stands in a text. -/
def Text.BracketFree (text : Text) : Prop :=
  ∀ c ∈ text, c ≠ '[' ∧ c ≠ ']'

instance (text : Text) : Decidable text.BracketFree :=
  List.decidableBAll (fun c => c ≠ '[' ∧ c ≠ ']') text

theorem Text.BracketFree.append {first second : Text} (hfirst : first.BracketFree)
    (hsecond : second.BracketFree) : (first ++ second).BracketFree := by
  intro c hc
  rcases List.mem_append.mp hc with hc | hc
  · exact hfirst c hc
  · exact hsecond c hc

namespace Brackets

open Text (SpacesDropped BracketFree)

/-! ## The reader -/

/-- Can a text be the name of a tag?  A name is not empty, and it has no white
space and none of the characters that end or close a tag. -/
def isName (name : Text) : Bool :=
  !name.isEmpty &&
    name.all fun c => !Text.isEdge c && c != '[' && c != ']' && c != '=' && c != '/'

/-- The name of an opening tag: what stands in front of its value. -/
def nameOf (tag : Text) : Text :=
  tag.takeWhile (· != '=')

/-- The names that are open behind a tag, unless the tag has no name and closes
nothing. -/
def afterTag (opened : List Text) (tag : Text) : Option (List Text) :=
  if isName (nameOf tag) then some (nameOf tag :: opened)
  else
    match tag, opened with
    | '/' :: name, last :: outer => if isName name && name == last then some outer else none
    | _, _ => none

/-- What a reader keeps: the beginning of the tag that it is inside of, if there
is one, and the open names. -/
structure Reader where
  tag : Option Text := none
  opened : List Text := []
  deriving DecidableEq

namespace Reader

/-- Reads a character. -/
def step (reader : Reader) (c : Char) : Option Reader :=
  match reader.tag with
  | none =>
    if c = '[' then some { reader with tag := some [] }
    else if c = ']' then none
    else some reader
  | some tag =>
    if c = ']' then (afterTag reader.opened tag).map fun opened => { opened }
    else if c = '[' then none
    else some { reader with tag := some (tag ++ [c]) }

/-- Reads a text. -/
def run (reader : Reader) (text : Text) : Option Reader :=
  text.foldlM step reader

/-- A reader with further names open around those that are open. -/
def within (reader : Reader) (outer : List Text) : Reader :=
  { reader with opened := reader.opened ++ outer }

end Reader

/-- Every tag of a text is closed by the tag that belongs to it. -/
def WellNested (text : Text) : Prop :=
  Reader.run {} text = some {}

instance (text : Text) : Decidable (WellNested text) :=
  inferInstanceAs (Decidable (_ = _))

example : WellNested "see [b][url=a/b]here[/url][/b]".toList := by decide

example : ¬ WellNested "[b][i]here[/b][/i]".toList := by decide

/-! ## Tags -/

theorem bracketFree_of_isName {name : Text} (hname : isName name = true) : name.BracketFree := by
  intro c hc
  simp only [isName, Bool.and_eq_true, List.all_eq_true, bne_iff_ne] at hname
  have hchar := hname.2 c hc
  exact ⟨hchar.1.1.1.2, hchar.1.1.2⟩

theorem bracketFree_closing {name : Text} (hname : isName name = true) :
    Text.BracketFree ('/' :: name) := by
  intro c hc
  rcases List.mem_cons.mp hc with rfl | hc
  · decide
  · exact bracketFree_of_isName hname c hc

/-- An opening tag opens its name. -/
theorem afterTag_opening {tag : Text} (hname : isName (nameOf tag) = true) (opened : List Text) :
    afterTag opened tag = some (nameOf tag :: opened) := by
  unfold afterTag
  exact if_pos hname

/-- A closing tag closes its name. -/
theorem afterTag_closing {name : Text} (hname : isName name = true) (opened : List Text) :
    afterTag (name :: opened) ('/' :: name) = some opened := by
  have hslash : isName (nameOf ('/' :: name)) = false := by simp [nameOf, isName]
  simp [afterTag, hslash, hname]

/-- Names that are open around a tag stay open behind it. -/
theorem afterTag_append {opened opened' : List Text} {tag : Text}
    (htag : afterTag opened tag = some opened') (outer : List Text) :
    afterTag (opened ++ outer) tag = some (opened' ++ outer) := by
  by_cases hname : isName (nameOf tag) = true
  · rw [afterTag_opening hname, Option.some.injEq] at htag
    rw [afterTag_opening hname, ← htag, List.cons_append]
  · unfold afterTag at htag ⊢
    rw [if_neg hname] at htag ⊢
    split at htag
    · rw [List.cons_append]
      split at htag
      · rename_i hmatch
        rw [← Option.some.inj htag]
        exact if_pos hmatch
      · simp at htag
    · simp at htag

/-! ## Steps and runs -/

namespace Reader

@[simp] theorem run_nil (reader : Reader) : reader.run [] = some reader := rfl

theorem run_cons (reader : Reader) (c : Char) (rest : Text) :
    reader.run (c :: rest) = (reader.step c).bind fun after => after.run rest :=
  List.foldlM_cons

theorem run_append (reader : Reader) (first second : Text) :
    reader.run (first ++ second) = (reader.run first).bind fun after => after.run second :=
  List.foldlM_append

/-- An opening bracket begins a tag. -/
theorem step_open (opened : List Text) :
    step { opened } '[' = some { tag := some [], opened } := rfl

/-- Outside of tags a character that is no bracket changes nothing. -/
theorem step_outside {c : Char} (hc : c ≠ '[' ∧ c ≠ ']') (opened : List Text) :
    step { opened } c = some { opened } := by
  simp [step, hc.1, hc.2]

/-- A closing bracket ends the tag that is being read. -/
theorem step_close {opened opened' : List Text} {tag : Text}
    (htag : afterTag opened tag = some opened') :
    step { tag := some tag, opened } ']' = some { opened := opened' } := by
  simp [step, htag]

/-- A character that is no bracket belongs to the tag that is being read. -/
theorem step_inside {c : Char} (hc : c ≠ '[' ∧ c ≠ ']') (tag : Text) (opened : List Text) :
    step { tag := some tag, opened } c = some { tag := some (tag ++ [c]), opened } := by
  simp [step, hc.1, hc.2]

/-- The four steps that a reader can take. -/
inductive Step : Reader → Char → Reader → Prop where
  | opens (opened : List Text) : Step { opened } '[' { tag := some [], opened }
  | outside (opened : List Text) {c : Char} (hc : c ≠ '[' ∧ c ≠ ']') :
      Step { opened } c { opened }
  | closes {opened opened' : List Text} {tag : Text} (htag : afterTag opened tag = some opened') :
      Step { tag := some tag, opened } ']' { opened := opened' }
  | inside (opened : List Text) (tag : Text) {c : Char} (hc : c ≠ '[' ∧ c ≠ ']') :
      Step { tag := some tag, opened } c { tag := some (tag ++ [c]), opened }

/-- A reader takes no other steps. -/
theorem step_cases {reader after : Reader} {c : Char} (hstep : reader.step c = some after) :
    Step reader c after := by
  obtain ⟨tag, opened⟩ := reader
  unfold step at hstep
  cases tag with
  | none =>
    by_cases hopen : c = '['
    · subst hopen
      rw [← Option.some.inj hstep]
      exact .opens opened
    · by_cases hclose : c = ']'
      · simp [hclose] at hstep
      · simp only [if_neg hopen, if_neg hclose] at hstep
        rw [← Option.some.inj hstep]
        exact .outside opened ⟨hopen, hclose⟩
  | some tag =>
    by_cases hclose : c = ']'
    · subst hclose
      obtain ⟨opened', htag, rfl⟩ := Option.map_eq_some_iff.mp hstep
      exact .closes htag
    · by_cases hopen : c = '['
      · simp [hopen] at hstep
      · simp only [if_neg hopen, if_neg hclose] at hstep
        rw [← Option.some.inj hstep]
        exact .inside opened tag ⟨hopen, hclose⟩

theorem run_outside {text : Text} (htext : text.BracketFree) (opened : List Text) :
    run { opened } text = some { opened } := by
  induction text with
  | nil => rfl
  | cons c rest ih =>
    rw [run_cons, step_outside (htext c (List.mem_cons_self ..)), Option.bind_some]
    exact ih fun other hother => htext other (List.mem_cons_of_mem c hother)

theorem run_inside {text : Text} (htext : text.BracketFree) (tag : Text) (opened : List Text) :
    run { tag := some tag, opened } text = some { tag := some (tag ++ text), opened } := by
  induction text generalizing tag with
  | nil => simp
  | cons c rest ih =>
    rw [run_cons, step_inside (htext c (List.mem_cons_self ..)), Option.bind_some,
      ih fun other hother => htext other (List.mem_cons_of_mem c hother)]
    simp

/-- A tag as a whole. -/
theorem run_tag {tag : Text} (htag : tag.BracketFree) (opened : List Text) :
    run { opened } ("[".toList ++ tag ++ "]".toList) =
      (afterTag opened tag).map fun opened => { opened } := by
  have hopen : run { opened } "[".toList = some { tag := some [], opened } := rfl
  rw [run_append, run_append, hopen, Option.bind_some, run_inside htag, Option.bind_some,
    List.nil_append]
  change run { tag := some tag, opened } [']'] = _
  rw [run_cons]
  cases hafter : afterTag opened tag <;> simp [step, hafter]

theorem step_within {reader after : Reader} {c : Char} (hstep : reader.step c = some after)
    (outer : List Text) : (reader.within outer).step c = some (after.within outer) := by
  cases step_cases hstep with
  | opens opened => exact step_open (opened ++ outer)
  | outside opened hc => exact step_outside hc (opened ++ outer)
  | closes htag => exact step_close (afterTag_append htag outer)
  | inside opened tag hc => exact step_inside hc tag (opened ++ outer)

/-- Names that are open around a text stay open behind it. -/
theorem run_within {reader after : Reader} {text : Text} (hrun : reader.run text = some after)
    (outer : List Text) : (reader.within outer).run text = some (after.within outer) := by
  induction text generalizing reader with
  | nil => rw [run_nil, ← Option.some.inj hrun]
  | cons c rest ih =>
    rw [run_cons, Option.bind_eq_some_iff] at hrun
    obtain ⟨between, hstep, hrest⟩ := hrun
    rw [run_cons, step_within hstep, Option.bind_some]
    exact ih hrest

end Reader

/-! ## Putting texts together -/

/-- A well-nested text leaves the open names as they are. -/
theorem WellNested.run {text : Text} (htext : WellNested text) (opened : List Text) :
    Reader.run { opened } text = some { opened } :=
  Reader.run_within htext opened

theorem wellNested_nil : WellNested [] := rfl

theorem wellNested_of_bracketFree {text : Text} (htext : text.BracketFree) : WellNested text :=
  Reader.run_outside htext []

theorem WellNested.append {first second : Text} (hfirst : WellNested first)
    (hsecond : WellNested second) : WellNested (first ++ second) := by
  rw [WellNested, Reader.run_append, hfirst, Option.bind_some]
  exact hsecond

theorem WellNested.flatten {parts : List Text} (hparts : ∀ part ∈ parts, WellNested part) :
    WellNested parts.flatten := by
  induction parts with
  | nil => exact wellNested_nil
  | cons first rest ih =>
    rw [List.flatten_cons]
    exact (hparts first (List.mem_cons_self ..)).append
      (ih fun part hpart => hparts part (List.mem_cons_of_mem first hpart))

theorem WellNested.behind {separator : Text} {parts : List Text}
    (hseparator : WellNested separator) (hparts : ∀ part ∈ parts, WellNested part) :
    WellNested (parts.flatMap (separator ++ ·)) := by
  rw [List.flatMap_def]
  apply WellNested.flatten
  intro text htext
  obtain ⟨part, hpart, rfl⟩ := List.mem_map.mp htext
  exact hseparator.append (hparts part hpart)

theorem WellNested.join {separator : Text} {parts : List Text} (hseparator : WellNested separator)
    (hparts : ∀ part ∈ parts, WellNested part) : WellNested (Text.join separator parts) := by
  cases parts with
  | nil => exact wellNested_nil
  | cons first rest =>
    rw [Text.join_cons]
    exact (hparts first (List.mem_cons_self ..)).append
      (hseparator.behind fun part hpart => hparts part (List.mem_cons_of_mem first hpart))

/-- Texts that open names and close them again can stand around a well-nested
text. -/
theorem WellNested.enclosed {opening closing inner : Text} (names : List Text)
    (hopening : Reader.run {} opening = some { opened := names })
    (hclosing : Reader.run { opened := names } closing = some {}) (hinner : WellNested inner) :
    WellNested (opening ++ inner ++ closing) := by
  rw [WellNested, Reader.run_append, Reader.run_append, hopening, Option.bind_some, hinner.run,
    Option.bind_some, hclosing]

/-! ## Taking white space out -/

/-- White space holds no bracket. -/
theorem bracketFree_of_compact {text : Text} (hwhite : Text.compact text = []) :
    text.BracketFree := by
  intro c hc
  have hedge := Text.compact_eq_nil_iff.mp hwhite c hc
  constructor
  · rintro rfl
    exact absurd hedge (by decide)
  · rintro rfl
    exact absurd hedge (by decide)

/-- If a text without brackets ends a well-nested text, the rest is well nested
too: a reader that is inside of a tag stays there. -/
theorem WellNested.of_append_bracketFree {first second : Text}
    (htext : WellNested (first ++ second)) (hsecond : second.BracketFree) : WellNested first := by
  rw [WellNested, Reader.run_append, Option.bind_eq_some_iff] at htext
  obtain ⟨⟨tag, opened⟩, hfirst, hend⟩ := htext
  cases tag with
  | none =>
    rw [Reader.run_outside hsecond] at hend
    rw [WellNested, hfirst, hend]
  | some tag =>
    rw [Reader.run_inside hsecond] at hend
    simp at hend

theorem WellNested.strip {text : Text} (htext : WellNested text) : WellNested (Text.strip text) := by
  obtain ⟨before, after, heq, hbefore, hafter⟩ := Text.exists_eq_strip text
  rw [heq, List.append_assoc, WellNested, Reader.run_append,
    Reader.run_outside (bracketFree_of_compact hbefore), Option.bind_some] at htext
  exact WellNested.of_append_bracketFree htext (bracketFree_of_compact hafter)

/-- A name loses no space, since it has none. -/
theorem nameOf_spacesDropped {tag left : Text} (hspaces : SpacesDropped tag left)
    (hname : ' ' ∉ nameOf tag) : nameOf left = nameOf tag := by
  induction hspaces with
  | nil => rfl
  | drop _ _ => simp [nameOf] at hname
  | keep c _ ih =>
    by_cases hvalue : c = '='
    · simp [nameOf, hvalue]
    · have hrest : ' ' ∉ nameOf _ := fun hmem => hname (by
        simpa [nameOf, hvalue] using .inr hmem)
      have heq := ih hrest
      simp only [nameOf] at heq ⊢
      simp [hvalue, heq]

theorem eq_of_spacesDropped {text left : Text} (hspaces : SpacesDropped text left)
    (htext : ' ' ∉ text) : left = text := by
  induction hspaces with
  | nil => rfl
  | drop _ _ => simp at htext
  | keep c _ ih => rw [ih fun hmem => htext (List.mem_cons_of_mem c hmem)]

theorem not_mem_of_isName {name : Text} (hname : isName name = true) : ' ' ∉ name := by
  intro hspace
  simp only [isName, Bool.and_eq_true, List.all_eq_true] at hname
  simpa [Text.isEdge] using hname.2 ' ' hspace

/-- A tag does the same without some of its spaces. -/
theorem afterTag_spacesDropped {opened opened' : List Text} {tag left : Text}
    (hspaces : SpacesDropped tag left) (htag : afterTag opened tag = some opened') :
    afterTag opened left = some opened' := by
  by_cases hname : isName (nameOf tag) = true
  · have heq := nameOf_spacesDropped hspaces (not_mem_of_isName hname)
    rw [afterTag_opening hname] at htag
    rw [afterTag_opening (heq ▸ hname), heq, htag]
  · -- A closing tag is a slash and a name, so it has no space to lose.
    have hleft : left = tag := by
      unfold afterTag at htag
      rw [if_neg hname] at htag
      split at htag
      · split at htag
        · rename_i hmatch
          rw [Bool.and_eq_true] at hmatch
          apply eq_of_spacesDropped hspaces
          simpa using not_mem_of_isName hmatch.1
        · simp at htag
      · simp at htag
    rwa [hleft]

namespace Reader

/-- The second reader stands where the first one does, but has not seen some
spaces of the tag that it is inside of. -/
inductive Looser : Reader → Reader → Prop where
  | outside (opened : List Text) : Looser { opened } { opened }
  | inside {tag left : Text} (opened : List Text) (hspaces : SpacesDropped tag left) :
      Looser { tag := some tag, opened } { tag := some left, opened }

theorem Looser.step_space {reader looser after : Reader} (hlooser : Looser reader looser)
    (hstep : reader.step ' ' = some after) : Looser after looser := by
  cases hlooser with
  | outside opened =>
    rw [step_outside (by decide)] at hstep
    rw [← Option.some.inj hstep]
    exact .outside opened
  | inside opened hspaces =>
    rw [step_inside (by decide)] at hstep
    rw [← Option.some.inj hstep]
    simpa using Looser.inside opened (hspaces.append (.drop .nil))

theorem Looser.step {reader looser after : Reader} {c : Char} (hlooser : Looser reader looser)
    (hstep : reader.step c = some after) :
    ∃ after', looser.step c = some after' ∧ Looser after after' := by
  cases step_cases hstep with
  | opens opened =>
    cases hlooser
    exact ⟨_, step_open opened, .inside opened .nil⟩
  | outside opened hc =>
    cases hlooser
    exact ⟨_, step_outside hc opened, .outside opened⟩
  | closes htag =>
    cases hlooser with
    | inside opened hspaces =>
      exact ⟨_, step_close (afterTag_spacesDropped hspaces htag), .outside _⟩
  | inside opened tag hc =>
    cases hlooser with
    | inside opened hspaces =>
      exact ⟨_, step_inside hc _ opened, .inside opened (hspaces.append (.refl [c]))⟩

/-- A run over a text without some of its spaces ends where the run over the
text does. -/
theorem Looser.run {text left : Text} (hspaces : SpacesDropped text left)
    {reader looser after : Reader} (hlooser : Looser reader looser)
    (hrun : reader.run text = some after) :
    ∃ after', looser.run left = some after' ∧ Looser after after' := by
  induction hspaces generalizing reader looser with
  | nil =>
    rw [run_nil] at hrun
    rw [← Option.some.inj hrun]
    exact ⟨looser, rfl, hlooser⟩
  | keep c _ ih =>
    rw [run_cons, Option.bind_eq_some_iff] at hrun
    obtain ⟨between, hstep, hrest⟩ := hrun
    obtain ⟨between', hstep', hbetween⟩ := hlooser.step hstep
    rw [run_cons, hstep', Option.bind_some]
    exact ih hbetween hrest
  | drop _ ih =>
    rw [run_cons, Option.bind_eq_some_iff] at hrun
    obtain ⟨between, hstep, hrest⟩ := hrun
    exact ih (hlooser.step_space hstep) hrest

end Reader

theorem WellNested.spacesDropped {text left : Text} (htext : WellNested text)
    (hspaces : SpacesDropped text left) : WellNested left := by
  obtain ⟨after, hrun, hafter⟩ := Reader.Looser.run hspaces (.outside []) htext
  cases hafter
  exact hrun

/-- A block of well-nested fragments is well nested. -/
theorem WellNested.tidied {fragments : Fragments}
    (hfragments : ∀ fragment ∈ fragments, WellNested fragment) : WellNested fragments.tidied := by
  have hjoined : WellNested (fragments.joined " ") := WellNested.join (by decide) hfragments
  exact hjoined.strip.spacesDropped (Fragments.tidied_spacesDropped fragments)

end Brackets

end ForumPost
