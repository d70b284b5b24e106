import Mathlib.Data.List.SplitBy
import ForumPost.Proofs.Text.Tidying

/-!
# Runs of breaks

A text is cut into runs where a break stands next to another character
(`Text.runs`).  All characters of a run are breaks or none is, and the two sorts of
runs alternate.  There is one way to cut a text like this (`Text.isRuns_iff`).

`collapse` and `removeBreaks` write the runs one by one.  Each keeps the runs without
breaks as they are, and of a run of breaks the first leaves a space and the second
nothing (`Text.collapse_eq_runs`, `Text.removeBreaks_eq_runs`).

* Two texts may be collapsed one by one, unless that cuts a run of breaks in two.  Then
  the run leaves two spaces in place of one (`Text.collapse_append`,
  `Text.collapse_append_of_breaks`).
* Breaks are edge characters, so that collapsing works on what stripping leaves apart
  from what it takes off.  The two commute (`Text.strip_collapse`).

Stripping itself cuts a text once.  What it leaves holds every part of the text that
neither begins nor ends with an edge character (`Text.infix_strip`).
-/

namespace ForumPost

namespace Text

/-! ## Runs -/

/-- The longest parts of a text in which all characters are breaks or none is. -/
def runs (text : Text) : List Text :=
  text.splitBy fun c d => isBreak c == isBreak d

/-- The parts are the runs of a text. -/
structure IsRuns (text : Text) (parts : List Text) : Prop where
  flatten : parts.flatten = text
  ne_nil : ∀ run ∈ parts, run ≠ []
  uniform : ∀ run ∈ parts, ∀ c ∈ run, isBreak c = startsWithBreak run
  alternate : parts.IsChain fun run next => startsWithBreak run ≠ startsWithBreak next

/-- If neighbours are of one sort, then all characters are. -/
theorem isChain_iff_uniform {run : Text} :
    (run.IsChain fun c d => (isBreak c == isBreak d) = true) ↔
      ∀ c ∈ run, isBreak c = startsWithBreak run := by
  induction run with
  | nil => simp
  | cons first rest ih =>
    have hself : isBreak first = startsWithBreak (first :: rest) := rfl
    rw [List.isChain_cons, ih, List.forall_mem_cons, and_iff_right hself]
    cases rest with
    | nil => simp
    | cons second more =>
      have hsame : (∀ d ∈ (second :: more).head?, (isBreak first == isBreak d) = true) ↔
          isBreak second = isBreak first := by
        simp only [List.head?_cons, Option.mem_some_iff, forall_eq', beq_iff_eq]
        exact eq_comm
      rw [hsame]
      constructor
      · rintro ⟨hsecond, hmore⟩ c hc
        exact (hmore c hc).trans hsecond
      · intro hall
        have hsecond := hall second (List.mem_cons_self ..)
        exact ⟨hsecond, fun c hc => (hall c hc).trans hsecond.symm⟩

/-- Two neighbouring runs of one sort each differ where they meet exactly if they differ. -/
theorem exists_differ_iff {run next : Text} (hrun : run ≠ []) (hnext : next ≠ [])
    (huniform : ∀ c ∈ run, isBreak c = startsWithBreak run) :
    (∃ hlast hfirst, (isBreak (run.getLast hlast) == isBreak (next.head hfirst)) = false) ↔
      startsWithBreak run ≠ startsWithBreak next := by
  obtain ⟨d, more, rfl⟩ := List.exists_cons_of_ne_nil hnext
  rw [exists_prop_of_true hrun, exists_prop_of_true hnext, beq_eq_false_iff_ne,
    huniform _ (List.getLast_mem hrun)]
  rfl

/-- There is one way to cut a text into its runs. -/
theorem isRuns_iff {text : Text} {parts : List Text} : IsRuns text parts ↔ text.runs = parts := by
  rw [runs, List.splitBy_eq_iff]
  constructor
  · rintro ⟨hflatten, hne, huniform, halternate⟩
    refine ⟨hflatten.symm, fun hnil => hne [] hnil rfl,
      fun run hrun => isChain_iff_uniform.mpr (huniform run hrun), ?_⟩
    refine halternate.imp_of_mem_imp fun run next hrun hnext hdiffer => ?_
    exact (exists_differ_iff (hne run hrun) (hne next hnext) (huniform run hrun)).mpr hdiffer
  · rintro ⟨hflatten, hnil, hchain, hdiffer⟩
    have hne : ∀ run ∈ parts, run ≠ [] := fun run hrun => ne_of_mem_of_not_mem hrun hnil
    have huniform : ∀ run ∈ parts, ∀ c ∈ run, isBreak c = startsWithBreak run :=
      fun run hrun => isChain_iff_uniform.mp (hchain run hrun)
    refine ⟨hflatten.symm, hne, huniform, ?_⟩
    refine hdiffer.imp_of_mem_imp fun run next hrun hnext hdiffer => ?_
    exact (exists_differ_iff (hne run hrun) (hne next hnext) (huniform run hrun)).mp hdiffer

theorem isRuns_runs (text : Text) : IsRuns text text.runs :=
  isRuns_iff.mpr rfl

/-! ## Collapsing a text of two parts -/

theorem startsWithBreak_append {first : Text} (hfirst : first ≠ []) (second : Text) :
    startsWithBreak (first ++ second) = startsWithBreak first := by
  cases first with
  | nil => exact absurd rfl hfirst
  | cons c rest => rfl

/-- A text begins with a break exactly if its first character is one. -/
theorem startsWithBreak_eq_false_iff {text : Text} :
    startsWithBreak text = false ↔ ∀ c ∈ text.head?, isBreak c = false := by
  cases text with
  | nil => simp [startsWithBreak]
  | cons c rest => simp [startsWithBreak]

/-- Does a text end in a break? -/
def endsInBreak (text : Text) : Bool :=
  text.getLast?.any isBreak

theorem endsInBreak_append {second : Text} (hsecond : second ≠ []) (first : Text) :
    endsInBreak (first ++ second) = endsInBreak second := by
  rw [endsInBreak, List.getLast?_append_of_ne_nil _ hsecond, endsInBreak]

theorem endsInBreak_eq_false_iff {text : Text} :
    endsInBreak text = false ↔ ∀ c ∈ text.getLast?, isBreak c = false := by
  rw [endsInBreak]
  cases text.getLast? with
  | none => simp
  | some c => simp

/-- What collapsing writes for a character in front of a text. -/
def collapsed (c : Char) (rest : Text) : Text :=
  if isBreak c then (if startsWithBreak rest then [] else [' ']) else [c]

theorem collapse_cons (c : Char) (rest : Text) :
    collapse (c :: rest) = collapsed c rest ++ collapse rest := by
  rw [collapse, collapsed]
  split
  · split <;> rfl
  · rfl

/-- Only the first character behind is looked at. -/
theorem collapsed_append {first : Text} (hfirst : first ≠ []) (c : Char) (second : Text) :
    collapsed c (first ++ second) = collapsed c first := by
  rw [collapsed, startsWithBreak_append hfirst, collapsed]

/-- Two texts may be collapsed one by one, unless a run of breaks lies in both. -/
theorem collapse_append {first second : Text}
    (hcut : endsInBreak first = true → startsWithBreak second = false) :
    collapse (first ++ second) = collapse first ++ collapse second := by
  induction first with
  | nil => rfl
  | cons c rest ih =>
    rw [List.cons_append, collapse_cons, collapse_cons]
    rcases eq_or_ne rest [] with rfl | hrest
    · -- Only the last character looks into the second text.
      have hlast : collapsed c second = collapsed c [] := by
        rw [collapsed, collapsed]
        cases hbreak : isBreak c with
        | false => rfl
        | true => rw [hcut hbreak]; rfl
      rw [List.nil_append, hlast, collapse_nil, List.append_nil]
    · have hends : endsInBreak (c :: rest) = endsInBreak rest := endsInBreak_append hrest [c]
      rw [collapsed_append hrest, ih (hends ▸ hcut), List.append_assoc]

/-- The breaks at the end of a text leave the space of the run that they begin. -/
theorem exists_collapse_eq_concat {first : Text} (hends : endsInBreak first = true) :
    ∃ front, collapse first = front ++ [' '] ∧
      ∀ second, startsWithBreak second = true → collapse (first ++ second) = front ++ collapse second := by
  induction first with
  | nil => cases hends
  | cons c rest ih =>
    rcases eq_or_ne rest [] with rfl | hrest
    · have hbreak : isBreak c = true := hends
      refine ⟨[], by simp [collapse, hbreak, startsWithBreak], fun second hstarts => ?_⟩
      rw [List.singleton_append, collapse, if_pos hbreak, if_pos hstarts, List.nil_append]
    · rw [← List.singleton_append, endsInBreak_append hrest] at hends
      obtain ⟨front, hfront, happend⟩ := ih hends
      refine ⟨collapsed c rest ++ front, ?_, fun second hstarts => ?_⟩
      · rw [collapse_cons, hfront, List.append_assoc]
      · rw [List.cons_append, collapse_cons, collapsed_append hrest, happend second hstarts,
          List.append_assoc]

/-- A run of breaks at the front leaves a space. -/
theorem exists_collapse_eq_cons {text : Text} (hstarts : startsWithBreak text = true) :
    ∃ back, collapse text = ' ' :: back := by
  induction text with
  | nil => cases hstarts
  | cons c rest ih =>
    have hbreak : isBreak c = true := hstarts
    rw [collapse, if_pos hbreak]
    split
    · exact ih ‹_›
    · exact ⟨_, rfl⟩

/-- A run of breaks that lies in two texts leaves one space instead of two. -/
theorem collapse_append_of_breaks {first second : Text} (hends : endsInBreak first = true)
    (hstarts : startsWithBreak second = true) :
    ∃ front back, collapse first = front ++ [' '] ∧ collapse second = ' ' :: back ∧
      collapse (first ++ second) = front ++ ' ' :: back := by
  obtain ⟨front, hfirst, happend⟩ := exists_collapse_eq_concat hends
  obtain ⟨back, hsecond⟩ := exists_collapse_eq_cons hstarts
  exact ⟨front, back, hfirst, hsecond, by rw [happend second hstarts, hsecond]⟩

/-! ## Collapsing run by run -/

/-- A text without breaks stays as it is. -/
theorem collapse_eq_self {text : Text} (hbare : ∀ c ∈ text, isBreak c = false) :
    collapse text = text := by
  induction text with
  | nil => rfl
  | cons c rest ih =>
    obtain ⟨hc, hrest⟩ := List.forall_mem_cons.mp hbare
    rw [collapse, if_neg (Bool.eq_false_iff.mp hc), ih hrest]

/-- A text of breaks is one run. -/
theorem collapse_breaks {run : Text} (hrun : run ≠ []) (hbreaks : ∀ c ∈ run, isBreak c = true) :
    collapse run = [' '] := by
  induction run with
  | nil => exact absurd rfl hrun
  | cons c rest ih =>
    obtain ⟨hc, hrest⟩ := List.forall_mem_cons.mp hbreaks
    rw [collapse, if_pos hc]
    cases rest with
    | nil => rfl
    | cons d more =>
      have hstarts : startsWithBreak (d :: more) = true := hrest d (List.mem_cons_self ..)
      rw [if_pos hstarts, ih (List.cons_ne_nil d more) hrest]

/-- Each run of breaks leaves a space, and the other runs stay. -/
theorem collapse_eq_flatMap {text : Text} {parts : List Text} (hparts : IsRuns text parts) :
    collapse text = parts.flatMap fun run => if startsWithBreak run then [' '] else run := by
  obtain ⟨rfl, hne, huniform, halternate⟩ := hparts
  induction parts with
  | nil => rfl
  | cons run rest ih =>
    obtain ⟨hrun, hrest⟩ := List.forall_mem_cons.mp hne
    obtain ⟨hsort, hsorts⟩ := List.forall_mem_cons.mp huniform
    -- The run behind a run of breaks begins with another character.
    have hcut : endsInBreak run = true → startsWithBreak rest.flatten = false := by
      intro hends
      cases rest with
      | nil => rfl
      | cons next more =>
        have hlast := hsort _ (List.getLast_mem hrun)
        have hdiffer := (List.isChain_cons_cons.mp halternate).1
        rw [endsInBreak, List.getLast?_eq_some_getLast hrun, Option.any_some, hlast] at hends
        rw [List.flatten_cons, startsWithBreak_append (hrest next (List.mem_cons_self ..))]
        rw [hends] at hdiffer
        exact Bool.eq_false_iff.mpr hdiffer.symm
    rw [List.flatten_cons, collapse_append hcut, ih hrest hsorts halternate.of_cons,
      List.flatMap_cons]
    congr 1
    cases hstarts : startsWithBreak run with
    | true => exact collapse_breaks hrun fun c hc => (hsort c hc).trans hstarts
    | false => exact collapse_eq_self fun c hc => (hsort c hc).trans hstarts

theorem collapse_eq_runs (text : Text) :
    collapse text = text.runs.flatMap fun run => if startsWithBreak run then [' '] else run :=
  collapse_eq_flatMap (isRuns_runs text)

/-- A carriage return is an edge character, but no break. -/
example : runs "a\r\n\tb\n ".toList = ["a\r", "\n\t", "b", "\n", " "].map String.toList ∧
    collapse "a\r\n\tb\n ".toList = "a\r b  ".toList := by decide

theorem removeBreaks_eq_runs (text : Text) :
    removeBreaks text = text.runs.flatMap fun run => if startsWithBreak run then [] else run := by
  obtain ⟨hflatten, -, huniform, -⟩ := isRuns_runs text
  conv => lhs; rw [← hflatten]
  rw [removeBreaks, List.filter_flatten, ← List.flatMap_def]
  refine List.flatMap_congr fun run hrun => ?_
  have hsort := huniform run hrun
  cases hstarts : startsWithBreak run with
  | true => simpa [hstarts] using hsort
  | false => simpa [hstarts] using hsort

/-! ## Cleaned texts -/

/-- A text without tabs and line feeds. -/
def OneLine (text : Text) : Prop :=
  '\t' ∉ text ∧ '\n' ∉ text
  deriving Decidable

theorem oneLine_iff {text : Text} : OneLine text ↔ ∀ c ∈ text, isBreak c = false := by
  constructor
  · rintro ⟨htab, hfeed⟩ c hc
    rw [isBreak, Bool.or_eq_false_iff, beq_eq_false_iff_ne, beq_eq_false_iff_ne]
    exact ⟨ne_of_mem_of_not_mem hc htab, ne_of_mem_of_not_mem hc hfeed⟩
  · intro hall
    exact ⟨fun htab => absurd (hall _ htab) (by decide),
      fun hfeed => absurd (hall _ hfeed) (by decide)⟩

theorem OneLine.append {first second : Text} (hfirst : OneLine first) (hsecond : OneLine second) :
    OneLine (first ++ second) := by
  rw [oneLine_iff] at *
  exact List.forall_mem_append.mpr ⟨hfirst, hsecond⟩

theorem oneLine_collapse (text : Text) : OneLine (collapse text) :=
  oneLine_iff.mpr fun _ hc => not_isBreak_of_mem_collapse hc

@[simp] theorem collapse_collapse (text : Text) : collapse (collapse text) = collapse text :=
  collapse_eq_self fun _ hc => not_isBreak_of_mem_collapse hc

@[simp] theorem removeBreaks_removeBreaks (text : Text) :
    removeBreaks (removeBreaks text) = removeBreaks text :=
  List.filter_eq_self.mpr fun _ hc => (List.mem_filter.mp hc).2

/-! ## Stripping -/

/-- Neither the first character of a text nor its last one is an edge character. -/
structure Bare (text : Text) : Prop where
  first : ∀ c ∈ text.head?, isEdge c = false
  last : ∀ c ∈ text.getLast?, isEdge c = false

theorem bare_strip (text : Text) : Bare (strip text) where
  first _ hc := not_edge_of_head?_strip hc
  last _ hc := not_edge_of_getLast?_strip hc

theorem not_isBreak_of_not_edge {c : Char} (hc : isEdge c = false) : isBreak c = false := by
  cases hbreak : isBreak c with
  | false => rfl
  | true => rw [isEdge_of_isBreak hbreak] at hc; cases hc

theorem Bare.startsWithBreak_eq {text : Text} (hbare : Bare text) : startsWithBreak text = false :=
  startsWithBreak_eq_false_iff.mpr fun c hc => not_isBreak_of_not_edge (hbare.first c hc)

theorem Bare.endsInBreak_eq {text : Text} (hbare : Bare text) : endsInBreak text = false :=
  endsInBreak_eq_false_iff.mpr fun c hc => not_isBreak_of_not_edge (hbare.last c hc)

/-- What stripping leaves holds every bare part of a text. -/
theorem infix_strip {part text : Text} (hpart : part <:+: text) (hbare : Bare part) :
    part <:+: strip text := by
  obtain ⟨before, after, rfl⟩ := hpart
  rcases eq_or_ne part [] with rfl | hne
  · exact List.nil_infix
  · rw [strip, trim_around hne hbare.first hbare.last]
    exact List.infix_append _ _ _

/-- What is left of a text without the edge characters around it: the longest bare part. -/
structure IsCore (text core : Text) : Prop where
  enclosed : ∃ before after, text = before ++ core ++ after ∧
    (∀ c ∈ before, isEdge c = true) ∧ (∀ c ∈ after, isEdge c = true)
  bare : Bare core
  longest : ∀ part, part <:+: text → Bare part → part.length ≤ core.length
  unique : ∀ part, part <:+: text → Bare part → part.length = core.length → part = core

theorem isCore_strip (text : Text) : IsCore text (strip text) where
  enclosed := exists_eq_trim isEdge text
  bare := bare_strip text
  longest _ hpart hbare := (infix_strip hpart hbare).length_le
  unique _ hpart hbare hlength := (infix_strip hpart hbare).eq_of_length hlength

/-- A text that begins with no break keeps its first character. -/
theorem head?_collapse {text : Text} (hstarts : startsWithBreak text = false) :
    (collapse text).head? = text.head? := by
  cases text with
  | nil => rfl
  | cons c rest =>
    have hc : isBreak c = false := hstarts
    rw [collapse, if_neg (Bool.eq_false_iff.mp hc), List.head?_cons, List.head?_cons]

/-- A text that ends in no break keeps its last character. -/
theorem getLast?_collapse {text : Text} (hends : endsInBreak text = false) :
    (collapse text).getLast? = text.getLast? := by
  rcases List.eq_nil_or_concat' text with rfl | ⟨front, c, rfl⟩
  · rfl
  · rw [endsInBreak_append (List.cons_ne_nil c [])] at hends
    have hc : isBreak c = false := hends
    have hstarts : startsWithBreak [c] = false := hc
    rw [collapse_append fun _ => hstarts, collapse_eq_self (List.forall_mem_singleton.mpr hc),
      List.getLast?_concat, List.getLast?_concat]

/-- Collapsing leaves the ends of a bare text as they are. -/
theorem Bare.collapse {text : Text} (hbare : Bare text) : Bare (collapse text) where
  first := by
    rw [head?_collapse hbare.startsWithBreak_eq]
    exact hbare.first
  last := by
    rw [getLast?_collapse hbare.endsInBreak_eq]
    exact hbare.last

/-- Stripping and collapsing may come one before the other. -/
theorem strip_collapse (text : Text) : strip (collapse text) = collapse (strip text) := by
  refine strip_comm compact_collapse ?_ ?_ text
  · intro core hcore
    have hbare : Bare (collapse core) := (hcore ▸ bare_strip core : Bare core).collapse
    exact strip_eq_self hbare.first hbare.last
  · intro before core after _ _ hne hcore
    have hbare : Bare core := hcore ▸ bare_strip core
    have hends : endsInBreak (before ++ core) = false := by
      rw [endsInBreak_append hne, hbare.endsInBreak_eq]
    rw [collapse_append fun hbreak => absurd hbreak (Bool.eq_false_iff.mp hends),
      collapse_append fun _ => hbare.startsWithBreak_eq]

end Text

end ForumPost
