import ForumPost.Proofs.Article.OfPage
import ForumPost.Proofs.Article.Table
import ForumPost.Proofs.Markup.Grid
import ForumPost.Proofs.Text.UpperCase
import ForumPost.Proofs.Transcript.Rules

/-!
# When a transcript fails

`Node.Offends` says what is wrong with a node in a dialect, as far as the node itself
is concerned, and `Node.offence?` finds it.  A transcript fails exactly if some node
that it comes by offends, and then with the offence of the first such node in document
order (`failure_eq_first_offence`).

The proof has three steps.  In any article the failure is that of the first node
that fails on its own (`failure_transcribe`), by induction over the article.
What a node on its own fails with is its offence, by a look at each rule; only
tables can fail in another way, and then only if they hold an escape character.
Finding the first offence is finding a node that offends behind none that do
(`Node.findSome?_offence?_eq_some_iff`).

In an article that comes from a page few offences are left, since kinds follow
from tags there.
-/

namespace ForumPost

/-! ## What a dialect has markup for -/

/-- The tags of inline elements that a dialect has markup for. -/
def Dialect.inlineTags : Dialect → List String
  | reddit => ["strong", "b", "em", "i", "del", "s"]
  | rpgGeek => ["code", "em", "i", "s", "del", "strong", "b"]

theorem Reddit.inline?_eq_none_iff {tag text : Text} :
    inline? tag text = none ↔ String.ofList tag ∉ Dialect.reddit.inlineTags := by
  rw [inline?, Option.map_eq_none_iff]
  exact lookup_eq_none_iff_not_mem_keys

theorem RpgGeek.inline?_eq_none_iff {tag text : Text} :
    inline? tag text = none ↔ String.ofList tag ∉ Dialect.rpgGeek.inlineTags := by
  rw [inline?, Option.map_eq_none_iff]
  exact lookup_eq_none_iff_not_mem_keys

theorem Reddit.heading?_eq_none_iff {level : Nat} {text : Text} :
    heading? level text = none ↔ ¬ (1 ≤ level ∧ level ≤ 4) := by
  match level with
  | 0 | 1 | 2 | 3 | 4 => simp [heading?]
  | level + 5 => simp [heading?]

theorem RpgGeek.heading?_eq_none_iff {level : Nat} {text : Text} :
    heading? level text = none ↔ ¬ (1 ≤ level ∧ level ≤ 4) := by
  rw [heading?, Option.map_eq_none_iff, lookup_eq_none_iff_not_mem_keys]
  have hlevels : headingSizes.map Prod.fst = [1, 2, 3, 4] := rfl
  rw [hlevels]
  simp only [List.mem_cons, List.not_mem_nil, or_false]
  omega

/-! ## What is wrong with a node -/

namespace Node

/-- What is wrong with a node in a dialect.  An element that no rule covers, and a
division or section of no known class, is named in capitals. -/
inductive Offends (dialect : Dialect) (node : Node) : Failure → Prop where
  | stray {name : Text} (hrule : node.rule = .stray) (hname : Text.IsUpperCase node.tag name) :
      Offends dialect node (.strayElement name)
  | unknownWrapper {name : Text} (hrule : node.rule = .unknownWrapper)
      (hname : Text.IsUpperCase node.tag name) : Offends dialect node (.unknownWrapper name)
  | inline (hrule : node.rule = .inline) (htag : String.ofList node.tag ∉ dialect.inlineTags) :
      Offends dialect node (.noMarkupForTag dialect node.tag)
  | heading {level : Nat} (hrule : node.rule = .heading level) (hlevel : ¬ (1 ≤ level ∧ level ≤ 4)) :
      Offends dialect node (.noMarkupForHeading dialect level)

/-- What is wrong with a node in a dialect, if anything is. -/
def offence? (dialect : Dialect) (node : Node) : Option Failure :=
  match node.rule with
  | .stray => some (.strayElement (Text.upperCase node.tag))
  | .unknownWrapper => some (.unknownWrapper (Text.upperCase node.tag))
  | .inline =>
    if String.ofList node.tag ∈ dialect.inlineTags then none
    else some (.noMarkupForTag dialect node.tag)
  | .heading level =>
    if 1 ≤ level ∧ level ≤ 4 then none else some (.noMarkupForHeading dialect level)
  | _ => none

variable {dialect : Dialect} {node : Node} {failure : Failure}

theorem Offends.offence? (hoffends : node.Offends dialect failure) :
    node.offence? dialect = some failure := by
  unfold Node.offence?
  cases hoffends with
  | stray hrule hname => rw [hrule, Text.isUpperCase_iff.mp hname]
  | unknownWrapper hrule hname => rw [hrule, Text.isUpperCase_iff.mp hname]
  | inline hrule htag =>
    rw [hrule]
    exact if_neg htag
  | heading hrule hlevel =>
    rw [hrule]
    exact if_neg hlevel

theorem offence?_eq_some_iff :
    node.offence? dialect = some failure ↔ node.Offends dialect failure := by
  refine ⟨fun hoffence => ?_, Offends.offence?⟩
  unfold Node.offence? at hoffence
  cases hrule : node.rule with
  | stray =>
    rw [hrule] at hoffence
    rw [← Option.some.inj hoffence]
    exact .stray hrule (Text.isUpperCase_iff.mpr rfl)
  | unknownWrapper =>
    rw [hrule] at hoffence
    rw [← Option.some.inj hoffence]
    exact .unknownWrapper hrule (Text.isUpperCase_iff.mpr rfl)
  | inline =>
    rw [hrule] at hoffence
    dsimp only at hoffence
    split at hoffence
    · cases hoffence
    · rename_i htag
      rw [← Option.some.inj hoffence]
      exact .inline hrule htag
  | heading level =>
    rw [hrule] at hoffence
    dsimp only at hoffence
    split at hoffence
    · cases hoffence
    · rename_i hlevel
      rw [← Option.some.inj hoffence]
      exact .heading hrule hlevel
  | _ =>
    rw [hrule] at hoffence
    cases hoffence

theorem offence?_eq_none_iff :
    node.offence? dialect = none ↔ ∀ failure, ¬ node.Offends dialect failure := by
  rw [Option.eq_none_iff_forall_ne_some]
  exact forall_congr' fun failure => not_congr offence?_eq_some_iff

/-- The first offence is that of a node that offends, in front of which none does. -/
theorem findSome?_offence?_eq_some_iff {nodes : List Node} :
    nodes.findSome? (Node.offence? dialect) = some failure ↔
      ∃ front found back, nodes = front ++ found :: back ∧ found.Offends dialect failure ∧
        ∀ earlier ∈ front, ∀ failure, ¬ earlier.Offends dialect failure := by
  simp only [List.findSome?_eq_some_iff, offence?_eq_some_iff, offence?_eq_none_iff]

/-- An offence names a tag of ASCII in the capitals of the letters from a to z. -/
theorem Offends.name_of_ascii (htag : ∀ c ∈ node.tag, c.toNat < 128) {name : Text}
    (hoffends : node.Offends dialect (.strayElement name) ∨
      node.Offends dialect (.unknownWrapper name)) : name = node.tag.map Char.toUpper := by
  rw [← Text.upperCase_of_ascii htag, ← Text.isUpperCase_iff]
  rcases hoffends with hoffends | hoffends
  · cases hoffends with
    | stray hrule hname => exact hname
  · cases hoffends with
    | unknownWrapper hrule hname => exact hname

end Node

/-! ## What fails on its own -/

/-- What may have markup fails exactly if it has none. -/
theorem Transcript.failure_ofWritten {failure : Failure} {p : Prop} [Decidable p] :
    ∀ written : Option Text, (written = none ↔ ¬ p) →
      (ofResult (match written with
        | some written => .ok written
        | none => .error failure)).failure = if p then none else some failure := by
  intro written hwritten
  by_cases hp : p
  · rw [if_pos hp]
    cases written with
    | none => exact absurd hp (hwritten.mp rfl)
    | some text => rfl
  · rw [if_neg hp, hwritten.mpr hp]
    rfl

namespace Style

variable (style : Style)

theorem failure_inlineElement (tag text : Text) :
    (Transcript.ofResult (style.inlineElement tag text)).failure =
      if String.ofList tag ∈ style.dialect.inlineTags then none
      else some (.noMarkupForTag style.dialect tag) := by
  unfold inlineElement
  dsimp only
  cases style.dialect with
  | reddit => exact Transcript.failure_ofWritten _ Reddit.inline?_eq_none_iff
  | rpgGeek => exact Transcript.failure_ofWritten _ RpgGeek.inline?_eq_none_iff

theorem failure_heading (level : Nat) (text : Text) :
    (Transcript.ofResult (style.heading level text)).failure =
      if 1 ≤ level ∧ level ≤ 4 then none
      else some (.noMarkupForHeading style.dialect level) := by
  unfold heading
  dsimp only
  cases style.dialect with
  | reddit => exact Transcript.failure_ofWritten _ Reddit.heading?_eq_none_iff
  | rpgGeek => exact Transcript.failure_ofWritten _ RpgGeek.heading?_eq_none_iff

/-- A table without escape characters can be written. -/
theorem failure_table {table : Table} (htable : table.TextsSatisfy (· ≠ '\x1b')) :
    (Transcript.ofResult (style.table table)).failure = none := by
  have hdrawn := Grid.draw?_isSome htable.padded.cells
  obtain ⟨drawn, hdrawn⟩ := Option.isSome_iff_exists.mp hdrawn
  have hgrid : ∃ grid, style.grid table.padded.headers table.padded.rows = .ok grid := by
    unfold grid
    cases style.dialect with
    | reddit => exact ⟨_, rfl⟩
    | rpgGeek =>
      rw [hdrawn]
      exact ⟨drawn, rfl⟩
  obtain ⟨grid, hgrid⟩ := hgrid
  unfold Style.table
  dsimp only
  rw [hgrid]
  rfl

/-- A table that cannot be written has a grid that cannot be drawn. -/
theorem failure_table_eq_some {table : Table} {failure : Failure}
    (hfailure : (Transcript.ofResult (style.table table)).failure = some failure) :
    failure = .brokenGrid := by
  unfold Style.table at hfailure
  dsimp only at hfailure
  split at hfailure
  · rename_i cause hgrid
    rw [Transcript.ofResult, Transcript.failure_failed, Option.some.injEq] at hfailure
    unfold grid at hgrid
    split at hgrid
    · cases hgrid
    · split at hgrid
      · cases hgrid
      · rw [← hfailure, ← Except.error.inj hgrid]
  · cases hfailure

/-! ## The first failure -/

/-- What a node fails with on its own account, and not on account of a child. -/
def failureAt (node : Node) : Option Failure :=
  if node.rule.descends then none else (style.transcribe node).failure

/-- A rule that descends fails if a child does. -/
theorem failure_of_descends {node : Node} (hrule : node.rule.descends = true) :
    (style.transcribe node).failure = (style.transcribeAll node.children).failure := by
  rw [transcribe_eq_writtenBy]
  cases hcase : node.rule with
  | passOn => rfl
  | gather gathering => rw [writtenBy, Transcript.failure_gather]
  | _ => simp [hcase, Rule.descends] at hrule

end Style

/-- The first find in lists is the first find in one of them. -/
theorem findSome?_flatMap {α β γ : Type} (items : List α) (below : α → List β) (f : β → Option γ) :
    (items.flatMap below).findSome? f = items.findSome? fun item => (below item).findSome? f := by
  induction items with
  | nil => rfl
  | cons item rest ih =>
    rw [List.flatMap_cons, List.findSome?_append, ih, List.findSome?_cons]
    cases (below item).findSome? f <;> rfl

theorem findSome?_congr {α β : Type} {items : List α} {f g : α → Option β}
    (heq : ∀ item ∈ items, f item = g item) : items.findSome? f = items.findSome? g := by
  induction items with
  | nil => rfl
  | cons item rest ih =>
    rw [List.findSome?_cons, List.findSome?_cons, heq item (List.mem_cons_self ..),
      ih fun other hother => heq other (List.mem_cons_of_mem item hother)]

namespace Style

variable (style : Style)

/-- A transcript fails with the failure of the first node that fails on its own
account. -/
theorem failure_transcribe (node : Node) :
    (style.transcribe node).failure = node.handled.findSome? style.failureAt := by
  induction node using Node.inductionOnChildren with
  | step node ih =>
    rw [Node.handled_eq, List.findSome?_cons]
    by_cases hrule : node.rule.descends = true
    · have hown : style.failureAt node = none := if_pos hrule
      rw [hown, if_pos hrule, findSome?_flatMap, style.failure_of_descends hrule,
        failure_transcribeAll]
      exact findSome?_congr ih
    · have hown : style.failureAt node = (style.transcribe node).failure := if_neg hrule
      rw [hown, if_neg hrule, List.findSome?_nil]
      cases (style.transcribe node).failure <;> rfl

/-- Apart from tables, what a node fails with is its offence. -/
theorem failureAt_eq_offence? {node : Node} (htable : node.rule ≠ .table) :
    style.failureAt node = node.offence? style.dialect := by
  unfold failureAt Node.offence?
  rw [transcribe_eq_writtenBy]
  cases hrule : node.rule with
  | table => exact absurd hrule htable
  | leftOut | footer | newThought | stray | unknownWrapper | passOn => rfl
  | gather gathering => rfl
  | inline => exact style.failure_inlineElement node.tag _
  | heading level => exact style.failure_heading level _
  | plain => exact failure_plainText node.words
  | anchor => exact style.failure_anchor _ node.words
  | image => exact style.failure_imageOf _

/-- A table without escape characters has no offence and does not fail. -/
theorem failureAt_of_noEscape {node : Node} (hnode : node.TextsSatisfy (· ≠ '\x1b')) :
    style.failureAt node = node.offence? style.dialect := by
  by_cases htable : node.rule = .table
  · have hwritten := style.failure_table (Table.textsSatisfy_ofNode (by decide) hnode)
    unfold failureAt Node.offence?
    rw [transcribe_eq_writtenBy, htable]
    exact hwritten
  · exact style.failureAt_eq_offence? htable

/-- An article without escape characters fails with the first offence in it, whatever
was written before. -/
theorem failure_andThen_transcribe {node : Node} (hnode : node.TextsSatisfy (· ≠ '\x1b'))
    (earlier : Fragments) :
    ((Transcript.mk earlier none).andThen (style.transcribe node)).failure =
      node.handled.findSome? (Node.offence? style.dialect) := by
  rw [Transcript.failure_andThen, Option.none_or, style.failure_transcribe]
  apply findSome?_congr
  intro found hfound
  exact style.failureAt_of_noEscape (hnode.of_mem (Node.mem_preorder_of_mem_handled hfound))

end Style

/-! ## Articles that come from pages -/

namespace Node

/-- The kinds that are written as inline elements. -/
def inlineKinds : List Kind :=
  [.code, .emphasis, .struck, .strong, .italic, .bold, .deleted]

theorem kind_of_rule_heading {node : Node} {level : Nat} (hrule : node.rule = .heading level) :
    node.kind = .heading level := by
  unfold rule at hrule
  cases hkind : node.kind
  case heading found =>
    rw [hkind] at hrule
    rw [Rule.heading.inj hrule]
  case sectioning | division | span =>
    simp only [hkind] at hrule
    repeat' split at hrule
    all_goals cases hrule
  all_goals
    rw [hkind] at hrule
    cases hrule

theorem kind_of_rule_inline {node : Node} (hrule : node.rule = .inline) :
    node.kind ∈ inlineKinds := by
  unfold rule at hrule
  cases hkind : node.kind
  case code | emphasis | struck | strong | italic | bold | deleted => decide
  case sectioning | division | span =>
    simp only [hkind] at hrule
    repeat' split at hrule
    all_goals cases hrule
  all_goals
    rw [hkind] at hrule
    cases hrule

/-- In an article that comes from a page, each level of headings has markup. -/
theorem Named.heading_level {node : Node} (hnode : node.Named) {level : Nat}
    (hrule : node.rule = .heading level) : 1 ≤ level ∧ level ≤ 4 := by
  have hkind := kind_of_rule_heading hrule
  have hknown := hnode.mem_known (by simp [hkind])
  rw [hkind] at hknown
  simp [Kind.known] at hknown
  omega

/-- In an article that comes from a page, each inline element but code has
markup in every dialect. -/
theorem Named.inline_tag {node : Node} (hnode : node.Named) (hrule : node.rule = .inline)
    (dialect : Dialect) :
    String.ofList node.tag ∈ dialect.inlineTags ∨
      dialect = .reddit ∧ String.ofList node.tag = "code" := by
  have hkind := kind_of_rule_inline hrule
  have hother : ∀ name, node.kind ≠ .other name := by
    intro name heq
    rw [heq] at hkind
    simp [inlineKinds] at hkind
  have hknown := hnode.mem_known hother
  have hall : ∀ entry ∈ Kind.known, entry.2 ∈ inlineKinds → ∀ dialect ∈ Dialect.all,
      entry.1 ∈ dialect.inlineTags ∨ dialect = .reddit ∧ entry.1 = "code" := by
    decide +kernel
  exact hall _ hknown hkind dialect dialect.mem_all

/-- What is wrong with a node that comes from a page is never its level as a
heading, and its tag only if it is code for Reddit. -/
theorem Named.offence?_eq_some {node : Node} (hnode : node.Named) {dialect : Dialect}
    {failure : Failure} (hoffence : node.offence? dialect = some failure) :
    (∀ other level, failure ≠ .noMarkupForHeading other level) ∧
      ∀ other tag, failure = .noMarkupForTag other tag →
        other = .reddit ∧ tag = "code".toList := by
  unfold offence? at hoffence
  cases hrule : node.rule with
  | stray | unknownWrapper =>
    rw [hrule] at hoffence
    rw [← Option.some.inj hoffence]
    exact ⟨fun _ _ heq => Failure.noConfusion heq, fun _ _ heq => Failure.noConfusion heq⟩
  | heading level =>
    rw [hrule] at hoffence
    dsimp only at hoffence
    rw [if_pos (hnode.heading_level hrule)] at hoffence
    cases hoffence
  | inline =>
    rw [hrule] at hoffence
    dsimp only at hoffence
    rcases hnode.inline_tag hrule dialect with htag | ⟨hreddit, hcode⟩
    · rw [if_pos htag] at hoffence
      cases hoffence
    · split at hoffence
      · cases hoffence
      · rw [← Option.some.inj hoffence]
        refine ⟨fun _ _ heq => Failure.noConfusion heq, fun other tag heq => ?_⟩
        obtain ⟨hdialect, htag⟩ := Failure.noMarkupForTag.inj heq
        rw [← hdialect, ← htag, ← hcode, String.toList_ofList]
        exact ⟨hreddit, rfl⟩
  | _ =>
    rw [hrule] at hoffence
    cases hoffence

end Node

/-- A transcript of an article without escape characters fails exactly if a node
that it comes by offends, with the offence of the first such node, whatever has
been written before.  A tag that is named in an offence is in capitals, which in ASCII
are those of the letters from a to z.  In an article that comes from a page no heading
offends, and no inline element but code for Reddit. -/
theorem failure_eq_first_offence (style : Style) :
    (∀ node : Node, node.TextsSatisfy (· ≠ '\x1b') → ∀ earlier : Fragments,
      let failed := ((Transcript.mk earlier none).andThen (style.transcribe node)).failure
      (failed = none ↔
        ∀ found ∈ node.handled, ∀ failure, ¬ found.Offends style.dialect failure) ∧
      ∀ failure, failed = some failure ↔
        ∃ front found back, node.handled = front ++ found :: back ∧
          found.Offends style.dialect failure ∧
          ∀ earlier ∈ front, ∀ failure, ¬ earlier.Offends style.dialect failure) ∧
    (∀ found : Node, (∀ c ∈ found.tag, c.toNat < 128) → ∀ name,
      found.Offends style.dialect (.strayElement name) ∨
        found.Offends style.dialect (.unknownWrapper name) →
      name = found.tag.map Char.toUpper) ∧
    ∀ source, ∀ node ∈ Node.ofPage source, ∀ (earlier : Fragments) (failure : Failure),
      ((Transcript.mk earlier none).andThen (style.transcribe node)).failure = some failure →
      (∀ dialect level, failure ≠ .noMarkupForHeading dialect level) ∧
      ∀ dialect tag, failure = .noMarkupForTag dialect tag →
        dialect = .reddit ∧ tag = "code".toList := by
  refine ⟨?_, fun found htag name => Node.Offends.name_of_ascii htag, ?_⟩
  · intro node hnode earlier failed
    have hfailed : failed = node.handled.findSome? (Node.offence? style.dialect) :=
      style.failure_andThen_transcribe hnode earlier
    rw [hfailed]
    refine ⟨?_, fun failure => Node.findSome?_offence?_eq_some_iff⟩
    simp only [List.findSome?_eq_none_iff, Node.offence?_eq_none_iff]
  · intro source node hnode earlier failure hfailure
    rw [Transcript.failure_andThen, Option.none_or, style.failure_transcribe] at hfailure
    obtain ⟨found, hfound, hfailure⟩ := List.exists_of_findSome?_eq_some hfailure
    have hnamed := Node.named_of_mem_ofPage source hnode (Node.mem_preorder_of_mem_handled hfound)
    by_cases htable : found.rule = .table
    · unfold Style.failureAt at hfailure
      rw [Style.transcribe_eq_writtenBy, htable] at hfailure
      rw [style.failure_table_eq_some hfailure]
      exact ⟨fun _ _ heq => Failure.noConfusion heq, fun _ _ heq => Failure.noConfusion heq⟩
    · rw [style.failureAt_eq_offence? htable] at hfailure
      exact hnamed.offence?_eq_some hfailure

/-- Three paragraphs for Reddit, each with a node that offends and an image behind it:
code, a mark, and a division without a class. -/
theorem failure_eq_first_offence_samples :
    let style : Style := { dialect := .reddit }
    let element (tag : String) (children : List Html.Node) : Html.Node :=
      .element .html tag.toList [] children
    let paragraph (tag : String) : Html.Node :=
      element "p" [.text "see ".toList, element tag [.text "x".toList], element "img" []]
    let failed : Node → Option Failure := fun node =>
      ((Transcript.mk ["so".toList] none).andThen (style.transcribe node)).failure
    (∀ tag ∈ ["code", "mark", "div"], ∃ node, Node.ofPage (paragraph tag) = [node] ∧
      node.TextsSatisfy (· ≠ '\x1b')) ∧
    (∀ node ∈ Node.ofPage (paragraph "code"),
      failed node = some (.noMarkupForTag .reddit "code".toList) ∧
      ∀ dialect tag, failed node = some (.noMarkupForTag dialect tag) →
        dialect = .reddit ∧ tag = "code".toList) ∧
    (∀ node ∈ Node.ofPage (paragraph "mark"),
      failed node = some (.strayElement "MARK".toList)) ∧
    ∀ node ∈ Node.ofPage (paragraph "div"),
      failed node = some (.unknownWrapper "DIV".toList) := by
  intro style element paragraph failed
  have hnodes : ∀ tag ∈ ["code", "mark", "div"], ∀ node ∈ Node.ofPage (paragraph tag),
      node.TextsSatisfy (· ≠ '\x1b') := by
    decide +kernel
  have hcode : ∀ node ∈ Node.ofPage (paragraph "code"),
      node.handled.findSome? (Node.offence? .reddit) =
        some (.noMarkupForTag .reddit "code".toList) := by
    decide +kernel
  have hmark : ∀ node ∈ Node.ofPage (paragraph "mark"),
      node.handled.findSome? (Node.offence? .reddit) = some (.strayElement "MARK".toList) := by
    decide +kernel
  have hdivision : ∀ node ∈ Node.ofPage (paragraph "div"),
      node.handled.findSome? (Node.offence? .reddit) = some (.unknownWrapper "DIV".toList) := by
    decide +kernel
  obtain ⟨hfirst, -, honly⟩ := failure_eq_first_offence style
  have hfails : ∀ tag ∈ ["code", "mark", "div"], ∀ node ∈ Node.ofPage (paragraph tag),
      ∀ failure, node.handled.findSome? (Node.offence? .reddit) = some failure →
        failed node = some failure := by
    intro tag htag node hnode failure hoffence
    refine ((hfirst node (hnodes tag htag node hnode) ["so".toList]).2 failure).mpr ?_
    exact Node.findSome?_offence?_eq_some_iff.mp hoffence
  refine ⟨?_, fun node hnode => ⟨?_, ?_⟩, fun node hnode => ?_, fun node hnode => ?_⟩
  · intro tag htag
    exact ⟨_, rfl, hnodes tag htag _ (List.mem_singleton.mpr rfl)⟩
  · exact hfails "code" (by decide) node hnode _ (hcode node hnode)
  · intro dialect tag hfailed
    exact (honly _ node hnode ["so".toList] _ hfailed).2 dialect tag rfl
  · exact hfails "mark" (by decide) node hnode _ (hmark node hnode)
  · exact hfails "div" (by decide) node hnode _ (hdivision node hnode)

end ForumPost
