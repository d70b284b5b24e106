import ForumPost.Proofs.Markup.Nesting

/-!
# Erasing tags

`eraseTags` takes out of a text each opening bracket with everything up to the
next closing bracket.  A bracket that is never closed is no tag, and stays.

Erasing a text in parts is right where no part ends inside of a tag
(`eraseTags_append`), and well-nested parts never do.  `bare` is what is left of
a text without its tags and without white space; stripping and joining keep it.
-/

namespace ForumPost

namespace Brackets

/-- Erases tags.  The first argument is what was read of a tag that is not
closed yet. -/
def eraseFrom : Option Text → Text → Text
  | none, [] => []
  | some pending, [] => pending
  | none, c :: rest =>
    if c = '[' then eraseFrom (some [c]) rest else c :: eraseFrom none rest
  | some pending, c :: rest =>
    if c = ']' then eraseFrom none rest else eraseFrom (some (pending ++ [c])) rest

/-- A text without its tags. -/
def eraseTags (text : Text) : Text :=
  eraseFrom none text

/-- A text without its tags and without its white space. -/
def bare (text : Text) : Text :=
  Text.compact (eraseTags text)

example : eraseTags "see [b]here[/b] [".toList = "see here [".toList := by decide

/-- What an eraser keeps where a reader stands. -/
def Reader.pending (reader : Reader) : Option Text :=
  reader.tag.map ('[' :: ·)

theorem eraseFrom_append {reader : Reader} {opened : List Text} {first : Text}
    (hrun : reader.run first = some { opened }) (second : Text) :
    eraseFrom reader.pending (first ++ second) =
      eraseFrom reader.pending first ++ eraseTags second := by
  induction first generalizing reader with
  | nil =>
    rw [Reader.run_nil, Option.some.injEq] at hrun
    rw [hrun]
    rfl
  | cons c rest ih =>
    rw [Reader.run_cons, Option.bind_eq_some_iff] at hrun
    obtain ⟨between, hstep, hrest⟩ := hrun
    have hbehind := ih hrest
    cases Reader.step_cases hstep with
    | opens => exact hbehind
    | closes => exact hbehind
    | outside names hc =>
      simp only [Reader.pending, Option.map_none, List.cons_append, eraseFrom] at hbehind ⊢
      rw [if_neg hc.1, if_neg hc.1, hbehind, List.cons_append]
    | inside names tag hc =>
      simp only [Reader.pending, Option.map_some, List.cons_append, eraseFrom] at hbehind ⊢
      rw [if_neg hc.2, if_neg hc.2]
      exact hbehind

/-- Behind a text that does not end inside of a tag, erasing starts afresh. -/
theorem eraseTags_append {opened : List Text} {first : Text}
    (hfirst : Reader.run {} first = some { opened }) (second : Text) :
    eraseTags (first ++ second) = eraseTags first ++ eraseTags second :=
  eraseFrom_append hfirst second

theorem eraseTags_of_bracketFree {text : Text} (htext : text.BracketFree) :
    eraseTags text = text := by
  induction text with
  | nil => rfl
  | cons c rest ih =>
    have hrest := ih fun other hother => htext other (List.mem_cons_of_mem c hother)
    rw [eraseTags, eraseFrom, if_neg (htext c (List.mem_cons_self ..)).1]
    exact congrArg (c :: ·) hrest

/-- Nothing is left of a tag. -/
theorem eraseTags_tag {tag : Text} (htag : tag.BracketFree) :
    eraseTags ("[".toList ++ tag ++ "]".toList) = [] := by
  suffices hpending : ∀ pending, eraseFrom (some pending) (tag ++ "]".toList) = [] from
    hpending ['[']
  induction tag with
  | nil => exact fun pending => rfl
  | cons c rest ih =>
    intro pending
    rw [List.cons_append, eraseFrom, if_neg (htag c (List.mem_cons_self ..)).2]
    exact ih (fun other hother => htag other (List.mem_cons_of_mem c hother)) _

/-! ## What is left without white space -/

theorem bare_of_bracketFree {text : Text} (htext : text.BracketFree) :
    bare text = Text.compact text := by
  rw [bare, eraseTags_of_bracketFree htext]

theorem bare_append {first : Text} (hfirst : WellNested first) (second : Text) :
    bare (first ++ second) = bare first ++ bare second := by
  rw [bare, eraseTags_append hfirst, Text.compact_append]
  rfl

/-- White space leaves nothing. -/
theorem bare_of_compact {text : Text} (hwhite : Text.compact text = []) : bare text = [] := by
  rw [bare_of_bracketFree (bracketFree_of_compact hwhite), hwhite]

theorem bare_strip {text : Text} (htext : WellNested text) :
    bare (Text.strip text) = bare text := by
  obtain ⟨before, after, heq, hbefore, hafter⟩ := Text.exists_eq_strip text
  have hwhite := wellNested_of_bracketFree (bracketFree_of_compact hbefore)
  conv => rhs; rw [heq]
  rw [bare_append (hwhite.append htext.strip), bare_append hwhite, bare_of_compact hbefore,
    bare_of_compact hafter, List.nil_append, List.append_nil]

/-- White space between the parts of a text leaves nothing. -/
theorem bare_behind {separator : Text} {parts : List Text}
    (hseparator : Text.compact separator = [])
    (hparts : ∀ part ∈ parts, WellNested part) :
    bare (parts.flatMap (separator ++ ·)) = parts.flatMap bare := by
  have hwhite := wellNested_of_bracketFree (bracketFree_of_compact hseparator)
  induction parts with
  | nil => rfl
  | cons first rest ih =>
    have hfirst := hparts first (List.mem_cons_self ..)
    rw [List.flatMap_cons, bare_append (hwhite.append hfirst), bare_append hwhite,
      bare_of_compact hseparator, List.nil_append,
      ih fun part hpart => hparts part (List.mem_cons_of_mem first hpart), List.flatMap_cons]

theorem bare_join {separator : Text} {parts : List Text}
    (hseparator : Text.compact separator = [])
    (hparts : ∀ part ∈ parts, WellNested part) :
    bare (Text.join separator parts) = parts.flatMap bare := by
  cases parts with
  | nil => rfl
  | cons first rest =>
    rw [Text.join_cons, bare_append (hparts first (List.mem_cons_self ..)),
      bare_behind hseparator fun part hpart => hparts part (List.mem_cons_of_mem first hpart),
      List.flatMap_cons]

/-- Of a text between tags the text is left. -/
theorem bare_enclosed {opening closing inner : Text} {names : List Text}
    (hopening : Reader.run {} opening = some { opened := names }) (hinner : WellNested inner)
    (hopens : bare opening = []) (hcloses : bare closing = []) :
    bare (opening ++ inner ++ closing) = bare inner := by
  have hopened : Reader.run {} (opening ++ inner) = some { opened := names } := by
    rw [Reader.run_append, hopening, Option.bind_some, hinner.run]
  rw [bare, eraseTags_append hopened, eraseTags_append hopening, Text.compact_append,
    Text.compact_append]
  change bare opening ++ bare inner ++ bare closing = bare inner
  rw [hopens, hcloses, List.nil_append, List.append_nil]

end Brackets

end ForumPost
