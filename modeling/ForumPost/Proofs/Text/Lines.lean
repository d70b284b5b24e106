import Mathlib.Data.List.Infix
import ForumPost.Text.Lines

/-!
# The lines of a text

Cut at its line feeds, a text has a first line and a line behind each line feed.
What a line begins with is what comes behind its line feed, so that a statement on
the beginnings of lines is one on the text as a whole
(`forall_mem_lines_prefix_iff`, `forall_mem_lines_not_prefix_iff`).

`Text.lines` leaves out an empty last line and a carriage return in front of a line
feed.  A line holds no line feed and is a part of the text
(`not_mem_of_mem_lines`, `infix_of_mem_lines`), and a part of the text without line
ends is on one line (`infix_iff_exists_mem_lines`).
-/

namespace ForumPost

namespace Text

/-- The first line goes up to the first line feed. -/
theorem head?_splitOn (text : Text) :
    (text.splitOn '\n').head? = some (text.takeWhile (· != '\n')) := by
  induction text with
  | nil => rfl
  | cons c rest ih =>
    rw [List.splitOn_cons_eq_if_modifyHead]
    by_cases hc : c = '\n'
    · simp [hc]
    · simp [hc, List.head?_modifyHead, ih]

/-- The other lines are those behind the line feeds. -/
theorem forall_mem_tail_splitOn_iff (p : Text → Prop) (text : Text) :
    (∀ line ∈ (text.splitOn '\n').tail, p line) ↔
      ∀ back, '\n' :: back <:+ text → p (back.takeWhile (· != '\n')) := by
  induction text with
  | nil => simp
  | cons c rest ih =>
    simp only [List.suffix_cons_iff, or_imp, forall_and]
    rw [List.splitOn_cons_eq_if_modifyHead]
    by_cases hc : c = '\n'
    · obtain ⟨line, lines, hlines⟩ := List.exists_cons_of_ne_nil (List.splitOn_ne_nil '\n' rest)
      have hline : line = rest.takeWhile (· != '\n') := by
        have hhead := head?_splitOn rest
        rw [hlines] at hhead
        exact Option.some.inj hhead
      rw [hlines, List.tail_cons] at ih
      simp [hc, hlines, hline, ih]
    · simp [hc, ih, Ne.symm hc]

theorem singleton_prefix_iff {c : Char} {text : Text} : [c] <+: text ↔ text.head? = some c := by
  cases text with
  | nil => simp
  | cons first rest => simp [List.cons_prefix_cons, eq_comm]

/-- A line begins like what comes behind its line feed. -/
theorem prefix_takeWhile_iff {start : Text} (hstart : '\n' ∉ start) {text : Text} :
    start <+: text.takeWhile (· != '\n') ↔ start <+: text := by
  constructor
  · intro hstarts
    exact hstarts.trans (List.takeWhile_prefix _)
  · rintro ⟨rest, rfl⟩
    rw [List.takeWhile_append_of_pos]
    · exact List.prefix_append _ _
    · intro c hc
      simpa using fun heq : c = '\n' => hstart (heq ▸ hc)

/-- Every line begins in a given way exactly if the text and what comes behind each
line feed do. -/
theorem forall_mem_lines_prefix_iff {start : Text} (hstart : '\n' ∉ start) {text : Text} :
    (∀ line ∈ text.splitOn '\n', start <+: line) ↔
      start <+: text ∧ ∀ back, '\n' :: back <:+ text → start <+: back := by
  have htail := forall_mem_tail_splitOn_iff (start <+: ·) text
  obtain ⟨line, lines, hlines⟩ := List.exists_cons_of_ne_nil (List.splitOn_ne_nil '\n' text)
  have hhead := head?_splitOn text
  rw [hlines, List.head?_cons, Option.some.injEq] at hhead
  rw [hlines, List.tail_cons] at htail
  rw [hlines, List.forall_mem_cons, htail, hhead, prefix_takeWhile_iff hstart]
  simp only [prefix_takeWhile_iff hstart]

/-- No line but the first begins in a given way exactly if that does not come behind
any line feed. -/
theorem forall_mem_lines_not_prefix_iff {start : Text} (hstart : '\n' ∉ start) {text : Text} :
    (∀ line ∈ (text.splitOn '\n').tail, ¬ start <+: line) ↔ ¬ '\n' :: start <:+: text := by
  rw [forall_mem_tail_splitOn_iff (¬ start <+: ·) text]
  simp only [prefix_takeWhile_iff hstart]
  constructor
  · rintro hlines ⟨front, back, rfl⟩
    exact hlines (start ++ back) ⟨front, by simp⟩ (List.prefix_append _ _)
  · rintro hoccurs back ⟨front, rfl⟩ ⟨rest, rfl⟩
    exact hoccurs ⟨front, rest, by simp⟩

/-! ## Lines without their ends -/

/-- Growing the first piece leaves the others. -/
theorem growFirst_eq (c : Char) (pieces : List Text) :
    growFirst c pieces = (c :: pieces.headD []) :: pieces.tail := by
  cases pieces <;> rfl

/-- The first line is at the front of the text. -/
theorem headD_lines_prefix (text : Text) : (lines text).headD [] <+: text := by
  induction text using lines.induct with
  | case1 => exact List.prefix_refl []
  | case2 rest _ => exact List.nil_prefix
  | case3 rest _ => exact List.nil_prefix
  | case4 c rest hfeed hreturn ih =>
    rw [lines.eq_4 _ _ hfeed hreturn, growFirst_eq, List.headD_cons, List.cons_prefix_cons]
    exact ⟨rfl, ih⟩

/-- A line is a part of the text. -/
theorem infix_of_mem_lines {line text : Text} (hline : line ∈ lines text) : line <:+: text := by
  induction text using lines.induct generalizing line with
  | case1 => simp [lines] at hline
  | case2 rest ih =>
    rcases List.mem_cons.mp hline with rfl | hrest
    · exact List.nil_infix
    · exact List.infix_cons (ih hrest)
  | case3 rest ih =>
    rcases List.mem_cons.mp hline with rfl | hrest
    · exact List.nil_infix
    · exact List.infix_cons (List.infix_cons (ih hrest))
  | case4 c rest hfeed hreturn ih =>
    rw [lines.eq_4 _ _ hfeed hreturn, growFirst_eq, List.mem_cons] at hline
    rcases hline with rfl | hrest
    · exact (List.cons_prefix_cons.mpr ⟨rfl, headD_lines_prefix rest⟩).isInfix
    · exact List.infix_cons (ih (List.mem_of_mem_tail hrest))

theorem mem_of_mem_lines {c : Char} {line text : Text} (hline : line ∈ lines text)
    (hc : c ∈ line) : c ∈ text :=
  (infix_of_mem_lines hline).subset hc

/-- It holds no line feed. -/
theorem not_mem_of_mem_lines {line text : Text} (hline : line ∈ lines text) : '\n' ∉ line := by
  induction text using lines.induct generalizing line with
  | case1 => simp [lines] at hline
  | case2 rest ih =>
    rcases List.mem_cons.mp hline with rfl | hrest
    · exact List.not_mem_nil
    · exact ih hrest
  | case3 rest ih =>
    rcases List.mem_cons.mp hline with rfl | hrest
    · exact List.not_mem_nil
    · exact ih hrest
  | case4 c rest hfeed hreturn ih =>
    rw [lines.eq_4 _ _ hfeed hreturn, growFirst_eq, List.mem_cons] at hline
    rcases hline with rfl | hrest
    · refine List.not_mem_cons_of_ne_of_not_mem (fun heq => hfeed heq.symm) ?_
      cases hlines : lines rest with
      | nil => exact List.not_mem_nil
      | cons first others => exact ih (by rw [hlines]; exact List.mem_cons_self ..)
    · exact ih (List.mem_of_mem_tail hrest)

/-- A text without line feeds is its only line. -/
theorem lines_eq_singleton {text : Text} (hne : text ≠ []) (hmem : '\n' ∉ text) :
    lines text = [text] := by
  induction text with
  | nil => exact absurd rfl hne
  | cons c rest ih =>
    have hfeed : c ≠ '\n' := fun heq => hmem (heq ▸ List.mem_cons_self ..)
    have hrest : '\n' ∉ rest := fun hrest => hmem (List.mem_cons_of_mem c hrest)
    have hreturn : ∀ more, c = '\r' → rest = '\n' :: more → False := by
      rintro more - rfl
      exact hrest (List.mem_cons_self ..)
    rw [lines.eq_4 _ _ hfeed hreturn]
    cases rest with
    | nil => rfl
    | cons d more => rw [ih (List.cons_ne_nil d more) hrest, growFirst]

section Unbroken

variable {part : Text} (hfeed : '\n' ∉ part) (hreturn : '\r' ∉ part)
include hfeed hreturn

/-- What is at the front of a text and has no line ends in it is on the first line. -/
theorem prefix_headD_lines {text : Text} (hpart : part <+: text) :
    part <+: (lines text).headD [] := by
  induction text using lines.induct generalizing part with
  | case1 => exact hpart
  | case2 rest _ =>
    cases part with
    | nil => exact List.nil_prefix
    | cons c more =>
      exact absurd (List.cons_prefix_cons.mp hpart).1 (List.ne_of_not_mem_cons hfeed).symm
  | case3 rest _ =>
    cases part with
    | nil => exact List.nil_prefix
    | cons c more =>
      exact absurd (List.cons_prefix_cons.mp hpart).1 (List.ne_of_not_mem_cons hreturn).symm
  | case4 c rest hc hcr ih =>
    rw [lines.eq_4 _ _ hc hcr, growFirst_eq, List.headD_cons]
    cases part with
    | nil => exact List.nil_prefix
    | cons d more =>
      obtain ⟨hd, hmore⟩ := List.cons_prefix_cons.mp hpart
      exact List.cons_prefix_cons.mpr ⟨hd, ih (List.not_mem_of_not_mem_cons hfeed)
        (List.not_mem_of_not_mem_cons hreturn) hmore⟩

/-- What is a part of a text and has no line ends in it is on one line. -/
theorem infix_iff_exists_mem_lines (hne : part ≠ []) {text : Text} :
    part <:+: text ↔ ∃ line ∈ lines text, part <:+: line := by
  refine ⟨fun hpart => ?_, fun ⟨line, hline, hpart⟩ => hpart.trans (infix_of_mem_lines hline)⟩
  induction text using lines.induct with
  | case1 => exact absurd (List.infix_nil.mp hpart) hne
  | case2 rest ih =>
    rcases List.infix_cons_iff.mp hpart with hfront | hrest
    · exact ⟨[], List.mem_cons_self .., (prefix_headD_lines hfeed hreturn hfront).isInfix⟩
    · obtain ⟨line, hline, hinside⟩ := ih hrest
      exact ⟨line, List.mem_cons_of_mem _ hline, hinside⟩
  | case3 rest ih =>
    rcases List.infix_cons_iff.mp hpart with hfront | hbehind
    · exact ⟨[], List.mem_cons_self .., (prefix_headD_lines hfeed hreturn hfront).isInfix⟩
    · rcases List.infix_cons_iff.mp hbehind with hfront | hrest
      · exact ⟨[], List.mem_cons_self .., (prefix_headD_lines hfeed hreturn hfront).isInfix⟩
      · obtain ⟨line, hline, hinside⟩ := ih hrest
        exact ⟨line, List.mem_cons_of_mem _ hline, hinside⟩
  | case4 c rest hc hcr ih =>
    have hlines := lines.eq_4 c rest hc hcr
    rw [growFirst_eq] at hlines
    rw [hlines]
    rcases List.infix_cons_iff.mp hpart with hfront | hrest
    · have hfirst := prefix_headD_lines hfeed hreturn hfront
      rw [hlines] at hfirst
      exact ⟨_, List.mem_cons_self .., hfirst.isInfix⟩
    · obtain ⟨line, hline, hinside⟩ := ih hrest
      cases hothers : lines rest with
      | nil => simp [hothers] at hline
      | cons first others =>
        rw [hothers] at hline
        rcases List.mem_cons.mp hline with rfl | hline
        · exact ⟨_, List.mem_cons_self .., List.infix_cons hinside⟩
        · exact ⟨line, List.mem_cons_of_mem _ hline, hinside⟩

end Unbroken

end Text

end ForumPost
