import ForumPost.Markup.Reddit
import ForumPost.Proofs.Lookup
import ForumPost.Proofs.Text.Compact
import ForumPost.Proofs.Text.Lines

/-!
# The lines of a quotation

A quotation puts one mark in front of each of its parts, and one on the line in
between.  The lines inside of a part get no mark.  So a line of a quotation begins
with marks for two reasons only: it is the first one of a part, or it did so
before.

* `keepsQuote` says whether a text brings its own marks behind each line feed.  It
  goes through what is put around texts and between them (`keepsQuote_append`), as
  long as no mark stands at the border.
* A quotation brings its own marks if its parts do, but on the line between two
  parts there is one mark and no more (`keepsQuote_quotation`).
* `quotedLines` are the lines of a quotation together with the number of quotations
  that each of them stands in, and `forall_mem_quotedLines_iff` says when each line
  has that many marks.
-/

namespace ForumPost

namespace Reddit

/-- The marks in front of a line that stands in a number of quotations. -/
def quoteMarks (depth : Nat) : Text :=
  List.replicate depth '>'

/-- Do the marks of a number of quotations stand behind each line feed of a text? -/
def keepsQuote (depth : Nat) : Text → Bool
  | [] => true
  | c :: rest => (c != '\n' || (quoteMarks depth).isPrefixOf rest) && keepsQuote depth rest

/-! ## Marks behind line feeds -/

section Marks

variable {depth : Nat}

theorem not_mem_quoteMarks : '\n' ∉ quoteMarks depth := by
  simp [quoteMarks]

theorem quoteMarks_succ_prefix_cons {c : Char} {text : Text} :
    quoteMarks (depth + 1) <+: c :: text ↔ c = '>' ∧ quoteMarks depth <+: text := by
  rw [quoteMarks, List.replicate_succ, List.cons_prefix_cons, eq_comm]
  rfl

/-- Marks do not go on behind a text if none stands at the border. -/
theorem quoteMarks_prefix_append_iff {first second : Text} (hnext : second.head? ≠ some '>') :
    quoteMarks depth <+: first ++ second ↔ quoteMarks depth <+: first := by
  induction depth generalizing first with
  | zero => simp [quoteMarks]
  | succ depth ih =>
    cases first with
    | nil =>
      cases second with
      | nil => rfl
      | cons c rest =>
        have hc : c ≠ '>' := fun heq => hnext (congrArg some heq)
        have hnil : ¬ quoteMarks (depth + 1) <+: [] := by simp [quoteMarks, List.replicate_succ]
        rw [List.nil_append, quoteMarks_succ_prefix_cons]
        exact iff_of_false (fun hmarks => hc hmarks.1) hnil
    | cons c rest =>
      rw [List.cons_append, quoteMarks_succ_prefix_cons, quoteMarks_succ_prefix_cons, ih]

theorem keepsQuote_cons_iff {c : Char} {rest : Text} :
    keepsQuote depth (c :: rest) = true ↔
      (c = '\n' → quoteMarks depth <+: rest) ∧ keepsQuote depth rest = true := by
  rw [keepsQuote, Bool.and_eq_true, Bool.or_eq_true, List.isPrefixOf_iff_prefix, bne_iff_ne,
    ← imp_iff_not_or]

theorem keepsQuote_iff {text : Text} :
    keepsQuote depth text = true ↔ ∀ back, '\n' :: back <:+ text → quoteMarks depth <+: back := by
  induction text with
  | nil => simp [keepsQuote]
  | cons c rest ih =>
    simp only [keepsQuote_cons_iff, ih, List.suffix_cons_iff, List.cons.injEq, or_imp, forall_and]
    refine and_congr_left fun _ => ⟨?_, fun hback hc => hback rest ⟨hc.symm, rfl⟩⟩
    rintro hc back ⟨rfl, rfl⟩
    exact hc rfl

/-- Every line of a text has its marks exactly if the text begins with them and keeps
them behind its line feeds. -/
theorem forall_mem_lines_quoted_iff {text : Text} :
    (∀ line ∈ text.splitOn '\n', quoteMarks depth <+: line) ↔
      quoteMarks depth <+: text ∧ keepsQuote depth text = true := by
  rw [Text.forall_mem_lines_prefix_iff not_mem_quoteMarks, keepsQuote_iff]

/-- Two texts keep the marks one by one, if no mark stands at the border. -/
theorem keepsQuote_append {first second : Text} (hnext : second.head? ≠ some '>') :
    keepsQuote depth (first ++ second) = (keepsQuote depth first && keepsQuote depth second) := by
  induction first with
  | nil => rfl
  | cons c rest ih =>
    rw [Bool.eq_iff_iff, List.cons_append, Bool.and_eq_true, keepsQuote_cons_iff,
      keepsQuote_cons_iff, ih, quoteMarks_prefix_append_iff hnext, Bool.and_eq_true, and_assoc]

/-- A text that is a single line has no line feed to keep marks behind. -/
theorem keepsQuote_of_not_mem {text : Text} (hmem : '\n' ∉ text) :
    keepsQuote depth text = true := by
  rw [keepsQuote_iff]
  rintro back ⟨front, rfl⟩
  simp at hmem

theorem keepsQuote_append_of_not_mem {first : Text} (hmem : '\n' ∉ first) (second : Text) :
    keepsQuote depth (first ++ second) = keepsQuote depth second := by
  induction first with
  | nil => rfl
  | cons c rest ih =>
    rw [List.mem_cons, not_or] at hmem
    rw [Bool.eq_iff_iff, List.cons_append, keepsQuote_cons_iff, ih hmem.2]
    simp [Ne.symm hmem.1]

/-- Whatever stands behind a text, the marks of the text itself count. -/
theorem keepsQuote_between_of_not_mem {opening closing : Text} (hopening : '\n' ∉ opening)
    (hclosing : '\n' ∉ closing) (hnext : closing.head? ≠ some '>') (text : Text) :
    keepsQuote depth (opening ++ text ++ closing) = keepsQuote depth text := by
  rw [keepsQuote_append hnext, keepsQuote_append_of_not_mem hopening,
    keepsQuote_of_not_mem hclosing, Bool.and_true]

/-- A line feed with any other character behind it has no mark. -/
theorem keepsQuote_eq_false {text : Text} {c : Char} (hc : c ≠ '>')
    (hoccurs : ['\n', c] <:+: text) : keepsQuote (depth + 1) text = false := by
  obtain ⟨front, back, rfl⟩ := hoccurs
  refine eq_false_of_ne_true fun hkeeps => ?_
  have hmarks := keepsQuote_iff.mp hkeeps (c :: back) ⟨front, by simp⟩
  exact hc (quoteMarks_succ_prefix_cons.mp hmarks).1

/-! ## Marks in markup -/

theorem quoteMarks_prefix_escape_iff {text : Text} :
    quoteMarks depth <+: escape text ↔ quoteMarks depth <+: text := by
  induction depth generalizing text with
  | zero => simp [quoteMarks]
  | succ depth ih =>
    cases text with
    | nil => rfl
    | cons c rest =>
      rw [escape_cons, quoteMarks_succ_prefix_cons]
      by_cases hsigil : isSigil c = true
      · -- A sigil is no mark, and neither is the backslash in front of it.
        have hc : c ≠ '>' := by
          rintro rfl
          exact absurd hsigil (by decide)
        rw [if_pos hsigil, List.cons_append, quoteMarks_succ_prefix_cons]
        exact iff_of_false (fun hmarks => absurd hmarks.1 (by decide)) fun hmarks => hc hmarks.1
      · rw [if_neg hsigil, List.singleton_append, quoteMarks_succ_prefix_cons, ih]

@[simp] theorem keepsQuote_escape (text : Text) :
    keepsQuote depth (escape text) = keepsQuote depth text := by
  induction text with
  | nil => rfl
  | cons c rest ih =>
    rw [escape_cons]
    by_cases hsigil : isSigil c = true
    · have hc : c ≠ '\n' := by
        rintro rfl
        exact absurd hsigil (by decide)
      have hchars : '\n' ∉ ['\\', c] := by simp [Ne.symm hc]
      have hchar : '\n' ∉ [c] := by simp [Ne.symm hc]
      rw [if_pos hsigil, keepsQuote_append_of_not_mem hchars, ih, ← List.singleton_append,
        keepsQuote_append_of_not_mem hchar]
    · rw [if_neg hsigil, List.singleton_append, Bool.eq_iff_iff, keepsQuote_cons_iff,
        keepsQuote_cons_iff, quoteMarks_prefix_escape_iff, ih]

theorem keepsQuote_between {mark : String} (hfeed : '\n' ∉ mark.toList)
    (hnext : mark.toList.head? ≠ some '>') (text : Text) :
    keepsQuote depth (between mark text) = keepsQuote depth text :=
  keepsQuote_between_of_not_mem hfeed hfeed hnext text

theorem keepsQuote_newThought (text : Text) :
    keepsQuote depth (newThought text) = keepsQuote depth text := by
  rw [newThought, keepsQuote_between (by decide) (by decide), keepsQuote_escape]

theorem keepsQuote_link (url text : Text) :
    keepsQuote depth (link url text) = (keepsQuote depth text && keepsQuote depth url) := by
  have hlink : link url text = "[".toList ++ escape text ++ ("](".toList ++ url ++ ")".toList) := by
    simp [link, plainLink]
  have hnext : ("](".toList ++ url ++ ")".toList).head? ≠ some '>' := by simp
  rw [hlink, keepsQuote_append hnext, keepsQuote_append_of_not_mem (by decide), keepsQuote_escape,
    keepsQuote_between_of_not_mem (by decide) (by decide) (by decide)]

theorem keepsQuote_heading {level : Nat} {text written : Text}
    (hwritten : heading? level text = some written) :
    keepsQuote depth written = keepsQuote depth text := by
  unfold heading? at hwritten
  split at hwritten
  · rw [← Option.some.inj hwritten, keepsQuote_append_of_not_mem (by decide), keepsQuote_escape]
  · rw [← Option.some.inj hwritten, keepsQuote_append_of_not_mem (by decide), keepsQuote_escape]
  · rw [← Option.some.inj hwritten, keepsQuote_between (by decide) (by decide), keepsQuote_escape]
  · rw [← Option.some.inj hwritten, keepsQuote_between (by decide) (by decide), keepsQuote_escape]
  · cases hwritten

theorem keepsQuote_inline {tag text written : Text} (hwritten : inline? tag text = some written) :
    keepsQuote depth written = keepsQuote depth text := by
  obtain ⟨mark, hmark, rfl⟩ := Option.map_eq_some_iff.mp hwritten
  have hmarks : ∀ entry ∈ marks, '\n' ∉ entry.2.toList ∧ entry.2.toList.head? ≠ some '>' := by
    decide
  obtain ⟨hfeed, hnext⟩ := hmarks _ (mem_of_lookup_eq_some hmark)
  rw [keepsQuote_between hfeed hnext, keepsQuote_escape]

theorem keepsQuote_joined (parts : List Text) :
    keepsQuote depth (Text.join " ".toList parts) = parts.all (keepsQuote depth) := by
  induction parts with
  | nil => rfl
  | cons first rest ih =>
    cases rest with
    | nil => simp
    | cons second others =>
      have hnext (behind : Text) : (" ".toList ++ behind).head? ≠ some '>' := by simp
      rw [Text.join_cons_cons, List.append_assoc, keepsQuote_append (hnext _),
        keepsQuote_append_of_not_mem (by decide), ih]
      rfl

theorem keepsQuote_sidenote (parts : List Text) :
    keepsQuote depth (sidenote parts) = parts.all (keepsQuote depth) := by
  unfold sidenote
  dsimp only
  rw [keepsQuote_between_of_not_mem (by decide) (by decide) (by decide)]
  cases parts with
  | nil => rfl
  | cons first rest =>
    dsimp only
    rw [keepsQuote_joined, List.all_cons, keepsQuote_append_of_not_mem (by decide), List.all_cons]

/-! ## Quotations in quotations -/

theorem quotation_singleton (part : Text) : quotation [part] = '>' :: part := by
  rw [quotation, List.map_singleton, Text.join_singleton]

theorem quotation_cons_cons (first second : Text) (rest : List Text) :
    quotation (first :: second :: rest) =
      '>' :: first ++ '\n' :: '>' :: '\n' :: quotation (second :: rest) := by
  rw [quotation, List.map_cons, List.map_cons, Text.join_cons_cons, List.append_assoc]
  rfl

theorem quotation_cons (first : Text) (rest : List Text) :
    ∃ behind, quotation (first :: rest) = '>' :: first ++ behind := by
  cases rest with
  | nil => exact ⟨[], by rw [quotation_singleton, List.append_nil]⟩
  | cons second others => exact ⟨_, quotation_cons_cons first second others⟩

/-- The mark in front of a part is on the line of the mark, so that only the lines
behind it need marks of their own. -/
theorem keepsQuote_mark (part : Text) : keepsQuote depth ('>' :: part) = keepsQuote depth part := by
  have hfeed : '\n' ∉ ['>'] := by decide
  exact keepsQuote_append_of_not_mem hfeed part

/-- A quotation keeps the marks if its parts do.  Between two parts there is one
mark, so that more than one mark is kept by a single part only. -/
theorem keepsQuote_quotation_iff {parts : List Text} :
    keepsQuote (depth + 1) (quotation parts) = true ↔
      (depth = 0 ∨ parts.length ≤ 1) ∧ ∀ part ∈ parts, keepsQuote (depth + 1) part = true := by
  induction parts with
  | nil => simp [quotation, keepsQuote]
  | cons first rest ih =>
    cases rest with
    | nil => simp [quotation_singleton, keepsQuote_mark]
    | cons second others =>
      have hempty : quoteMarks depth <+: '\n' :: quotation (second :: others) ↔ depth = 0 := by
        cases depth with
        | zero => simp [quoteMarks]
        | succ depth => simp [quoteMarks_succ_prefix_cons]
      have hlength : ¬ (first :: second :: others).length ≤ 1 := by simp
      rw [quotation_cons_cons, keepsQuote_append (by simp), Bool.and_eq_true, keepsQuote_mark,
        keepsQuote_cons_iff, keepsQuote_cons_iff, keepsQuote_cons_iff, ih,
        quoteMarks_succ_prefix_cons, hempty, or_iff_left hlength]
      constructor
      · rintro ⟨hfirst, hdepth, -, -, -, hrest⟩
        exact ⟨(hdepth rfl).2, List.forall_mem_cons.mpr ⟨hfirst, hrest⟩⟩
      · rintro ⟨rfl, hall⟩
        obtain ⟨hfirst, hrest⟩ := List.forall_mem_cons.mp hall
        obtain ⟨behind, hbehind⟩ := quotation_cons second others
        refine ⟨hfirst, fun _ => ⟨rfl, rfl⟩, fun hc => absurd hc (by decide), fun _ => ?_, .inl rfl,
          hrest⟩
        rw [hbehind]
        exact List.prefix_append ['>'] _

/-! ## Lines in quotations -/

/-- The lines of a text that is no quotation. -/
def plainLines (text : Text) : List (Nat × Text) :=
  (text.splitOn '\n').map (0, ·)

/-- The lines of a part of a quotation.  Each of them stands in one quotation more,
and the first one gets a mark. -/
def partLines : List (Nat × Text) → List (Nat × Text)
  | [] => []
  | first :: rest => (first.1 + 1, '>' :: first.2) :: rest.map fun line => (line.1 + 1, line.2)

/-- The lines of a quotation, from the lines of its parts. -/
def quotedLines : List (List (Nat × Text)) → List (Nat × Text)
  | [] => [(0, [])]
  | [part] => partLines part
  | part :: second :: rest => partLines part ++ (1, ['>']) :: quotedLines (second :: rest)

/-- Has the first line as many marks as it stands in quotations? -/
def FirstMarked (lines : List (Nat × Text)) : Prop :=
  ∃ first rest, lines = first :: rest ∧ quoteMarks first.1 <+: first.2

/-- Have the other lines as many marks, with further quotations around all of
them? -/
def OthersMarked (further : Nat) (lines : List (Nat × Text)) : Prop :=
  ∀ line ∈ lines.tail, quoteMarks (line.1 + further) <+: line.2

theorem forall_marked_iff {lines : List (Nat × Text)} (hfirst : FirstMarked lines) :
    (∀ line ∈ lines, quoteMarks line.1 <+: line.2) ↔ OthersMarked 0 lines := by
  obtain ⟨first, rest, rfl, hmarks⟩ := hfirst
  rw [List.forall_mem_cons, and_iff_right hmarks]
  rfl

theorem firstMarked_plainLines (text : Text) : FirstMarked (plainLines text) := by
  obtain ⟨first, rest, hlines⟩ := List.exists_cons_of_ne_nil (List.splitOn_ne_nil '\n' text)
  exact ⟨(0, first), rest.map (0, ·), by rw [plainLines, hlines]; rfl, List.nil_prefix⟩

theorem othersMarked_plainLines_iff {text : Text} :
    OthersMarked depth (plainLines text) ↔ keepsQuote depth text = true := by
  have htail := Text.forall_mem_tail_splitOn_iff (quoteMarks depth <+: ·) text
  simp only [Text.prefix_takeWhile_iff not_mem_quoteMarks] at htail
  rw [keepsQuote_iff, ← htail, OthersMarked, plainLines, ← List.map_tail, List.forall_mem_map]
  simp only [Nat.zero_add]

theorem firstMarked_partLines {lines : List (Nat × Text)} (hfirst : FirstMarked lines) :
    FirstMarked (partLines lines) := by
  obtain ⟨first, rest, rfl, hmarks⟩ := hfirst
  exact ⟨_, _, rfl, quoteMarks_succ_prefix_cons.mpr ⟨rfl, hmarks⟩⟩

theorem othersMarked_partLines_iff {lines : List (Nat × Text)} :
    OthersMarked depth (partLines lines) ↔ OthersMarked (depth + 1) lines := by
  cases lines with
  | nil => simp [OthersMarked, partLines]
  | cons first rest =>
    simp only [OthersMarked, partLines, List.tail_cons, List.forall_mem_map, Nat.add_assoc,
      Nat.add_comm 1 depth]

theorem firstMarked_quotedLines {parts : List (List (Nat × Text))}
    (hparts : ∀ part ∈ parts, FirstMarked part) : FirstMarked (quotedLines parts) := by
  cases parts with
  | nil => exact ⟨(0, []), [], rfl, List.nil_prefix⟩
  | cons part rest =>
    have hpart := firstMarked_partLines (hparts part (List.mem_cons_self ..))
    cases rest with
    | nil => exact hpart
    | cons second others =>
      obtain ⟨first, more, hlines, hmarks⟩ := hpart
      refine ⟨first, more ++ (1, ['>']) :: quotedLines (second :: others), ?_, hmarks⟩
      rw [quotedLines, hlines, List.cons_append]

/-- Between two parts there is one mark.  So the lines of a quotation have the marks
of further quotations only if it has a single part. -/
theorem othersMarked_quotedLines_iff {parts : List (List (Nat × Text))}
    (hparts : ∀ part ∈ parts, FirstMarked part) :
    OthersMarked depth (quotedLines parts) ↔
      (depth = 0 ∨ parts.length ≤ 1) ∧ ∀ part ∈ parts, OthersMarked (depth + 1) part := by
  induction parts with
  | nil => simp [OthersMarked, quotedLines]
  | cons part rest ih =>
    obtain ⟨hpart, hrest⟩ := List.forall_mem_cons.mp hparts
    cases rest with
    | nil => simp [quotedLines, othersMarked_partLines_iff]
    | cons second others =>
      have hlength : ¬ (part :: second :: others).length ≤ 1 := by simp
      have hmark : quoteMarks (1 + depth) <+: ['>'] ↔ depth = 0 := by
        rw [Nat.add_comm, quoteMarks_succ_prefix_cons, and_iff_right rfl]
        cases depth <;> simp [quoteMarks, List.replicate_succ]
      obtain ⟨first, more, hlines, -⟩ := firstMarked_partLines hpart
      obtain ⟨next, others', hnext, hnextMarks⟩ := firstMarked_quotedLines hrest
      have hsplit : OthersMarked depth (quotedLines (part :: second :: others)) ↔
          OthersMarked depth (partLines part) ∧ depth = 0 ∧
            quoteMarks (next.1 + depth) <+: next.2 ∧
              OthersMarked depth (quotedLines (second :: others)) := by
        rw [quotedLines, OthersMarked, OthersMarked, OthersMarked, hlines, hnext, List.cons_append,
          List.tail_cons, List.forall_mem_append, List.forall_mem_cons, List.forall_mem_cons, hmark]
        rfl
      rw [hsplit, othersMarked_partLines_iff, ih hrest, or_iff_left hlength]
      constructor
      · rintro ⟨hfirst, hdepth, -, -, hbelow⟩
        exact ⟨hdepth, List.forall_mem_cons.mpr ⟨hfirst, hbelow⟩⟩
      · rintro ⟨rfl, hall⟩
        obtain ⟨hfirst, hbelow⟩ := List.forall_mem_cons.mp hall
        exact ⟨hfirst, rfl, hnextMarks, .inl rfl, hbelow⟩

theorem texts_plainLines (text : Text) : (plainLines text).map Prod.snd = text.splitOn '\n' := by
  rw [plainLines, List.map_map]
  exact List.map_id _

/-- The lines of a text with a mark in front. -/
theorem texts_partLines {lines : List (Nat × Text)} {part : Text}
    (hlines : lines.map Prod.snd = part.splitOn '\n') :
    (partLines lines).map Prod.snd = ('>' :: part).splitOn '\n' := by
  rw [List.splitOn_cons_eq_if_modifyHead, if_neg (by decide), ← hlines]
  cases lines with
  | nil => rfl
  | cons first rest => simp [partLines]

/-- The lines of a quotation are the lines that its text is cut into. -/
theorem texts_quotedLines {lines : List (List (Nat × Text))} {parts : List Text}
    (hlines : lines.map (List.map Prod.snd) = parts.map (List.splitOn '\n')) :
    (quotedLines lines).map Prod.snd = (quotation parts).splitOn '\n' := by
  induction lines generalizing parts with
  | nil =>
    cases parts with
    | nil => rfl
    | cons part rest => cases hlines
  | cons first rest ih =>
    cases parts with
    | nil => cases hlines
    | cons part others =>
      rw [List.map_cons, List.map_cons, List.cons.injEq] at hlines
      have hfirst := texts_partLines hlines.1
      cases rest with
      | nil =>
        obtain rfl : others = [] := List.map_eq_nil_iff.mp hlines.2.symm
        rw [quotedLines, hfirst, quotation_singleton]
      | cons second rest =>
        cases others with
        | nil => cases hlines.2
        | cons next others =>
          have hfeed : '\n' ∉ ['>'] := by decide
          have hmark : ('>' :: '\n' :: quotation (next :: others)).splitOn '\n' =
              ['>'] :: (quotation (next :: others)).splitOn '\n' :=
            List.splitOn_append_cons_self_of_not_mem hfeed _
          rw [quotedLines, List.map_append, List.map_cons, hfirst, ih hlines.2,
            quotation_cons_cons, List.splitOn_append_cons_self, hmark]

end Marks

end Reddit

end ForumPost
