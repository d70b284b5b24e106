import Mathlib.Algebra.Ring.Parity
import Mathlib.Data.List.Induction
import ForumPost.Markup.Reddit
import ForumPost.Proofs.Lookup

/-!
# Sigils behind backslashes

In Markdown a backslash takes the meaning off the character behind it, another
backslash included.  Whether a sigil is read as markup thus hangs on the run of
backslashes that ends right in front of it: behind an odd run it stands for
itself (`mem_sigils_iff`).

`escape` puts a backslash in front of each sigil and leaves the backslashes of
the text alone.  Every run in front of a sigil grows by one, so that every sigil
is read the other way round (`sigils_escape`).  Escaping keeps the sigils of a
text from being read as markup exactly if none of them stood behind an odd run
before, and the same is true of whatever the escaped text is a part of
(`escape_neutral_iff`).
-/

namespace ForumPost

namespace Reddit

/-- The length of the run of backslashes at the end of a text. -/
def backslashRun (text : Text) : Nat :=
  (text.reverse.takeWhile (· == '\\')).length

/-- Has every sigil of a text a run of backslashes of such a length in front of
it? -/
def SigilsBehind (p : Nat → Prop) (text : Text) : Prop :=
  ∀ front c back, text = front ++ c :: back → isSigil c = true → p (backslashRun front)

/-- The sigils of a text in the order in which they are read, each with the
answer whether it is escaped.  `escaped` is the answer for the first character.

A backslash in front of a letter stands for itself, and the letter is not
escaped.  There is no need to tell this case apart, since what is skipped then
is neither a sigil nor a backslash. -/
def sigils (escaped : Bool) : Text → List (Char × Bool)
  | [] => []
  | c :: rest =>
    let below := sigils (c == '\\' && !escaped) rest
    if isSigil c then (c, escaped) :: below else below

/-! ## Runs of backslashes -/

@[simp] theorem backslashRun_nil : backslashRun [] = 0 := rfl

theorem backslashRun_concat (text : Text) (c : Char) :
    backslashRun (text ++ [c]) = if c = '\\' then backslashRun text + 1 else 0 := by
  by_cases hc : c = '\\' <;> simp [backslashRun, hc]

/-- A run does not go on into a text without backslashes. -/
theorem backslashRun_append {opening : Text} (hopening : '\\' ∉ opening) (text : Text) :
    backslashRun (opening ++ text) = backslashRun text := by
  induction text using List.reverseRecOn with
  | nil =>
    cases opening using List.reverseRecOn with
    | nil => rfl
    | append_singleton front c =>
      have hc : c ≠ '\\' := by
        rintro rfl
        simp at hopening
      rw [List.append_nil, backslashRun_concat, if_neg hc, backslashRun_nil]
  | append_singleton front c ih =>
    rw [← List.append_assoc, backslashRun_concat, ih, backslashRun_concat]

/-! ## Reading -/

theorem sigils_cons (escaped : Bool) (c : Char) (rest : Text) :
    sigils escaped (c :: rest) = sigils escaped [c] ++ sigils (c == '\\' && !escaped) rest := by
  by_cases hc : isSigil c = true <;> simp [sigils, hc]

/-- Behind a text, a character is escaped exactly if the text ends in an odd run
of backslashes. -/
theorem sigils_append (front rest : Text) :
    sigils false (front ++ rest) =
      sigils false front ++ sigils (decide (Odd (backslashRun front))) rest := by
  induction front using List.reverseRecOn generalizing rest with
  | nil => rfl
  | append_singleton front c ih =>
    have hstate : decide (Odd (backslashRun (front ++ [c]))) =
        (c == '\\' && !decide (Odd (backslashRun front))) := by
      rw [backslashRun_concat]
      by_cases hc : c = '\\'
      · rw [if_pos hc, decide_eq_decide.mpr Nat.odd_add_one, decide_not]
        simp [hc]
      · simp [hc]
    rw [List.append_assoc, ih, ih, List.singleton_append, sigils_cons, hstate, List.append_assoc]

/-- A sigil is read as escaped exactly if it stands behind an odd run of
backslashes. -/
theorem mem_sigils_iff {c : Char} {escaped : Bool} {text : Text} :
    (c, escaped) ∈ sigils false text ↔
      ∃ front back, text = front ++ c :: back ∧ isSigil c = true ∧
        decide (Odd (backslashRun front)) = escaped := by
  constructor
  · intro hmem
    induction text using List.reverseRecOn with
    | nil => cases hmem
    | append_singleton front last ih =>
      rw [sigils_append, List.mem_append] at hmem
      rcases hmem with hfront | hlast
      · obtain ⟨before, back, rfl, hsigil, hescaped⟩ := ih hfront
        exact ⟨before, back ++ [last], by simp, hsigil, hescaped⟩
      · by_cases hsigil : isSigil last = true
        · obtain ⟨rfl, rfl⟩ : c = last ∧ escaped = _ := by simpa [sigils, hsigil] using hlast
          exact ⟨front, [], rfl, hsigil, rfl⟩
        · simp [sigils, hsigil] at hlast
  · rintro ⟨front, back, rfl, hsigil, rfl⟩
    rw [sigils_append, sigils_cons]
    simp [sigils, hsigil]

theorem sigilsBehind_iff (escaped : Bool) (text : Text) :
    SigilsBehind (fun run => decide (Odd run) = escaped) text ↔
      ∀ entry ∈ sigils false text, entry.2 = escaped := by
  constructor
  · rintro hbehind ⟨c, read⟩ hmem
    obtain ⟨front, back, htext, hsigil, hread⟩ := mem_sigils_iff.mp hmem
    rw [← hread]
    exact hbehind front c back htext hsigil
  · intro hall front c back htext hsigil
    exact hall _ (mem_sigils_iff.mpr ⟨front, back, htext, hsigil, rfl⟩)

theorem sigilsBehind_odd_iff {text : Text} :
    SigilsBehind Odd text ↔ ∀ entry ∈ sigils false text, entry.2 = true := by
  simpa using sigilsBehind_iff true text

theorem sigilsBehind_even_iff {text : Text} :
    SigilsBehind Even text ↔ ∀ entry ∈ sigils false text, entry.2 = false := by
  simpa using sigilsBehind_iff false text

/-! ## Reading what is escaped -/

theorem ne_backslash_of_isSigil {c : Char} (hsigil : isSigil c = true) : (c == '\\') = false := by
  rw [beq_eq_false_iff_ne]
  rintro rfl
  cases hsigil

/-- Every sigil of an escaped text is read the other way round. -/
theorem sigils_escape (escaped : Bool) (text : Text) :
    sigils escaped (escape text) = (sigils escaped text).map (Prod.map id not) := by
  induction text generalizing escaped with
  | nil => rfl
  | cons c rest ih =>
    rw [escape_cons]
    by_cases hsigil : isSigil c = true
    · -- The backslash is escaped or not, and the sigil behind it is not or is.
      have hbackslash : isSigil '\\' = false := rfl
      simp [sigils, hsigil, hbackslash, ne_backslash_of_isSigil hsigil, ih]
    · simp [sigils, hsigil, ih]

/-- What stands behind an escaped text is escaped if it would be so behind the
text. -/
theorem backslashRun_escape (text : Text) : backslashRun (escape text) = backslashRun text := by
  induction text using List.reverseRecOn with
  | nil => rfl
  | append_singleton front c ih =>
    rw [escape_append, escape_cons, backslashRun_concat]
    by_cases hsigil : isSigil c = true
    · have hc : c ≠ '\\' := beq_eq_false_iff_ne.mp (ne_backslash_of_isSigil hsigil)
      have hend : escape front ++ (['\\', c] ++ escape []) = (escape front ++ ['\\']) ++ [c] := by
        simp [escape]
      rw [if_pos hsigil, hend, backslashRun_concat, if_neg hc, if_neg hc]
    · have hend : escape front ++ ([c] ++ escape []) = escape front ++ [c] := by simp [escape]
      rw [if_neg hsigil, hend, backslashRun_concat, ih]

/-- The ways to write a text between marks, with its sigils escaped. -/
inductive Marked (text : Text) : Text → Prop where
  | heading {level : Nat} {written : Text} (hwritten : heading? level text = some written) :
    Marked text written
  | inline {tag written : Text} (hwritten : inline? tag text = some written) : Marked text written
  | link (url : Text) : Marked text (link url text)
  | newThought : Marked text (newThought text)
  | caption : Marked text (caption text)
  | tableFooter : Marked text (tableFooter text)

/-- No mark in front of a text holds a backslash. -/
theorem Marked.eq_enclosed {text written : Text} (hwritten : Marked text written) :
    ∃ opening closing, written = opening ++ escape text ++ closing ∧ '\\' ∉ opening := by
  have hbetween (mark : String) (hmark : '\\' ∉ mark.toList) :
      ∃ opening closing, between mark (escape text) = opening ++ escape text ++ closing ∧
        '\\' ∉ opening := ⟨mark.toList, mark.toList, rfl, hmark⟩
  have htop : ∃ opening closing, "# ".toList ++ escape text = opening ++ escape text ++ closing ∧
      '\\' ∉ opening := ⟨"# ".toList, [], (List.append_nil _).symm, by decide⟩
  cases hwritten with
  | heading hheading =>
    unfold heading? at hheading
    split at hheading
    · rwa [← Option.some.inj hheading]
    · rwa [← Option.some.inj hheading]
    · rw [← Option.some.inj hheading]
      exact hbetween "**" (by decide)
    · rw [← Option.some.inj hheading]
      exact hbetween "*" (by decide)
    · cases hheading
  | inline hinline =>
    obtain ⟨mark, hmark, rfl⟩ := Option.map_eq_some_iff.mp hinline
    have hmarks : ∀ entry ∈ marks, '\\' ∉ entry.2.toList := by decide
    exact hbetween mark (hmarks _ (mem_of_lookup_eq_some hmark))
  | link url =>
    refine ⟨"[".toList, "](".toList ++ url ++ ")".toList, ?_, by decide⟩
    simp [Reddit.link, plainLink]
  | newThought => exact hbetween "**" (by decide)
  | caption => exact hbetween "**" (by decide)
  | tableFooter => exact hbetween "*" (by decide)

/-- Escaping puts an odd run of backslashes in front of every sigil exactly if there
was an even one in front of each before, as in a text without backslashes.  Under the
same condition, and no other, every sigil of the escaped text is read as escaped.
Between marks the text is read as it is read alone, so that none of its sigils opens or
closes markup there under that condition.  What stands behind the text is escaped if
the text ends in an odd run. -/
theorem escape_neutral_iff (text : Text) :
    (SigilsBehind Odd (escape text) ↔ SigilsBehind Even text) ∧
    ((∀ entry ∈ sigils false (escape text), entry.2 = true) ↔ SigilsBehind Even text) ∧
    ('\\' ∉ text → SigilsBehind Even text) ∧
    ∀ written, Marked text written → ∃ opening closing,
      written = opening ++ escape text ++ closing ∧
      sigils false written =
        sigils false opening ++ sigils false (escape text) ++
          sigils (decide (Odd (backslashRun text))) closing := by
  have hflip : (∀ entry ∈ sigils false (escape text), entry.2 = true) ↔ SigilsBehind Even text := by
    rw [sigils_escape, sigilsBehind_even_iff, List.forall_mem_map]
    simp
  have hrun {front : Text} (hfront : '\\' ∉ front) : backslashRun front = 0 := by
    simpa using backslashRun_append hfront []
  refine ⟨sigilsBehind_odd_iff.trans hflip, hflip, ?_, ?_⟩
  · rintro hbackslash front c back rfl -
    rw [hrun fun hmem => hbackslash (List.mem_append_left _ hmem)]
    exact .zero
  · intro written hwritten
    obtain ⟨opening, closing, rfl, hopening⟩ := hwritten.eq_enclosed
    refine ⟨opening, closing, rfl, ?_⟩
    have hstart : decide (Odd (backslashRun opening)) = false := by
      rw [hrun hopening]
      decide
    rw [sigils_append, backslashRun_append hopening, backslashRun_escape, sigils_append, hstart]

/-- A caption with a sigil that stands free, and one behind two backslashes. -/
theorem escape_neutral_caption :
    let text := "a* \\\\#".toList
    SigilsBehind Even text ∧ SigilsBehind Odd (escape text) ∧
      ∃ opening closing, caption text = opening ++ escape text ++ closing ∧
        sigils false (caption text) =
          sigils false opening ++ [('*', true), ('#', true)] ++ sigils false closing := by
  intro text
  obtain ⟨hodd, -, -, hmarked⟩ := escape_neutral_iff text
  have heven : SigilsBehind Even text := by
    rw [sigilsBehind_even_iff]
    decide
  have hread : sigils false (escape text) = [('*', true), ('#', true)] := by decide
  have hend : decide (Odd (backslashRun text)) = false := by decide
  obtain ⟨opening, closing, hcaption, hsigils⟩ := hmarked _ .caption
  rw [hread, hend] at hsigils
  exact ⟨heven, hodd.mpr heven, opening, closing, hcaption, hsigils⟩

/-- A sigil behind a backslash is read as markup once it is escaped, here in the midst
of a heading. -/
theorem escape_exposes_sigil :
    let text := "a\\*b".toList
    escape text = "a\\\\*b".toList ∧ ¬ SigilsBehind Odd (escape text) ∧
      heading? 3 text = some "**a\\\\*b**".toList ∧
      ('*', false) ∈ sigils false (escape text) := by
  intro text
  refine ⟨by decide, ?_, by decide, by decide⟩
  rw [sigilsBehind_odd_iff]
  decide

end Reddit

end ForumPost
