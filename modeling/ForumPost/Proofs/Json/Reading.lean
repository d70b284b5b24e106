import ForumPost.Proofs.Json.Words
import ForumPost.Proofs.Text.Compact

/-!
# Reading JSON

`Json.ofText?` reads the text of a value.  Every text of the grammar is read, as the
value that it stands for (`Json.ofText?_of_spells`), so that no text stands for two
values (`Json.Spells.unique`).

A reader takes something off the front of a text and gives what is behind it,
without the white space there (`Json.Reads`).  The lists in brackets are read by one
function for arrays and objects, with the reader of their parts as an argument, and
one lemma is about both.  The only recursion over values is that of `readValue?`,
which counts how deep it may go; no value is deeper than its text is long.
-/

namespace ForumPost

namespace Json

/-! ## The reader -/

/-- A text without the white space at its front. -/
def skipGap (text : Text) : Text :=
  text.dropWhile isGap

/-- Reads a code unit. -/
def readUnit? : Text → Option (Nat × Text)
  | '\\' :: 'u' :: rest => (codeUnit? (rest.take 4)).map fun unit => (unit, rest.drop 4)
  | _ => none

/-- The character with a code point; a surrogate is the code point of none. -/
def ofPoint? (point : Nat) : Option Char :=
  let c := Char.ofNat point
  if c.toNat = point then some c else none

/-- Reads a character by its code unit or its two surrogates. -/
def readCoded? (text : Text) : Option (Char × Text) := do
  let (unit, rest) ← readUnit? text
  match ofPoint? unit with
  | some c => some (c, rest)
  | none => do
    let (low, rest) ← readUnit? rest
    let point ← codePoint? unit low
    (ofPoint? point).map fun c => (c, rest)

/-- Reads a character of a string. -/
def readChar? : Text → Option (Char × Text)
  | '\\' :: 'u' :: rest => readCoded? ('\\' :: 'u' :: rest)
  | '\\' :: letter :: rest => (letters.lookup letter).map fun c => (c, rest)
  | c :: rest => if isPlain c then some (c, rest) else none
  | [] => none

/-- Reads characters up to a quotation mark. -/
def readBody? : Nat → Text → Option (Text × Text)
  | 0, _ => none
  | _ + 1, '"' :: rest => some ([], rest)
  | count + 1, text => do
    let (c, rest) ← readChar? text
    let (others, rest) ← readBody? count rest
    some (c :: others, rest)

/-- Reads a string. -/
def readString? : Text → Option (Text × Text)
  | '"' :: rest => (readBody? rest.length rest).map fun (text, rest) => (text, skipGap rest)
  | _ => none

/-- What is behind a given character. -/
def behind? (wanted : Char) : Text → Option Text
  | [] => none
  | c :: rest => if c = wanted then some rest else none

section Lists

variable {α : Type} (read : Text → Option (α × Text))

/-- Reads one or more items with commas in between. -/
def readList? : Nat → Text → Option (List α × Text)
  | 0, _ => none
  | count + 1, text => do
    let (item, rest) ← read text
    match behind? ',' rest with
    | none => some ([item], rest)
    | some rest => do
      let (items, rest) ← readList? count rest
      some (item :: items, rest)

/-- Reads items up to a closing bracket. -/
def readItems? (bracket : Char) (text : Text) : Option (List α × Text) :=
  match behind? bracket (skipGap text) with
  | some rest => some ([], skipGap rest)
  | none => do
    let (items, rest) ← readList? read text.length text
    let rest ← behind? bracket rest
    some (items, skipGap rest)

end Lists

/-- Reads a field of an object. -/
def readMember? (read : Text → Option (Json × Text)) (text : Text) :
    Option ((Text × Json) × Text) := do
  let (name, rest) ← readString? (skipGap text)
  let rest ← behind? ':' rest
  let (value, rest) ← read rest
  some ((name, value), rest)

/-- Reads a value that is at most so deep. -/
def readValue? : Nat → Text → Option (Json × Text)
  | 0, _ => none
  | depth + 1, text =>
    match skipGap text with
    | '[' :: rest =>
      (readItems? (readValue? depth) ']' rest).map fun (items, rest) => (.array items, rest)
    | '\x7b' :: rest =>
      (readItems? (readMember? (readValue? depth)) '\x7d' rest).map fun (fields, rest) =>
        (.object fields, rest)
    | '"' :: rest => (readString? ('"' :: rest)).map fun (text, rest) => (.string text, rest)
    | word =>
      (ofWord? (word.takeWhile isWordChar)).map fun value =>
        (value, skipGap (word.dropWhile isWordChar))

/-- Reads the text of a value. -/
def ofText? (text : Text) : Option Json :=
  match readValue? text.length text with
  | some (value, []) => some value
  | _ => none

/-! ## What is spelled is read -/

theorem skipGap_append {gap : Text} (hgap : IsGap gap) (rest : Text) :
    skipGap (gap ++ rest) = skipGap rest :=
  List.dropWhile_append_of_pos hgap

theorem skipGap_cons {c : Char} (hc : isGap c = false) (rest : Text) :
    skipGap (c :: rest) = c :: rest :=
  List.dropWhile_cons_of_neg (by simp [hc])

theorem length_of_codeUnit? {digits : Text} {unit : Nat} (hunit : codeUnit? digits = some unit) :
    digits.length = 4 := by
  unfold codeUnit? at hunit
  split at hunit
  · assumption
  · cases hunit

theorem readUnit?_append {digits : Text} {unit : Nat} (hunit : codeUnit? digits = some unit)
    (rest : Text) : readUnit? (unitText digits ++ rest) = some (unit, rest) := by
  have hlength := length_of_codeUnit? hunit
  have htake : (digits ++ rest).take 4 = digits := List.take_left' hlength
  have hdrop : (digits ++ rest).drop 4 = rest := List.drop_left' hlength
  rw [unitText, List.cons_append, List.cons_append, readUnit?, htake, hdrop, hunit]
  rfl

theorem ofPoint?_eq_some_iff {point : Nat} {c : Char} :
    ofPoint? point = some c ↔ point = c.toNat := by
  unfold ofPoint?
  dsimp only
  constructor
  · intro hpoint
    split at hpoint
    · rename_i hchar
      rw [← Option.some.inj hpoint, hchar]
    · cases hpoint
  · rintro rfl
    rw [Char.ofNat_toNat, if_pos rfl]

/-- A high surrogate is no character. -/
theorem ofPoint?_eq_none {high low point : Nat} (hpoint : codePoint? high low = some point) :
    ofPoint? high = none := by
  unfold codePoint? at hpoint
  split at hpoint
  · rename_i hrange
    cases hchar : ofPoint? high with
    | none => rfl
    | some c =>
      have hvalid : c.toNat.isValidChar := c.valid
      rw [← ofPoint?_eq_some_iff.mp hchar] at hvalid
      unfold Nat.isValidChar at hvalid
      omega
  · cases hpoint

theorem SpellsChar.readChar?_append {part : Text} {c : Char} (hpart : SpellsChar part c)
    (rest : Text) : readChar? (part ++ rest) = some (c, rest) := by
  cases hpart with
  | plain hplain =>
    have hbackslash : c ≠ '\\' := by
      rintro rfl
      cases hplain
    simp [readChar?, hbackslash, hplain]
  | @letter letter c hletter =>
    have hunit : letter ≠ 'u' := by
      rintro rfl
      cases hletter
    simp [readChar?, hletter]
  | @unit digits c hunit =>
    have hread : readCoded? (unitText digits ++ rest) = some (c, rest) := by
      rw [readCoded?, readUnit?_append hunit]
      simp [ofPoint?_eq_some_iff.mpr rfl]
    exact hread
  | @surrogates first second high low c hfirst hsecond hpoint =>
    have hread : readCoded? (unitText first ++ (unitText second ++ rest)) = some (c, rest) := by
      rw [readCoded?, readUnit?_append hfirst]
      simp [ofPoint?_eq_none hpoint, readUnit?_append hsecond, hpoint, ofPoint?_eq_some_iff]
    rw [List.append_assoc]
    exact hread

theorem SpellsChar.ne_nil {part : Text} {c : Char} (hpart : SpellsChar part c) : part ≠ [] := by
  cases hpart <;> exact List.cons_ne_nil _ _

/-- A character is read in front of the rest of a string. -/
theorem readBody?_succ {text rest : Text} {c : Char} (hchar : readChar? text = some (c, rest))
    (count : Nat) : readBody? (count + 1) text =
      (readBody? count rest).map fun (others, rest) => (c :: others, rest) := by
  have hopen : ∀ rest, text ≠ '"' :: rest := by
    rintro rest rfl
    simp [readChar?, isPlain] at hchar
  rw [readBody?, hchar]
  · dsimp only [bind, Option.bind]
    cases readBody? count rest <;> rfl
  · exact hopen

theorem readBody?_append {parts : List Text} {text : Text}
    (hparts : List.Forall₂ SpellsChar parts text) (rest : Text) {count : Nat}
    (hcount : parts.flatten.length < count) :
    readBody? count (parts.flatten ++ '"' :: rest) = some (text, rest) := by
  induction hparts generalizing count with
  | nil =>
    obtain ⟨count, rfl⟩ := Nat.exists_eq_succ_of_ne_zero (Nat.ne_zero_of_lt hcount)
    rfl
  | @cons part c parts text hpart _ ih =>
    have hlength : 0 < part.length := List.length_pos_iff.mpr hpart.ne_nil
    rw [List.flatten_cons, List.length_append] at hcount
    obtain ⟨count, rfl⟩ := Nat.exists_eq_succ_of_ne_zero (Nat.ne_zero_of_lt hcount)
    rw [List.flatten_cons, List.append_assoc, readBody?_succ (hpart.readChar?_append _),
      ih (by omega)]
    rfl

theorem SpellsString.readString?_append {spelled text : Text} (hspelled : SpellsString spelled text)
    (rest : Text) : readString? (spelled ++ rest) = some (text, skipGap rest) := by
  obtain ⟨parts, hparts, rfl⟩ := hspelled
  have hbody : readBody? (parts.flatten ++ '"' :: rest).length (parts.flatten ++ '"' :: rest) =
      some (text, rest) := readBody?_append hparts rest (by simp)
  rw [List.append_assoc, List.cons_append, List.singleton_append, readString?, hbody]
  rfl

/-! ### Lists -/

theorem behind?_eq_some_iff {wanted : Char} {text rest : Text} :
    behind? wanted text = some rest ↔ text = wanted :: rest := by
  cases text with
  | nil => simp [behind?]
  | cons c others => simp [behind?]

theorem behind?_of_ne {wanted c : Char} (hc : c ≠ wanted) (rest : Text) :
    behind? wanted (c :: rest) = none :=
  if_neg hc

/-- A reader reads a text as an item, whatever is behind it, and takes off the white
space there. -/
def Reads {α : Type} (read : Text → Option (α × Text)) (spelled : Text) (item : α) : Prop :=
  ∀ rest, EndsWord rest → read (spelled ++ rest) = some (item, skipGap rest)

section Lists

variable {α β : Type} {read : Text → Option (α × Text)} {spelled : β → Text} {item : β → α}

theorem readList?_of_none {text : Text} (hread : read text = none) (count : Nat) :
    readList? read count text = none := by
  cases count with
  | zero => rfl
  | succ count => simp [readList?, hread]

theorem readList?_last {text rest : Text} {first : α} (hread : read text = some (first, rest))
    (hcomma : behind? ',' rest = none) (count : Nat) :
    readList? read (count + 1) text = some ([first], rest) := by
  simp [readList?, hread, hcomma]

theorem readList?_more {text rest next : Text} {first : α} (hread : read text = some (first, rest))
    (hcomma : behind? ',' rest = some next) (count : Nat) :
    readList? read (count + 1) text =
      (readList? read count next).map fun (items, rest) => (first :: items, rest) := by
  simp only [readList?, hread, hcomma, Option.bind_eq_bind, Option.bind_some]
  cases readList? read count next <;> rfl

/-- One or more items with commas in between are read up to a bracket. -/
theorem readList?_append {parts : List β} (hparts : parts ≠ [])
    (hread : ∀ part ∈ parts, Reads read (spelled part) (item part)) {bracket : Char}
    (hbracket : bracket = ']' ∨ bracket = '\x7d') (rest : Text) {count : Nat}
    (hcount : parts.length ≤ count) :
    readList? read count (Text.join [','] (parts.map spelled) ++ bracket :: rest) =
      some (parts.map item, bracket :: rest) := by
  induction parts generalizing count with
  | nil => exact absurd rfl hparts
  | cons part others ih =>
    obtain ⟨count, rfl⟩ := Nat.exists_eq_succ_of_ne_zero (Nat.ne_zero_of_lt hcount)
    have hfirst := hread part (List.mem_cons_self ..)
    cases others with
    | nil =>
      have hend : EndsWord (bracket :: rest) ∧ skipGap (bracket :: rest) = bracket :: rest ∧
          bracket ≠ ',' := by
        rcases hbracket with rfl | rfl <;> exact ⟨endsWord_cons (by decide) _, rfl, by decide⟩
      obtain ⟨hword, hgap, hcomma⟩ := hend
      have hlast := hfirst _ hword
      rw [hgap] at hlast
      rw [List.map_singleton, Text.join_singleton]
      exact readList?_last hlast (behind?_of_ne hcomma _) count
    | cons second others =>
      have hothers := ih (List.cons_ne_nil _ _)
        (fun part hpart => hread part (List.mem_cons_of_mem _ hpart))
        (Nat.le_of_succ_le_succ hcount)
      have hcomma := hfirst (',' :: (Text.join [','] ((second :: others).map spelled) ++
        bracket :: rest)) (endsWord_cons (by decide) _)
      rw [skipGap_cons (by decide)] at hcomma
      rw [List.map_cons, List.map_cons, Text.join_cons_cons, ← List.map_cons, List.append_assoc,
        List.append_assoc, List.singleton_append,
        readList?_more hcomma (behind?_eq_some_iff.mpr rfl), hothers]
      rfl

/-- There are no more items than commas, but for one. -/
theorem length_le_length_join (parts : List Text) :
    parts.length ≤ (Text.join [','] parts).length + 1 := by
  induction parts with
  | nil => exact Nat.zero_le _
  | cons part others ih =>
    cases others with
    | nil => simp
    | cons second others =>
      rw [Text.join_cons_cons, List.length_cons, List.length_append, List.length_append,
        List.length_singleton]
      omega

theorem length_le_of_mem_join {part : Text} {parts : List Text} (hpart : part ∈ parts) :
    part.length ≤ (Text.join [','] parts).length :=
  ((List.sublist_flatten_of_mem hpart).trans (Text.flatten_sublist_join _ _)).length_le

/-- Items are read up to the closing bracket, and the bracket is taken off.  Nothing
can be read at the bracket, so that a list with items is not taken for the empty
one. -/
theorem readItems?_append {parts : List β} (hparts : parts ≠ [])
    (hread : ∀ part ∈ parts, Reads read (spelled part) (item part)) {bracket : Char}
    (hbracket : bracket = ']' ∨ bracket = '\x7d')
    (hnone : ∀ text rest, skipGap text = bracket :: rest → read text = none) (rest : Text) :
    readItems? read bracket (Text.join [','] (parts.map spelled) ++ bracket :: rest) =
      some (parts.map item, skipGap rest) := by
  have hlength := length_le_length_join (parts.map spelled)
  rw [List.length_map] at hlength
  generalize htext : Text.join [','] (parts.map spelled) ++ bracket :: rest = text
  have hlist : readList? read text.length text = some (parts.map item, bracket :: rest) := by
    rw [← htext]
    exact readList?_append hparts hread hbracket rest (by simp; omega)
  have hopen : behind? bracket (skipGap text) = none := by
    cases hbehind : behind? bracket (skipGap text) with
    | none => rfl
    | some others =>
      have hstuck := hnone text others (behind?_eq_some_iff.mp hbehind)
      rw [readList?_of_none hstuck] at hlist
      cases hlist
  rw [readItems?, hopen, hlist]
  simp [behind?]

/-- An empty list may hold white space. -/
theorem readItems?_gap {gap : Text} (hgap : IsGap gap) {bracket : Char}
    (hbracket : isGap bracket = false) (rest : Text) :
    readItems? read bracket (gap ++ bracket :: rest) = some ([], skipGap rest) := by
  rw [readItems?, skipGap_append hgap, skipGap_cons hbracket, behind?_eq_some_iff.mpr rfl]

end Lists

/-! ### Values -/

/-- White space in front of a value does not matter. -/
theorem readValue?_skipGap {text other : Text} (hskip : skipGap text = skipGap other)
    (depth : Nat) : readValue? depth text = readValue? depth other := by
  cases depth with
  | zero => rfl
  | succ depth => rw [readValue?, readValue?, hskip]

theorem readValue?_array {text rest : Text} (hskip : skipGap text = '[' :: rest) (depth : Nat) :
    readValue? (depth + 1) text =
      (readItems? (readValue? depth) ']' rest).map fun (items, rest) => (.array items, rest) := by
  rw [readValue?, hskip]
  rfl

theorem readValue?_object {text rest : Text} (hskip : skipGap text = '\x7b' :: rest) (depth : Nat) :
    readValue? (depth + 1) text =
      (readItems? (readMember? (readValue? depth)) '\x7d' rest).map fun (fields, rest) =>
        (.object fields, rest) := by
  rw [readValue?, hskip]
  rfl

theorem readValue?_string {text rest : Text} (hskip : skipGap text = '"' :: rest) (depth : Nat) :
    readValue? (depth + 1) text =
      (readString? ('"' :: rest)).map fun (text, rest) => (.string text, rest) := by
  rw [readValue?, hskip]
  rfl

/-- A word begins in no other way than a value without brackets and quotation
marks. -/
theorem readValue?_word {word : Text} (hfirst : ∀ c ∈ word.head?, c ≠ '[' ∧ c ≠ '\x7b' ∧ c ≠ '"')
    {text : Text} (hskip : skipGap text = word) (depth : Nat) :
    readValue? (depth + 1) text =
      (ofWord? (word.takeWhile isWordChar)).map fun value =>
        (value, skipGap (word.dropWhile isWordChar)) := by
  rw [readValue?, hskip]
  cases word with
  | nil => rfl
  | cons c rest =>
    obtain ⟨hbracket, hbrace, hquote⟩ := hfirst c rfl
    split
    · rename_i heq
      exact absurd (List.cons.inj heq).1 hbracket
    · rename_i heq
      exact absurd (List.cons.inj heq).1 hbrace
    · rename_i heq
      exact absurd (List.cons.inj heq).1 hquote
    · rfl

/-- No value begins with a closing bracket. -/
theorem readValue?_bracket {text rest : Text} (hskip : skipGap text = ']' :: rest) (depth : Nat) :
    readValue? depth text = none := by
  cases depth with
  | zero => rfl
  | succ depth =>
    rw [readValue?_word (fun c hc => by rw [← Option.some.inj hc]; decide) hskip]
    rfl

/-- Nor does a field. -/
theorem readMember?_brace {read : Text → Option (Json × Text)} {text rest : Text}
    (hskip : skipGap text = '\x7d' :: rest) : readMember? read text = none := by
  rw [readMember?, hskip]
  rfl

theorem SpellsName.readMember?_reads {read : Text → Option (Json × Text)} {member : Member}
    (hname : SpellsName member.spelledName member.name)
    (hvalue : Reads read member.spelledValue member.value) :
    Reads (readMember? read) member.spelled member.field := by
  intro rest hrest
  obtain ⟨before, quoted, after, hbefore, hquoted, hafter, hspelled⟩ := hname
  have hopen : skipGap (quoted ++ (after ++ ':' :: (member.spelledValue ++ rest))) =
      quoted ++ (after ++ ':' :: (member.spelledValue ++ rest)) := by
    obtain ⟨parts, -, rfl⟩ := hquoted
    exact skipGap_cons (by decide) _
  have hcolon : skipGap (after ++ ':' :: (member.spelledValue ++ rest)) =
      ':' :: (member.spelledValue ++ rest) := by
    rw [skipGap_append hafter, skipGap_cons (by decide)]
  rw [Member.spelled, hspelled, readMember?]
  simp only [List.append_assoc, List.cons_append, skipGap_append hbefore, hopen,
    hquoted.readString?_append, hcolon, behind?_eq_some_iff.mpr rfl, hvalue rest hrest,
    Option.bind_eq_bind, Option.bind_some]
  rfl

/-- The text of a value is read as the value, whatever is behind it. -/
theorem Spells.readValue?_reads {spelled : Text} {value : Json} (hspelled : Spells spelled value)
    {depth : Nat} (hdepth : spelled.length ≤ depth) : Reads (readValue? depth) spelled value := by
  induction hspelled generalizing depth with
  | @word word value hword =>
    obtain ⟨hne, hchars⟩ := isWordChar_of_ofWord? hword
    obtain ⟨c, others, rfl⟩ := List.exists_cons_of_ne_nil hne
    obtain ⟨depth, rfl⟩ := Nat.exists_eq_succ_of_ne_zero (Nat.ne_zero_of_lt hdepth)
    intro rest hrest
    obtain ⟨hgap, hopen⟩ := opensNothing_of_isWordChar (hchars c (List.mem_cons_self ..))
    obtain ⟨htake, hdrop⟩ := takeWhile_word hchars hrest
    have hskip : skipGap (c :: others ++ rest) = c :: others ++ rest := skipGap_cons hgap _
    have hfirst : ∀ first ∈ (c :: others ++ rest).head?,
        first ≠ '[' ∧ first ≠ '\x7b' ∧ first ≠ '"' := by
      intro first hfirst
      rwa [← Option.some.inj hfirst]
    rw [readValue?_word hfirst hskip, htake, hdrop, hword]
    rfl
  | @string spelled text htext =>
    have hread := htext.readString?_append
    obtain ⟨parts, -, rfl⟩ := htext
    obtain ⟨depth, rfl⟩ := Nat.exists_eq_succ_of_ne_zero (Nat.ne_zero_of_lt hdepth)
    intro rest _
    have hquote := hread rest
    rw [List.cons_append, List.cons_append] at hquote ⊢
    rw [readValue?_string (skipGap_cons (by decide) _), hquote]
    rfl
  | @emptyArray gap hgap =>
    obtain ⟨depth, rfl⟩ := Nat.exists_eq_succ_of_ne_zero (Nat.ne_zero_of_lt hdepth)
    intro rest _
    rw [List.cons_append, List.cons_append, List.append_assoc, List.singleton_append,
      readValue?_array (skipGap_cons (by decide) _), readItems?_gap hgap (by decide)]
    rfl
  | @emptyObject gap hgap =>
    obtain ⟨depth, rfl⟩ := Nat.exists_eq_succ_of_ne_zero (Nat.ne_zero_of_lt hdepth)
    intro rest _
    rw [List.cons_append, List.cons_append, List.append_assoc, List.singleton_append,
      readValue?_object (skipGap_cons (by decide) _), readItems?_gap hgap (by decide)]
    rfl
  | @array items hitems _ ih =>
    rw [List.cons_append, List.length_cons, List.length_append] at hdepth
    obtain ⟨depth, rfl⟩ := Nat.exists_eq_succ_of_ne_zero (Nat.ne_zero_of_lt hdepth)
    have hparts : ∀ item ∈ items, Reads (readValue? depth) item.1 item.2 := by
      intro item hitem
      have hlength := length_le_of_mem_join (List.mem_map_of_mem (f := Prod.fst) hitem)
      exact ih item hitem (by omega)
    intro rest _
    rw [List.cons_append, List.cons_append, List.append_assoc, List.singleton_append,
      readValue?_array (skipGap_cons (by decide) _),
      readItems?_append hitems hparts (.inl rfl) fun _ _ hskip => readValue?_bracket hskip depth]
    rfl
  | @object members hmembers hnames _ ih =>
    rw [List.cons_append, List.length_cons, List.length_append] at hdepth
    obtain ⟨depth, rfl⟩ := Nat.exists_eq_succ_of_ne_zero (Nat.ne_zero_of_lt hdepth)
    have hparts : ∀ member ∈ members,
        Reads (readMember? (readValue? depth)) member.spelled member.field := by
      intro member hmember
      have hlength := length_le_of_mem_join (List.mem_map_of_mem (f := Member.spelled) hmember)
      rw [Member.spelled, List.length_append, List.length_cons] at hlength
      exact (hnames member hmember).readMember?_reads (ih member hmember (by omega))
    intro rest _
    rw [List.cons_append, List.cons_append, List.append_assoc, List.singleton_append,
      readValue?_object (skipGap_cons (by decide) _),
      readItems?_append hmembers hparts (.inr rfl) fun _ _ hskip => readMember?_brace hskip]
    rfl
  | @spaced before spelled after value hbefore hafter _ ih =>
    intro rest hrest
    rw [List.length_append, List.length_append] at hdepth
    rw [List.append_assoc, List.append_assoc, readValue?_skipGap (skipGap_append hbefore _),
      ih (by omega) _ (hrest.append hafter), skipGap_append hafter]

/-- The text of a value is read. -/
theorem ofText?_of_spells {text : Text} {value : Json} (hspelled : Spells text value) :
    ofText? text = some value := by
  have hread := hspelled.readValue?_reads (Nat.le_refl _) [] endsWord_nil
  rw [List.append_nil] at hread
  rw [ofText?, hread]
  rfl

/-- No text stands for two values. -/
theorem Spells.unique {text : Text} {value other : Json} (hspelled : Spells text value)
    (hother : Spells text other) : value = other := by
  have hvalue := ofText?_of_spells hspelled
  rw [ofText?_of_spells hother] at hvalue
  exact (Option.some.inj hvalue).symm

end Json

end ForumPost
