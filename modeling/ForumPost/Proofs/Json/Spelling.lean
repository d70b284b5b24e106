import ForumPost.Proofs.Json.Reading

/-!
# What is read is spelled

The converse of reading what is spelled.  Whatever `Json.ofText?` reads is in the
grammar: each reader takes a text of its kind off the front, with the white space
behind it.  Together, a text is read as a value exactly if it stands for that value
(`Json.ofText?_eq_some_iff`).
-/

namespace ForumPost

namespace Json

/-- Skipping takes white space off a text. -/
theorem exists_eq_append_skipGap (text : Text) : ∃ gap, IsGap gap ∧ text = gap ++ skipGap text :=
  ⟨text.takeWhile isGap, fun _ hc => List.mem_takeWhile_imp hc,
    List.takeWhile_append_dropWhile.symm⟩

theorem exists_of_readUnit? {text rest : Text} {unit : Nat}
    (hread : readUnit? text = some (unit, rest)) :
    ∃ digits, codeUnit? digits = some unit ∧ text = unitText digits ++ rest := by
  unfold readUnit? at hread
  split at hread
  · obtain ⟨found, hunit, heq⟩ := Option.map_eq_some_iff.mp hread
    obtain ⟨rfl, rfl⟩ := Prod.mk.inj heq
    refine ⟨_, hunit, ?_⟩
    rw [unitText, List.cons_append, List.cons_append, List.take_append_drop]
  · cases hread

theorem exists_of_readCoded? {text rest : Text} {c : Char}
    (hread : readCoded? text = some (c, rest)) :
    ∃ part, SpellsChar part c ∧ text = part ++ rest := by
  unfold readCoded? at hread
  obtain ⟨⟨unit, behind⟩, hunit, hchar⟩ := Option.bind_eq_some_iff.mp hread
  obtain ⟨digits, hdigits, rfl⟩ := exists_of_readUnit? hunit
  dsimp only at hchar
  split at hchar
  · rename_i found hpoint
    obtain ⟨rfl, rfl⟩ := Prod.mk.inj (Option.some.inj hchar)
    rw [ofPoint?_eq_some_iff.mp hpoint] at hdigits
    exact ⟨_, .unit hdigits, rfl⟩
  · obtain ⟨⟨low, others⟩, hlow, hpair⟩ := Option.bind_eq_some_iff.mp hchar
    obtain ⟨lowDigits, hlowDigits, rfl⟩ := exists_of_readUnit? hlow
    obtain ⟨point, hcode, hmap⟩ := Option.bind_eq_some_iff.mp hpair
    obtain ⟨found, hpoint, heq⟩ := Option.map_eq_some_iff.mp hmap
    obtain ⟨rfl, rfl⟩ := Prod.mk.inj heq
    rw [ofPoint?_eq_some_iff.mp hpoint] at hcode
    exact ⟨_, .surrogates hdigits hlowDigits hcode, (List.append_assoc _ _ _).symm⟩

theorem exists_of_readChar? {text rest : Text} {c : Char}
    (hread : readChar? text = some (c, rest)) :
    ∃ part, SpellsChar part c ∧ text = part ++ rest := by
  unfold readChar? at hread
  split at hread
  · exact exists_of_readCoded? hread
  · obtain ⟨found, hletter, heq⟩ := Option.map_eq_some_iff.mp hread
    obtain ⟨rfl, rfl⟩ := Prod.mk.inj heq
    exact ⟨_, .letter hletter, rfl⟩
  · split at hread
    · rename_i hplain
      obtain ⟨rfl, rfl⟩ := Prod.mk.inj (Option.some.inj hread)
      exact ⟨_, .plain hplain, rfl⟩
    · cases hread
  · cases hread

theorem exists_of_readBody? {count : Nat} {spelled text rest : Text}
    (hread : readBody? count spelled = some (text, rest)) :
    ∃ parts, List.Forall₂ SpellsChar parts text ∧ spelled = parts.flatten ++ '"' :: rest := by
  induction count generalizing spelled text rest with
  | zero => cases hread
  | succ count ih =>
    unfold readBody? at hread
    split at hread
    · rename_i hcount
      cases hcount
    · obtain ⟨rfl, rfl⟩ := Prod.mk.inj (Option.some.inj hread)
      exact ⟨[], .nil, rfl⟩
    · rename_i hcount _
      obtain rfl := Nat.succ.inj hcount
      obtain ⟨⟨c, behind⟩, hchar, hmore⟩ := Option.bind_eq_some_iff.mp hread
      obtain ⟨⟨others, last⟩, hbody, heq⟩ := Option.bind_eq_some_iff.mp hmore
      obtain ⟨rfl, rfl⟩ := Prod.mk.inj (Option.some.inj heq)
      obtain ⟨part, hpart, rfl⟩ := exists_of_readChar? hchar
      obtain ⟨parts, hparts, rfl⟩ := ih hbody
      exact ⟨part :: parts, .cons hpart hparts, (List.append_assoc _ _ _).symm⟩

theorem exists_of_readString? {spelled text rest : Text}
    (hread : readString? spelled = some (text, rest)) :
    ∃ quoted gap, SpellsString quoted text ∧ IsGap gap ∧ spelled = quoted ++ gap ++ rest := by
  unfold readString? at hread
  split at hread
  · obtain ⟨⟨found, behind⟩, hbody, heq⟩ := Option.map_eq_some_iff.mp hread
    obtain ⟨rfl, rfl⟩ := Prod.mk.inj heq
    obtain ⟨parts, hparts, rfl⟩ := exists_of_readBody? hbody
    obtain ⟨gap, hgap, hbehind⟩ := exists_eq_append_skipGap behind
    refine ⟨_, gap, ⟨parts, hparts, rfl⟩, hgap, ?_⟩
    conv => lhs; rw [hbehind]
    simp
  · cases hread

section Lists

variable {α β : Type} {read : Text → Option (α × Text)} {spelled : β → Text} {item : β → α}
  {p : β → Prop}
  (hsound : ∀ text found rest, read text = some (found, rest) →
    ∃ part, p part ∧ item part = found ∧ text = spelled part ++ rest)

include hsound

/-- If what is read as an item is spelled as one, so are the items of a list, with
commas in between. -/
theorem exists_of_readList? {count : Nat} {text rest : Text} {items : List α}
    (hread : readList? read count text = some (items, rest)) :
    ∃ parts, parts ≠ [] ∧ (∀ part ∈ parts, p part) ∧ parts.map item = items ∧
      text = Text.join [','] (parts.map spelled) ++ rest := by
  induction count generalizing text rest items with
  | zero => cases hread
  | succ count ih =>
    obtain ⟨⟨first, behind⟩, hfirst, hmore⟩ := Option.bind_eq_some_iff.mp hread
    obtain ⟨part, hpart, rfl, rfl⟩ := hsound _ _ _ hfirst
    dsimp only at hmore
    split at hmore
    · obtain ⟨rfl, rfl⟩ := Prod.mk.inj (Option.some.inj hmore)
      refine ⟨[part], List.cons_ne_nil _ _, List.forall_mem_singleton.mpr hpart, rfl, ?_⟩
      rw [List.map_singleton, Text.join_singleton]
    · rename_i next hcomma
      obtain ⟨⟨others, last⟩, hothers, heq⟩ := Option.bind_eq_some_iff.mp hmore
      obtain ⟨rfl, rfl⟩ := Prod.mk.inj (Option.some.inj heq)
      obtain ⟨parts, hne, hparts, rfl, rfl⟩ := ih hothers
      obtain ⟨second, parts, rfl⟩ := List.exists_cons_of_ne_nil hne
      refine ⟨part :: second :: parts, List.cons_ne_nil _ _,
        List.forall_mem_cons.mpr ⟨hpart, hparts⟩, rfl, ?_⟩
      rw [behind?_eq_some_iff.mp hcomma]
      simp [Text.join_cons_cons]

/-- A list in brackets holds white space only, or it holds items. -/
theorem exists_of_readItems? {bracket : Char} {text rest : Text} {items : List α}
    (hread : readItems? read bracket text = some (items, rest)) :
    ∃ inner gap, IsGap gap ∧ text = inner ++ bracket :: gap ++ rest ∧
      (items = [] ∧ IsGap inner ∨
        ∃ parts, parts ≠ [] ∧ (∀ part ∈ parts, p part) ∧ parts.map item = items ∧
          inner = Text.join [','] (parts.map spelled)) := by
  unfold readItems? at hread
  split at hread
  · rename_i behind hclosed
    obtain ⟨rfl, rfl⟩ := Prod.mk.inj (Option.some.inj hread)
    obtain ⟨inner, hinner, htext⟩ := exists_eq_append_skipGap text
    obtain ⟨gap, hgap, hbehind⟩ := exists_eq_append_skipGap behind
    refine ⟨inner, gap, hgap, ?_, .inl ⟨rfl, hinner⟩⟩
    rw [htext, behind?_eq_some_iff.mp hclosed]
    conv => lhs; rw [hbehind]
    simp
  · obtain ⟨⟨found, behind⟩, hlist, hmore⟩ := Option.bind_eq_some_iff.mp hread
    obtain ⟨last, hclosed, heq⟩ := Option.bind_eq_some_iff.mp hmore
    obtain ⟨rfl, rfl⟩ := Prod.mk.inj (Option.some.inj heq)
    obtain ⟨parts, hne, hparts, hitems, rfl⟩ := exists_of_readList? hsound hlist
    obtain ⟨gap, hgap, hlast⟩ := exists_eq_append_skipGap last
    refine ⟨_, gap, hgap, ?_, .inr ⟨parts, hne, hparts, hitems, rfl⟩⟩
    rw [behind?_eq_some_iff.mp hclosed]
    conv => lhs; rw [hlast]
    simp

end Lists

theorem exists_of_readMember? {read : Text → Option (Json × Text)}
    (hsound : ∀ text value rest, read text = some (value, rest) →
      ∃ spelled, Spells spelled value ∧ text = spelled ++ rest)
    {text rest : Text} {field : Text × Json} (hread : readMember? read text = some (field, rest)) :
    ∃ member : Member, (SpellsName member.spelledName member.name ∧
      Spells member.spelledValue member.value) ∧ member.field = field ∧
      text = member.spelled ++ rest := by
  obtain ⟨⟨name, behind⟩, hname, hmore⟩ := Option.bind_eq_some_iff.mp hread
  obtain ⟨next, hcolon, hmore⟩ := Option.bind_eq_some_iff.mp hmore
  obtain ⟨⟨value, last⟩, hvalue, heq⟩ := Option.bind_eq_some_iff.mp hmore
  obtain ⟨rfl, rfl⟩ := Prod.mk.inj (Option.some.inj heq)
  obtain ⟨before, hbefore, htext⟩ := exists_eq_append_skipGap text
  obtain ⟨quoted, after, hquoted, hafter, hskip⟩ := exists_of_readString? hname
  obtain ⟨spelled, hspelled, rfl⟩ := hsound _ _ _ hvalue
  refine ⟨⟨before ++ quoted ++ after, spelled, name, value⟩,
    ⟨⟨before, quoted, after, hbefore, hquoted, hafter, rfl⟩, hspelled⟩, rfl, ?_⟩
  rw [htext, hskip, behind?_eq_some_iff.mp hcolon, Member.spelled]
  simp

/-- What is read as a value stands for it. -/
theorem exists_of_readValue? {depth : Nat} {text rest : Text} {value : Json}
    (hread : readValue? depth text = some (value, rest)) :
    ∃ spelled, Spells spelled value ∧ text = spelled ++ rest := by
  induction depth generalizing text rest value with
  | zero => cases hread
  | succ depth ih =>
    obtain ⟨before, hbefore, htext⟩ := exists_eq_append_skipGap text
    -- The text without white space around it is enough.
    suffices hbare : ∃ bare gap, Spells bare value ∧ IsGap gap ∧
        skipGap text = bare ++ gap ++ rest by
      obtain ⟨bare, gap, hspelled, hgap, hskip⟩ := hbare
      refine ⟨before ++ bare ++ gap, .spaced hbefore hgap hspelled, ?_⟩
      rw [htext, hskip]
      simp
    unfold readValue? at hread
    split at hread
    · rename_i inside hskip
      obtain ⟨⟨items, behind⟩, hitems, heq⟩ := Option.map_eq_some_iff.mp hread
      obtain ⟨rfl, rfl⟩ := Prod.mk.inj heq
      have hsound : ∀ text found rest, readValue? depth text = some (found, rest) →
          ∃ part : Text × Json, Spells part.1 part.2 ∧ part.2 = found ∧ text = part.1 ++ rest := by
        intro text found rest hfound
        obtain ⟨spelled, hspelled, heq⟩ := ih hfound
        exact ⟨(spelled, found), hspelled, rfl, heq⟩
      obtain ⟨inner, gap, hgap, hinside, hlist⟩ := exists_of_readItems? hsound hitems
      refine ⟨'[' :: inner ++ [']'], gap, ?_, hgap, by rw [hskip, hinside]; simp⟩
      rcases hlist with ⟨rfl, hinner⟩ | ⟨parts, hne, hparts, rfl, rfl⟩
      · exact .emptyArray hinner
      · exact .array hne hparts
    · rename_i inside hskip
      obtain ⟨⟨fields, behind⟩, hfields, heq⟩ := Option.map_eq_some_iff.mp hread
      obtain ⟨rfl, rfl⟩ := Prod.mk.inj heq
      obtain ⟨inner, gap, hgap, hinside, hlist⟩ := exists_of_readItems?
        (fun _ _ _ hfield => exists_of_readMember? (fun _ _ _ => ih) hfield) hfields
      refine ⟨'\x7b' :: inner ++ ['\x7d'], gap, ?_, hgap, by rw [hskip, hinside]; simp⟩
      rcases hlist with ⟨rfl, hinner⟩ | ⟨members, hne, hmembers, rfl, rfl⟩
      · exact .emptyObject hinner
      · exact .object hne (fun member hmember => (hmembers member hmember).1)
          fun member hmember => (hmembers member hmember).2
    · rename_i inside hskip
      obtain ⟨⟨found, behind⟩, hstring, heq⟩ := Option.map_eq_some_iff.mp hread
      obtain ⟨rfl, rfl⟩ := Prod.mk.inj heq
      obtain ⟨quoted, gap, hquoted, hgap, hinside⟩ := exists_of_readString? hstring
      exact ⟨quoted, gap, .string hquoted, hgap, by rw [hskip, hinside]⟩
    · obtain ⟨found, hword, heq⟩ := Option.map_eq_some_iff.mp hread
      obtain ⟨rfl, rfl⟩ := Prod.mk.inj heq
      obtain ⟨gap, hgap, hbehind⟩ :=
        exists_eq_append_skipGap ((skipGap text).dropWhile isWordChar)
      refine ⟨_, gap, .word hword, hgap, ?_⟩
      rw [List.append_assoc, ← hbehind, List.takeWhile_append_dropWhile]

/-- What is read is the text of the value, and of no other value. -/
theorem ofText?_eq_some_iff {text : Text} {value : Json} :
    ofText? text = some value ↔ Spells text value := by
  refine ⟨fun hread => ?_, ofText?_of_spells⟩
  unfold ofText? at hread
  split at hread
  · rename_i found hfound
    obtain ⟨spelled, hspelled, htext⟩ := exists_of_readValue? hfound
    rw [List.append_nil] at htext
    rw [htext, ← Option.some.inj hread]
    exact hspelled
  · cases hread

/-- White space and surrogates are read, though they are not written. -/
example : ofText? "[ \"\\ud83d\\ude00\" , -1e5 ]".toList =
    some (.array [.string ['😀'], .number "-1e5".toList]) := by
  rfl

end Json

end ForumPost
