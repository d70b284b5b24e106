import ForumPost.Proofs.Json.Reading

/-!
# Writing JSON

What `Json.written` writes is the text of the value, so that the value is read back
from it (`Json.ofText?_written`).

A value is legal if its numbers are, which are written as they are kept
(`Json.IsLegal`).  Every other value can be written: strings may hold any character,
and arrays and objects may be empty.  The induction is along `Json.IsLegal`, whose
hypotheses on items and fields are those that the lists need.
-/

namespace ForumPost

namespace Json

/-- Is every number of a value a number in JSON? -/
inductive IsLegal : Json → Prop where
  | null : IsLegal null
  | bool (value : Bool) : IsLegal (bool value)
  | number {literal : Text} (hliteral : isNumber literal = true) : IsLegal (number literal)
  | string (text : Text) : IsLegal (string text)
  | array {items : List Json} (hitems : ∀ item ∈ items, IsLegal item) : IsLegal (array items)
  | object {fields : List (Text × Json)} (hfields : ∀ field ∈ fields, IsLegal field.2) :
      IsLegal (object fields)

/-! ## Strings -/

/-- The number of a control character is written in four digits. -/
theorem codeUnit?_hexDigits : ∀ n < 0x20,
    codeUnit? ['0', '0', hexDigit (n / 16), hexDigit (n % 16)] = some n := by
  decide +kernel

theorem spellsChar_escapeChar (c : Char) : SpellsChar (escapeChar c) c := by
  unfold escapeChar
  repeat' split
  -- First the characters that have a letter, then the other control characters.
  iterate 7
    · rename_i hc
      rw [beq_iff_eq.mp hc]
      exact .letter rfl
  · rename_i hcontrol
    exact .unit (codeUnit?_hexDigits c.toNat hcontrol)
  · rename_i hquote hbackslash _ _ _ _ _ hcontrol
    refine .plain ?_
    simp only [isPlain, bne_iff_ne, ne_eq, Bool.and_eq_true, decide_eq_true_eq]
    simp only [beq_iff_eq] at hquote hbackslash
    exact ⟨⟨hquote, hbackslash⟩, Nat.not_lt.mp hcontrol⟩

theorem spellsString_quoted (text : Text) : SpellsString (quoted text) text := by
  refine ⟨text.map escapeChar, ?_, ?_⟩
  · rw [List.forall₂_map_left_iff, List.forall₂_same]
    exact fun c _ => spellsChar_escapeChar c
  · rw [quoted, List.flatMap_def]

/-! ## Values -/

theorem isGap_newline (level : Nat) : IsGap (newline level) := by
  intro c hc
  rcases List.mem_cons.mp hc with rfl | hspace
  · rfl
  · rw [List.eq_of_mem_replicate hspace]
    rfl

/-- A list with commas in between whose lines are spelled as its items, and whose last
line is so also with a closing behind it, is spelled as a list of items with that
closing. -/
theorem exists_join_append {α β : Type} {line : α → Text} {closing : Text} {spelled : β → Text}
    {item : β → α} {p : β → Prop} {items : List α} (hitems : items ≠ [])
    (hline : ∀ found ∈ items, ∃ part, p part ∧ item part = found ∧ spelled part = line found)
    (hlast : ∀ found ∈ items,
      ∃ part, p part ∧ item part = found ∧ spelled part = line found ++ closing) :
    ∃ parts, parts ≠ [] ∧ (∀ part ∈ parts, p part) ∧ parts.map item = items ∧
      Text.join [','] (parts.map spelled) = Text.join [','] (items.map line) ++ closing := by
  induction items with
  | nil => exact absurd rfl hitems
  | cons first others ih =>
    cases others with
    | nil =>
      obtain ⟨part, hpart, rfl, hspelled⟩ := hlast first (List.mem_cons_self ..)
      refine ⟨[part], List.cons_ne_nil _ _, List.forall_mem_singleton.mpr hpart, rfl, ?_⟩
      rw [List.map_singleton, List.map_singleton, Text.join_singleton, Text.join_singleton,
        hspelled]
    | cons second others =>
      obtain ⟨part, hpart, rfl, hspelled⟩ := hline first (List.mem_cons_self ..)
      obtain ⟨parts, hne, hparts, hothers, hjoin⟩ := ih (List.cons_ne_nil _ _)
        (fun found hfound => hline found (List.mem_cons_of_mem _ hfound))
        (fun found hfound => hlast found (List.mem_cons_of_mem _ hfound))
      obtain ⟨next, parts, rfl⟩ := List.exists_cons_of_ne_nil hne
      refine ⟨part :: next :: parts, List.cons_ne_nil _ _,
        List.forall_mem_cons.mpr ⟨hpart, hparts⟩, by rw [← hothers]; rfl, ?_⟩
      rw [List.map_cons, List.map_cons] at hjoin ⊢
      rw [Text.join_cons_cons, hjoin, hspelled, List.map_cons, List.map_cons, Text.join_cons_cons,
        List.append_assoc _ _ closing]

/-- An item of an array, on a line of its own. -/
def itemLine (level : Nat) (item : Json) : Text :=
  newline level ++ writtenAt level item

/-- A field of an object, on a line of its own. -/
def fieldLine (level : Nat) (field : Text × Json) : Text :=
  newline level ++ quoted field.1 ++ ": ".toList ++ writtenAt level field.2

theorem itemsAt_eq_flatMap (level : Nat) (items : List Json) :
    itemsAt level items = items.flatMap ([','] ++ itemLine (level + 1) ·) := by
  induction items with
  | nil => rfl
  | cons item items ih =>
    rw [itemsAt, ih, List.flatMap_cons, itemLine]
    simp

theorem fieldsAt_eq_flatMap (level : Nat) (fields : List (Text × Json)) :
    fieldsAt level fields = fields.flatMap ([','] ++ fieldLine (level + 1) ·) := by
  induction fields with
  | nil => rfl
  | cons field fields ih =>
    obtain ⟨name, value⟩ := field
    rw [fieldsAt, ih, List.flatMap_cons, fieldLine]
    simp

theorem writtenAt_array (level : Nat) {items : List Json} (hitems : items ≠ []) :
    writtenAt level (array items) =
      '[' :: (Text.join [','] (items.map (itemLine (level + 1))) ++ newline level) ++ [']'] := by
  obtain ⟨item, items, rfl⟩ := List.exists_cons_of_ne_nil hitems
  rw [writtenAt, itemsAt_eq_flatMap, List.map_cons, Text.join_cons, List.flatMap_map, itemLine]
  simp

theorem writtenAt_object (level : Nat) {fields : List (Text × Json)} (hfields : fields ≠ []) :
    writtenAt level (object fields) =
      '\x7b' :: (Text.join [','] (fields.map (fieldLine (level + 1))) ++ newline level) ++
        ['\x7d'] := by
  obtain ⟨⟨name, value⟩, fields, rfl⟩ := List.exists_cons_of_ne_nil hfields
  rw [writtenAt, fieldsAt_eq_flatMap, List.map_cons, Text.join_cons, List.flatMap_map, fieldLine]
  simp

theorem ofWord?_of_isNumber {literal : Text} (hliteral : isNumber literal = true) :
    ofWord? literal = some (number literal) := by
  have hname : ∀ name, isNumber name = false → literal ≠ name := by
    rintro name hname rfl
    rw [hname] at hliteral
    cases hliteral
  rw [ofWord?, if_neg (hname _ (by decide)), if_neg (hname _ (by decide)),
    if_neg (hname _ (by decide)), if_pos hliteral]

theorem spellsName_quoted {before : Text} (hbefore : IsGap before) (name : Text) :
    SpellsName (before ++ quoted name) name :=
  ⟨before, quoted name, [], hbefore, spellsString_quoted name, isGap_nil, (List.append_nil _).symm⟩

/-- How a field on a line of its own is spelled, with a closing behind it. -/
def lineMember (level : Nat) (closing : Text) (field : Text × Json) : Member where
  spelledName := newline level ++ quoted field.1
  spelledValue := " ".toList ++ writtenAt level field.2 ++ closing
  name := field.1
  value := field.2

theorem spelled_lineMember (level : Nat) (closing : Text) (field : Text × Json) :
    (lineMember level closing field).spelled = fieldLine level field ++ closing := by
  simp [lineMember, Member.spelled, fieldLine]

theorem spells_lineMember {level : Nat} {closing : Text} (hclosing : IsGap closing)
    {field : Text × Json} (hvalue : Spells (writtenAt level field.2) field.2) :
    SpellsName (lineMember level closing field).spelledName (lineMember level closing field).name ∧
      Spells (lineMember level closing field).spelledValue
        (lineMember level closing field).value := by
  have hspace : IsGap " ".toList := by
    intro c hc
    rw [List.mem_singleton.mp hc]
    rfl
  exact ⟨spellsName_quoted (isGap_newline level) field.1, hvalue.spaced hspace hclosing⟩

/-- What is written for a legal value at any level is the text of the value. -/
theorem IsLegal.spells_writtenAt {value : Json} (hlegal : value.IsLegal) (level : Nat) :
    Spells (writtenAt level value) value := by
  induction hlegal generalizing level with
  | null => exact .word rfl
  | bool value => cases value <;> exact .word rfl
  | @number literal hliteral => exact .word (ofWord?_of_isNumber hliteral)
  | string text => exact .string (spellsString_quoted text)
  | @array items _ ih =>
    by_cases hitems : items = []
    · rw [hitems]
      exact .emptyArray isGap_nil
    · have hline : ∀ item ∈ items, ∃ part : Text × Json, Spells part.1 part.2 ∧ part.2 = item ∧
          part.1 = itemLine (level + 1) item := by
        intro item hitem
        exact ⟨(_, item), (ih item hitem (level + 1)).behind (isGap_newline _), rfl, rfl⟩
      have hlast : ∀ item ∈ items, ∃ part : Text × Json, Spells part.1 part.2 ∧ part.2 = item ∧
          part.1 = itemLine (level + 1) item ++ newline level := by
        intro item hitem
        have hspelled := (ih item hitem (level + 1)).spaced (isGap_newline (level + 1))
          (isGap_newline level)
        exact ⟨(_, item), hspelled, rfl, rfl⟩
      obtain ⟨parts, hne, hparts, hvalues, hjoin⟩ := exists_join_append hitems hline hlast
      have harray := Spells.array hne hparts
      rwa [hvalues, hjoin, ← writtenAt_array level hitems] at harray
  | @object fields _ ih =>
    by_cases hfields : fields = []
    · rw [hfields]
      exact .emptyObject isGap_nil
    · have hline : ∀ closing, IsGap closing → ∀ field ∈ fields, ∃ member : Member,
          (SpellsName member.spelledName member.name ∧ Spells member.spelledValue member.value) ∧
            member.field = field ∧ member.spelled = fieldLine (level + 1) field ++ closing := by
        intro closing hclosing field hfield
        exact ⟨lineMember (level + 1) closing field,
          spells_lineMember hclosing (ih field hfield (level + 1)), rfl, spelled_lineMember _ _ _⟩
      have hopen := hline [] isGap_nil
      simp only [List.append_nil] at hopen
      obtain ⟨members, hne, hmembers, hvalues, hjoin⟩ :=
        exists_join_append hfields hopen (hline _ (isGap_newline level))
      have hobject := Spells.object hne (fun member hmember => (hmembers member hmember).1)
        fun member hmember => (hmembers member hmember).2
      rwa [hvalues, hjoin, ← writtenAt_object level hfields] at hobject

/-- A legal value is read back from what is written for it. -/
theorem ofText?_written {value : Json} (hlegal : value.IsLegal) :
    ofText? value.written = some value :=
  ofText?_of_spells (hlegal.spells_writtenAt 0)

end Json

end ForumPost
