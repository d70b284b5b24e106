import Mathlib.Data.List.Find
import ForumPost.Text.Columns

/-!
# Columns of a text in front of a border

How many columns a character takes hangs on the characters behind it, since several
characters may be shown as one sign.  No sign goes on over a character that belongs to
none of the classes that signs are made of (`Text.StandsAlone`).  The characters that a
grid is drawn with are of that kind.

So a text takes as many columns in front of such a character as it takes alone
(`Text.columns_append`), and the character takes one (`Text.columns_cons`).
-/

namespace ForumPost

namespace Text

/-- The classes of the characters that are shown together with others. -/
def signClasses : List CharClass :=
  shapes.flatMap (·.1) ++ emojiShapes.flatten ++
    [joiner, flagLetters, skinTones, emojiRanges, lamRanges, alefRanges, transparentRanges]

/-- A printable character of ASCII that is never part of a larger sign. -/
structure StandsAlone (c : Char) : Prop where
  printable : 0x20 ≤ c.toNat ∧ c.toNat < 0x7F
  alone : ∀ charClass ∈ signClasses, inRanges charClass c.toNat = false

theorem standsAlone_of_mem {c : Char} (hc : c ∈ " +-|".toList) : StandsAlone c := by
  have hborder : c = ' ' ∨ c = '+' ∨ c = '-' ∨ c = '|' := by simpa using hc
  rcases hborder with rfl | rfl | rfl | rfl
  all_goals exact ⟨by decide, by decide +kernel⟩

/-! ## Signs fit into their text -/

theorem length_le_of_beginsWith {classes : List CharClass} {text : Text}
    (hbegins : beginsWith classes text = true) : classes.length ≤ text.length := by
  induction classes generalizing text with
  | nil => exact Nat.zero_le _
  | cons charClass more ih =>
    cases text with
    | nil => cases hbegins
    | cons c rest =>
      rw [beginsWith, Bool.and_eq_true] at hbegins
      exact Nat.succ_le_succ (ih hbegins.2)

theorem tagsLength_le {text : Text} {length : Nat} (hlength : tagsLength text = some length) :
    length ≤ text.length := by
  induction text generalizing length with
  | nil => cases hlength
  | cons c rest ih =>
    rw [tagsLength] at hlength
    split at hlength
    · cases hlength
      simp
    · split at hlength
      · obtain ⟨more, hmore, rfl⟩ := Option.map_eq_some_iff.mp hlength
        exact Nat.succ_le_succ (ih hmore)
      · cases hlength

theorem alefLength_le {text : Text} {length : Nat} (hlength : alefLength text = some length) :
    length ≤ text.length := by
  induction text generalizing length with
  | nil => cases hlength
  | cons c rest ih =>
    rw [alefLength] at hlength
    split at hlength
    · cases hlength
      simp
    · split at hlength
      · obtain ⟨more, hmore, rfl⟩ := Option.map_eq_some_iff.mp hlength
        exact Nat.succ_le_succ (ih hmore)
      · cases hlength

theorem emojiLength_le {atStart : Bool} {text : Text} {length : Nat}
    (hlength : emojiLength atStart text = some length) : length ≤ text.length := by
  unfold emojiLength at hlength
  split at hlength
  · rename_i shape hshape
    cases hlength
    have hbegins : beginsWith shape text = true := by simpa using List.find?_some hshape
    exact length_le_of_beginsWith hbegins
  · cases text with
    | nil => cases hlength
    | cons c rest =>
      dsimp only at hlength
      split at hlength
      · rename_i tags htags
        split at htags
        · cases hlength
          exact Nat.succ_le_succ (tagsLength_le htags)
        · cases htags
      · split at hlength
        · cases hlength
        · split at hlength
          · cases hlength
          · split at hlength
            · cases hlength
              simp
            · cases hlength

theorem joinedLength_le (fuel : Nat) (text : Text) : joinedLength fuel text ≤ text.length := by
  induction fuel generalizing text with
  | zero => exact Nat.zero_le _
  | succ fuel ih =>
    cases text with
    | nil => exact Nat.zero_le _
    | cons c rest =>
      rw [joinedLength]
      split
      · split
        · rename_i length hlength
          have hemoji := emojiLength_le hlength
          have hrest := ih (rest.drop length)
          rw [List.length_drop] at hrest
          rw [List.length_cons]
          omega
        · exact Nat.zero_le _
      · exact Nat.zero_le _

/-- A sign does not go beyond the end of the text. -/
theorem sign_le (c : Char) (rest : Text) : (sign c rest).2 ≤ rest.length := by
  rw [sign]
  split
  · exact Nat.zero_le _
  · split
    · rename_i shape columns hshape
      have hbegins : beginsWith shape (c :: rest) = true := by simpa using List.find?_some hshape
      have hlength := length_le_of_beginsWith hbegins
      rw [List.length_cons] at hlength
      dsimp only
      omega
    · split
      · rename_i length hlength
        have hemoji := emojiLength_le hlength
        have hjoined := joinedLength_le (rest.drop (length - 1)).length (rest.drop (length - 1))
        have htail : (rest.drop (length - 1)).length = rest.length - (length - 1) :=
          List.length_drop
        rw [List.length_cons] at hemoji
        dsimp only
        omega
      · split
        · rename_i length hlength
          split at hlength
          · exact alefLength_le hlength
          · cases hlength
        · exact Nat.zero_le _

theorem joinedLength_succ {fuel : Nat} {text : Text} (hfuel : text.length ≤ fuel) :
    joinedLength (fuel + 1) text = joinedLength fuel text := by
  induction fuel generalizing text with
  | zero =>
    obtain rfl := List.length_eq_zero_iff.mp (Nat.le_zero.mp hfuel)
    rfl
  | succ fuel ih =>
    cases text with
    | nil => rfl
    | cons c rest =>
      have hrest (length : Nat) : (rest.drop length).length ≤ fuel := by
        rw [List.length_cons] at hfuel
        rw [List.length_drop]
        omega
      rw [joinedLength, joinedLength]
      simp only [ih (hrest _)]

/-- More than the length of the text is no better bound for the emoji in it. -/
theorem joinedLength_of_le {fuel : Nat} {text : Text} (hfuel : text.length ≤ fuel) :
    joinedLength fuel text = joinedLength text.length text := by
  induction hfuel with
  | refl => rfl
  | step hle ih => rw [joinedLength_succ hle, ih]

/-! ## Signs in front of a character that stands alone -/

section StandsAlone

variable {c : Char}

theorem beginsWith_append {classes : List CharClass}
    (hclasses : ∀ charClass ∈ classes, inRanges charClass c.toNat = false) (text rest : Text) :
    beginsWith classes (text ++ c :: rest) = beginsWith classes text := by
  induction classes generalizing text with
  | nil => simp [beginsWith]
  | cons charClass more ih =>
    obtain ⟨hfirst, hmore⟩ := List.forall_mem_cons.mp hclasses
    cases text with
    | nil => simp [beginsWith, hfirst]
    | cons d tail => rw [List.cons_append, beginsWith, beginsWith, ih hmore]

variable (hc : StandsAlone c)
include hc

theorem tagsLength_append (text rest : Text) :
    tagsLength (text ++ c :: rest) = tagsLength text := by
  obtain ⟨-, hascii⟩ := hc.printable
  induction text with
  | nil =>
    have hend : (c.toNat == 0xE007F) = false := by simp; omega
    have htag : (0xE0020 ≤ c.toNat && c.toNat < 0xE007F) = false := by simp; omega
    simp [tagsLength, hend, htag]
  | cons d tail ih => rw [List.cons_append, tagsLength, tagsLength, ih]

theorem alefLength_append (text rest : Text) :
    alefLength (text ++ c :: rest) = alefLength text := by
  have halef : inRanges alefRanges c.toNat = false := hc.alone _ (by simp [signClasses])
  have htransparent : inRanges transparentRanges c.toNat = false :=
    hc.alone _ (by simp [signClasses])
  induction text with
  | nil => simp [alefLength, halef, htransparent]
  | cons d tail ih => rw [List.cons_append, alefLength, alefLength, ih]

theorem emojiLength_append (atStart : Bool) (text rest : Text) :
    emojiLength atStart (text ++ c :: rest) = emojiLength atStart text := by
  have hshape : emojiShapes.find? (fun shape => beginsWith shape (text ++ c :: rest)) =
      emojiShapes.find? fun shape => beginsWith shape text := by
    apply List.find?_congr
    intro shape hshape
    apply beginsWith_append
    intro charClass hmem
    have hclass : charClass ∈ emojiShapes.flatten := List.mem_flatten.mpr ⟨shape, hshape, hmem⟩
    exact hc.alone charClass (List.mem_append_left _ (List.mem_append_right _ hclass))
  unfold emojiLength
  rw [hshape]
  cases text with
  | cons d tail => simp only [List.cons_append, tagsLength_append hc]
  | nil =>
    have hflag : inRanges flagLetters c.toNat = false := hc.alone _ (by simp [signClasses])
    have htone : inRanges skinTones c.toNat = false := hc.alone _ (by simp [signClasses])
    have hemoji : inRanges emojiRanges c.toNat = false := hc.alone _ (by simp [signClasses])
    have hblack : (c.toNat == 0x1F3F4) = false := by
      have hascii := hc.printable.2
      simp
      omega
    simp [hflag, htone, hemoji, hblack]

theorem joinedLength_append (fuel : Nat) (text rest : Text) :
    joinedLength fuel (text ++ c :: rest) = joinedLength fuel text := by
  have hjoiner : inRanges joiner c.toNat = false := hc.alone _ (by simp [signClasses])
  induction fuel generalizing text with
  | zero => rfl
  | succ fuel ih =>
    cases text with
    | nil => simp [joinedLength, hjoiner]
    | cons d tail =>
      rw [List.cons_append, joinedLength, joinedLength, emojiLength_append hc]
      cases hlength : emojiLength false tail with
      | none => rfl
      | some length =>
        have hdrop := emojiLength_le hlength
        simp only [List.drop_append_of_le_length hdrop, ih]

theorem find?_shapes_append (text rest : Text) :
    shapes.find? (fun shape => beginsWith shape.1 (text ++ c :: rest)) =
      shapes.find? fun shape => beginsWith shape.1 text := by
  apply List.find?_congr
  intro shape hshape
  apply beginsWith_append
  intro charClass hmem
  have hclass : charClass ∈ shapes.flatMap (·.1) := List.mem_flatMap.mpr ⟨shape, hshape, hmem⟩
  exact hc.alone charClass (List.mem_append_left _ (List.mem_append_left _ hclass))

/-- A sign is the same in front of a character that stands alone. -/
theorem sign_append (d : Char) (text rest : Text) : sign d (text ++ c :: rest) = sign d text := by
  have hnext : ((text ++ c :: rest).head?.elim true fun next => decide (next.toNat < 0x300)) =
      text.head?.elim true fun next => decide (next.toNat < 0x300) := by
    cases text with
    | nil =>
      have hascii := hc.printable.2
      simp
      omega
    | cons first tail => rfl
  have hshape := find?_shapes_append hc (d :: text) rest
  have hemoji := emojiLength_append hc true (d :: text) rest
  rw [List.cons_append] at hshape hemoji
  rw [sign, sign, hnext, hshape, hemoji, alefLength_append hc]
  cases hlength : emojiLength true (d :: text) with
  | none => rfl
  | some length =>
    have hdrop : length - 1 ≤ text.length := by
      have hle := emojiLength_le hlength
      rw [List.length_cons] at hle
      omega
    have hfuel : (text.drop (length - 1)).length ≤
        (text.drop (length - 1) ++ c :: rest).length := by simp
    simp only [List.drop_append_of_le_length hdrop, joinedLength_append hc,
      joinedLength_of_le hfuel]

/-- The character itself takes one column, whatever is behind it. -/
theorem sign_eq (rest : Text) : sign c rest = (1, 0) := by
  have hshape : shapes.find? (fun shape => beginsWith shape.1 (c :: rest)) = none :=
    (find?_shapes_append hc [] rest).trans (by decide)
  have hemoji : emojiLength true (c :: rest) = none :=
    (emojiLength_append hc true [] rest).trans (by decide)
  have hlam : inRanges lamRanges c.toNat = false := hc.alone _ (by simp [signClasses])
  obtain ⟨hprintable, hascii⟩ := hc.printable
  have hcontrol : isControl c = false := by
    simp [isControl]
    omega
  have hshown : shownColumns c = 1 := by
    have hsmall : c.toNat < 0xAD := by omega
    simp [shownColumns, hsmall]
  rw [sign, hshape, hemoji, hlam]
  simp [hcontrol, hshown]

theorem columns_cons (rest : Text) : columns (c :: rest) = 1 + columns rest := by
  rw [columns, columnsFrom, sign_eq hc]
  rfl

theorem columnsFrom_append {skip : Nat} {text : Text} (hskip : skip ≤ text.length) (rest : Text) :
    columnsFrom skip (text ++ c :: rest) = columnsFrom skip text + columns (c :: rest) := by
  induction text generalizing skip with
  | nil =>
    obtain rfl := Nat.le_zero.mp hskip
    simp [columnsFrom, columns]
  | cons d tail ih =>
    cases skip with
    | zero =>
      rw [List.cons_append, columnsFrom, columnsFrom, sign_append hc]
      dsimp only
      rw [ih (sign_le d tail), Nat.add_assoc]
    | succ skip =>
      rw [List.cons_append, columnsFrom, columnsFrom]
      exact ih (Nat.le_of_succ_le_succ hskip)

/-- A text in front of a character that stands alone takes its own columns. -/
theorem columns_append (text rest : Text) :
    columns (text ++ c :: rest) = columns text + columns (c :: rest) :=
  columnsFrom_append hc (Nat.zero_le _) rest

theorem columns_replicate (count : Nat) : columns (List.replicate count c) = count := by
  induction count with
  | zero => rfl
  | succ count ih => rw [List.replicate_succ, columns_cons hc, ih, Nat.add_comm]

end StandsAlone

end Text

end ForumPost
