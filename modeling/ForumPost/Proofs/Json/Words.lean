import Mathlib.Data.List.TakeWhile
import ForumPost.Proofs.Json.Grammar

/-!
# Words in JSON

A word is a name or a number: a value that needs no brackets and no quotation marks.
Words end where a character follows that no word has (`Json.EndsWord`), so that a
reader may take all word characters before it looks at what they stand for.  For
this, a number has to be a word, whatever its parts are (`Json.TakesWord`).
-/

namespace ForumPost

namespace Json

/-- Can a character stand in a name or a number? -/
def isWordChar (c : Char) : Bool :=
  c.isAlphanum || c == '+' || c == '-' || c == '.'

/-- What a word begins with is neither white space nor opens anything. -/
theorem opensNothing_of_isWordChar {c : Char} (hc : isWordChar c = true) :
    isGap c = false ∧ c ≠ '[' ∧ c ≠ '\x7b' ∧ c ≠ '"' := by
  refine ⟨?_, ?_, ?_, ?_⟩
  · by_contra hgap
    simp only [isGap, Bool.not_eq_false, Bool.or_eq_true, beq_iff_eq] at hgap
    rcases hgap with ((rfl | rfl) | rfl) | rfl <;> cases hc
  all_goals
    rintro rfl
    cases hc

/-! ## Numbers are words -/

theorem isWordChar_of_isDigit {c : Char} (hc : c.isDigit = true) : isWordChar c = true := by
  simp [isWordChar, Char.isAlphanum, hc]

/-- A part of a number takes off word characters and nothing else. -/
def TakesWord (after? : Text → Option Text) : Prop :=
  ∀ text rest, after? text = some rest →
    ∃ front, text = front ++ rest ∧ ∀ c ∈ front, isWordChar c = true

theorem TakesWord.cons {after? : Text → Option Text} (hafter : TakesWord after?) {c : Char}
    (hc : isWordChar c = true) {text rest : Text} (hrest : after? text = some rest) :
    ∃ front, c :: text = front ++ rest ∧ ∀ c ∈ front, isWordChar c = true := by
  obtain ⟨front, rfl, hfront⟩ := hafter text rest hrest
  exact ⟨c :: front, rfl, List.forall_mem_cons.mpr ⟨hc, hfront⟩⟩

theorem takesWord_afterDigits? : TakesWord afterDigits? := by
  intro text rest hrest
  cases text with
  | nil => cases hrest
  | cons c others =>
    rw [afterDigits?] at hrest
    split at hrest
    · rename_i hc
      refine ⟨c :: others.takeWhile Char.isDigit, ?_, ?_⟩
      · rw [← Option.some.inj hrest, List.cons_append, List.takeWhile_append_dropWhile]
      · refine List.forall_mem_cons.mpr ⟨isWordChar_of_isDigit hc, fun digit hdigit => ?_⟩
        exact isWordChar_of_isDigit (List.mem_takeWhile_imp hdigit)
    · cases hrest

theorem takesWord_afterWhole? : TakesWord afterWhole? := by
  intro text rest hrest
  unfold afterWhole? at hrest
  split at hrest
  · exact ⟨['-', '0'], by rw [← Option.some.inj hrest]; rfl, List.all_eq_true.mp rfl⟩
  · exact takesWord_afterDigits?.cons (by decide) hrest
  · exact ⟨['0'], by rw [← Option.some.inj hrest]; rfl, List.all_eq_true.mp rfl⟩
  · exact takesWord_afterDigits? _ _ hrest

theorem takesWord_afterFraction? : TakesWord afterFraction? := by
  intro text rest hrest
  unfold afterFraction? at hrest
  split at hrest
  · exact takesWord_afterDigits?.cons (by decide) hrest
  · exact ⟨[], by rw [← Option.some.inj hrest]; rfl, nofun⟩

theorem takesWord_afterSigned? : TakesWord afterSigned? := by
  intro text rest hrest
  unfold afterSigned? at hrest
  split at hrest
  · exact takesWord_afterDigits?.cons (by decide) hrest
  · exact takesWord_afterDigits?.cons (by decide) hrest
  · exact takesWord_afterDigits? _ _ hrest

theorem takesWord_afterExponent? : TakesWord afterExponent? := by
  intro text rest hrest
  cases text with
  | nil => exact ⟨[], by rw [← Option.some.inj hrest]; rfl, nofun⟩
  | cons c digits =>
    rw [afterExponent?] at hrest
    split at hrest
    · rename_i hc
      have hletter : isWordChar c = true := by
        rcases Bool.or_eq_true_iff.mp hc with hsmall | hlarge
        · rw [beq_iff_eq.mp hsmall]
          rfl
        · rw [beq_iff_eq.mp hlarge]
          rfl
      exact takesWord_afterSigned?.cons hletter hrest
    · exact ⟨[], by rw [← Option.some.inj hrest]; rfl, nofun⟩

/-- A number is a word. -/
theorem isWordChar_of_isNumber {text : Text} (htext : isNumber text = true) :
    ∀ c ∈ text, isWordChar c = true := by
  simp only [isNumber, beq_iff_eq, Option.bind_eq_bind, Option.bind_eq_some_iff] at htext
  obtain ⟨first, hwhole, second, hfraction, hexponent⟩ := htext
  obtain ⟨whole, rfl, hwholeChars⟩ := takesWord_afterWhole? _ _ hwhole
  obtain ⟨fraction, rfl, hfractionChars⟩ := takesWord_afterFraction? _ _ hfraction
  obtain ⟨exponent, rfl, hexponentChars⟩ := takesWord_afterExponent? _ _ hexponent
  rw [List.append_nil]
  intro c hc
  rcases List.mem_append.mp hc with hc | hc
  · exact hwholeChars c hc
  · rcases List.mem_append.mp hc with hc | hc
    · exact hfractionChars c hc
    · exact hexponentChars c hc

theorem isWordChar_of_ofWord? {word : Text} {value : Json} (hword : ofWord? word = some value) :
    word ≠ [] ∧ ∀ c ∈ word, isWordChar c = true := by
  constructor
  · rintro rfl
    cases hword
  · unfold ofWord? at hword
    split at hword
    · rename_i hnull
      rw [hnull]
      exact List.all_eq_true.mp rfl
    split at hword
    · rename_i htrue
      rw [htrue]
      exact List.all_eq_true.mp rfl
    split at hword
    · rename_i hfalse
      rw [hfalse]
      exact List.all_eq_true.mp rfl
    split at hword
    · rename_i hnumber
      exact isWordChar_of_isNumber hnumber
    · cases hword

/-! ## What is behind a word -/

/-- Can a text stand behind a word? -/
def EndsWord (text : Text) : Prop :=
  ∀ c ∈ text.head?, isWordChar c = false

theorem endsWord_nil : EndsWord [] :=
  nofun

theorem endsWord_cons {c : Char} (hc : isWordChar c = false) (rest : Text) :
    EndsWord (c :: rest) := by
  intro first hfirst
  rwa [← Option.some.inj hfirst]

theorem EndsWord.append {gap rest : Text} (hgap : IsGap gap) (hrest : EndsWord rest) :
    EndsWord (gap ++ rest) := by
  cases gap with
  | nil => exact hrest
  | cons c others =>
    have hc : isGap c = true := hgap c (List.mem_cons_self ..)
    apply endsWord_cons
    simp only [isGap, Bool.or_eq_true, beq_iff_eq] at hc
    rcases hc with ((rfl | rfl) | rfl) | rfl <;> decide

theorem takeWhile_word {word rest : Text} (hword : ∀ c ∈ word, isWordChar c = true)
    (hrest : EndsWord rest) :
    (word ++ rest).takeWhile isWordChar = word ∧ (word ++ rest).dropWhile isWordChar = rest := by
  have hnone : rest.takeWhile isWordChar = [] ∧ rest.dropWhile isWordChar = rest := by
    cases rest with
    | nil => exact ⟨rfl, rfl⟩
    | cons c others =>
      have hc : isWordChar c = false := hrest c rfl
      exact ⟨List.takeWhile_cons_of_neg (by simp [hc]), List.dropWhile_cons_of_neg (by simp [hc])⟩
  rw [List.takeWhile_append_of_pos hword, List.dropWhile_append_of_pos hword, hnone.1, hnone.2,
    List.append_nil]
  exact ⟨rfl, rfl⟩

end Json

end ForumPost
