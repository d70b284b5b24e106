import ForumPost.Proofs.Lookup
import ForumPost.Text.UpperCase
import Mathlib.Data.List.Basic
import Mathlib.Data.List.Pairwise

/-!
# Capitals

What the upper-case form of a text is, apart from the way in which it is found.  A
character has its capital by an entry of the tables, and is its own if it has no entry
(`IsCapital`); a text is taken character by character (`IsUpperCase`).  `upperCase`
finds that text and no other (`isUpperCase_iff`).

The tables are searched from the front, and stop at the first entry.  There is no
other one: the texts stand in ascending order, and no two runs share a character.  Most
runs are apart because one ends before the other begins, but two are interleaved: both
go in steps of two, from neighbours.

On ASCII the tables agree with `Char.toUpper` (`upperCase_of_ascii`).
-/

namespace ForumPost

namespace Text

/-- A code point and that of its capital stand at the same place of a run. -/
def CapitalRun.Pairs (run : CapitalRun) (code capital : Nat) : Prop :=
  let (first, last, step, target) := run
  ∃ place, code = first + place * step ∧ code ≤ last ∧ capital = target + place * step

/-- The capital of a character. -/
inductive IsCapital (c : Char) : Text → Prop where
  /-- It is a text. -/
  | text {codes : List Nat} (htext : (c.toNat, codes) ∈ capitalTexts) :
      IsCapital c (codes.map Char.ofNat)
  /-- It is a character. -/
  | char {run : CapitalRun} {capital : Nat} (htext : c.toNat ∉ capitalTexts.map Prod.fst)
      (hrun : run ∈ capitalRuns) (hpairs : run.Pairs c.toNat capital) :
      IsCapital c [Char.ofNat capital]
  /-- It is the character itself, which has no other one. -/
  | self (htext : c.toNat ∉ capitalTexts.map Prod.fst)
      (hchar : ∀ run ∈ capitalRuns, ∀ capital, ¬ CapitalRun.Pairs run c.toNat capital) :
      IsCapital c [c]

/-- The upper-case form of a text. -/
inductive IsUpperCase : Text → Text → Prop where
  | nil : IsUpperCase [] []
  | cons {c : Char} {capital text upper : Text} (hcapital : IsCapital c capital)
      (hrest : IsUpperCase text upper) : IsUpperCase (c :: text) (capital ++ upper)

/-! ## No character has two entries -/

namespace CapitalRun

variable {run other : CapitalRun} {code capital : Nat}

/-- What a run holds it pairs with a capital, as far from the target as the code point
is from the first one. -/
theorem pairs_iff :
    run.Pairs code capital ↔ run.holds code = true ∧ capital = run.2.2.2 + (code - run.1) := by
  obtain ⟨first, last, step, target⟩ := run
  simp only [Pairs, holds, Bool.and_eq_true, decide_eq_true_eq, beq_iff_eq]
  constructor
  · rintro ⟨place, rfl, hlast, rfl⟩
    have hoffset : first + place * step - first = place * step := Nat.add_sub_cancel_left ..
    exact ⟨⟨⟨Nat.le_add_right .., hlast⟩, by rw [hoffset, Nat.mul_mod_left]⟩, by rw [hoffset]⟩
  · rintro ⟨⟨⟨hfirst, hlast⟩, hstep⟩, rfl⟩
    obtain ⟨place, hplace⟩ := Nat.dvd_of_mod_eq_zero hstep
    rw [Nat.mul_comm] at hplace
    exact ⟨place, by omega, hlast, by rw [hplace]⟩

/-- Two runs that share no code point: one ends before the other begins, or both take
every second code point and start from neighbours. -/
def Apart (run other : CapitalRun) : Prop :=
  run.2.1 < other.1 ∨ other.2.1 < run.1 ∨
    run.2.2.1 = 2 ∧ other.2.2.1 = 2 ∧ run.1 % 2 ≠ other.1 % 2

instance : DecidableRel Apart := fun _ _ =>
  inferInstanceAs (Decidable (_ ∨ _ ∨ _ ∧ _ ∧ _))

instance : Std.Symm Apart where
  symm run other hapart := by
    unfold Apart at *
    omega

theorem Apart.not_holds (hapart : run.Apart other) (hrun : run.holds code = true) :
    other.holds code = false := by
  obtain ⟨first, last, step, target⟩ := run
  obtain ⟨first', last', step', target'⟩ := other
  simp only [holds, Bool.and_eq_true, decide_eq_true_eq, beq_iff_eq] at hrun
  obtain ⟨⟨hfirst, hlast⟩, hstep⟩ := hrun
  rw [Bool.eq_false_iff]
  simp only [ne_eq, holds, Bool.and_eq_true, decide_eq_true_eq, beq_iff_eq]
  rintro ⟨⟨hfirst', hlast'⟩, hstep'⟩
  rcases hapart with hbefore | hbehind | ⟨htwo, htwo', hparity⟩
  · exact absurd hbefore (by simp only; omega)
  · exact absurd hbehind (by simp only; omega)
  · simp only at htwo htwo' hparity
    subst htwo htwo'
    omega

end CapitalRun

theorem capitalTexts_ascending : (capitalTexts.map Prod.fst).Pairwise (· < ·) := by
  decide +kernel

theorem capitalRuns_apart : capitalRuns.Pairwise CapitalRun.Apart := by
  decide +kernel

/-- The run that is found for a code point is the only one that holds it. -/
theorem find?_capitalRuns {run : CapitalRun} {code : Nat} (hrun : run ∈ capitalRuns)
    (hholds : run.holds code = true) :
    capitalRuns.find? (fun run => CapitalRun.holds run code) = some run := by
  cases hfind : capitalRuns.find? fun run => CapitalRun.holds run code with
  | none => exact absurd hholds (List.find?_eq_none.mp hfind run hrun)
  | some found =>
    have hfound : CapitalRun.holds found code = true := by simpa using List.find?_some hfind
    by_cases heq : found = run
    · rw [heq]
    · have hapart := capitalRuns_apart.forall (List.mem_of_find?_eq_some hfind) hrun heq
      rw [hapart.not_holds hfound] at hholds
      cases hholds

/-! ## What is found -/

variable {c : Char} {text upper : Text}

/-- `capital` finds the capital of a character. -/
theorem isCapital_iff : IsCapital c upper ↔ upper = capital c := by
  unfold capital
  constructor
  · intro hcapital
    cases hcapital with
    | text htext => rw [lookup_eq_some_of_mem (capitalTexts_ascending.imp Nat.ne_of_lt) htext]
    | char htext hrun hpairs =>
      obtain ⟨hholds, rfl⟩ := CapitalRun.pairs_iff.mp hpairs
      rw [lookup_eq_none_iff_not_mem_keys.mpr htext, find?_capitalRuns hrun hholds]
      rfl
    | self htext hchar =>
      have hnone : capitalRuns.find? (fun run => CapitalRun.holds run c.toNat) = none := by
        rw [List.find?_eq_none]
        intro run hrun hholds
        exact hchar run hrun _ (CapitalRun.pairs_iff.mpr ⟨hholds, rfl⟩)
      rw [lookup_eq_none_iff_not_mem_keys.mpr htext, hnone]
  · rintro rfl
    split
    · rename_i codes hlookup
      exact .text (mem_of_lookup_eq_some hlookup)
    · rename_i hlookup
      have htext := lookup_eq_none_iff_not_mem_keys.mp hlookup
      split
      · rename_i run hfind
        have hholds : CapitalRun.holds run c.toNat = true := by simpa using List.find?_some hfind
        exact .char htext (List.mem_of_find?_eq_some hfind)
          (CapitalRun.pairs_iff.mpr ⟨hholds, rfl⟩)
      · rename_i hfind
        refine .self htext fun run hrun capital hpairs => ?_
        exact List.find?_eq_none.mp hfind run hrun (CapitalRun.pairs_iff.mp hpairs).1

/-- `upperCase` finds the upper-case form of a text. -/
theorem isUpperCase_iff : IsUpperCase text upper ↔ upper = upperCase text := by
  constructor
  · intro hupper
    induction hupper with
    | nil => rfl
    | cons hcapital hrest ih =>
      rw [isCapital_iff.mp hcapital, ih, upperCase, upperCase, List.flatMap_cons]
  · rintro rfl
    induction text with
    | nil => exact .nil
    | cons c rest ih =>
      rw [upperCase, List.flatMap_cons]
      exact .cons (isCapital_iff.mpr rfl) ih

/-- The capital of the sharp s takes two characters. -/
example : upperCase ['x', 'ß'] = ['X', 'S', 'S'] := by decide

/-! ## ASCII -/

/-- The letters from a to z are the only run in ASCII. -/
theorem pairs_of_ascii {run : CapitalRun} {code capital : Nat} (hcode : code < 128)
    (hrun : run ∈ capitalRuns) (hpairs : run.Pairs code capital) : 97 ≤ code ∧ code ≤ 122 := by
  have hbehind : ∀ other ∈ capitalRuns.tail, 128 ≤ other.1 := by decide +kernel
  have hruns : capitalRuns = (97, 122, 1, 65) :: capitalRuns.tail := rfl
  rw [hruns, List.mem_cons] at hrun
  obtain ⟨place, hplace, hlast, -⟩ := hpairs
  rcases hrun with rfl | hrun
  · exact ⟨by omega, hlast⟩
  · have hfirst := hbehind run hrun
    omega

theorem capital_of_ascii (hc : c.toNat < 128) : capital c = [c.toUpper] := by
  have hupper : ∀ code < 128, (Char.ofNat code).toUpper =
      if 97 ≤ code ∧ code ≤ 122 then Char.ofNat (65 + (code - 97) * 1) else Char.ofNat code := by
    decide +kernel
  have hkeys : ∀ code ∈ capitalTexts.map Prod.fst, 128 ≤ code := by decide +kernel
  have htext : c.toNat ∉ capitalTexts.map Prod.fst := fun hmem => by
    have hcode := hkeys _ hmem
    omega
  have hfound := hupper c.toNat hc
  rw [Char.ofNat_toNat] at hfound
  rw [hfound]
  by_cases hletter : 97 ≤ c.toNat ∧ c.toNat ≤ 122
  · rw [if_pos hletter]
    have hrun : (97, 122, 1, 65) ∈ capitalRuns := List.mem_cons_self ..
    exact (isCapital_iff.mp (.char htext hrun ⟨c.toNat - 97, by omega, hletter.2, rfl⟩)).symm
  · rw [if_neg hletter]
    refine (isCapital_iff.mp (.self htext fun run hrun capital hpairs => ?_)).symm
    exact hletter (pairs_of_ascii hc hrun hpairs)

/-- On ASCII the upper-case form is that of the letters from a to z. -/
theorem upperCase_of_ascii (htext : ∀ c ∈ text, c.toNat < 128) :
    upperCase text = text.map Char.toUpper := by
  rw [upperCase, List.flatMap_congr fun c hc => capital_of_ascii (htext c hc),
    List.map_eq_flatMap]

end Text

end ForumPost
