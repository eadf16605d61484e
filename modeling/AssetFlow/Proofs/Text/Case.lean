import AssetFlow.Text.Case
import Mathlib.Tactic.Common

/-!
# Lower case and the case of ASCII letters

Names are compared up to the case of ASCII letters, and columns are merged by their lower case. The
lower case of a text does not depend on the case of its ASCII letters (`lower_map_toLower`), though
the lower case of a sigma depends on the letters beside it. So two names that are equal up to this
case are merged alike.

## Main statements

- `lower_map_toLower`: the lower case of a text whose ASCII letters are in lower case already
- `lower_eq_of_equalsIgnoringAsciiCase`: names that are equal up to case have one lower case
-/

namespace AssetFlow.Text

variable {α : Type}

/-- Lowering changes the ASCII capitals and nothing else. -/
theorem toLower_eq_or (c : Char) :
    c.toLower = c ∨ ∃ i < 26, c = Char.ofNat (65 + i) ∧ c.toLower = Char.ofNat (97 + i) := by
  by_cases hupper : 65 ≤ c.toNat ∧ c.toNat ≤ 90
  · right
    have hletters : ∀ i < 26, (Char.ofNat (65 + i)).toLower = Char.ofNat (97 + i) := by decide
    have hc : c = Char.ofNat (65 + (c.toNat - 65)) := by
      rw [Nat.add_sub_cancel' hupper.1, Char.ofNat_toNat]
    refine ⟨c.toNat - 65, by omega, hc, ?_⟩
    rw [← hletters _ (by omega), ← hc]
  · left
    refine dif_neg fun h => hupper ?_
    rw [ge_iff_le, UInt32.le_iff_toNat_le, UInt32.le_iff_toNat_le] at h
    exact h

/-- A function that is the same for both cases of each ASCII letter does not depend on the case. -/
theorem apply_toLower {f : Char → α}
    (hletters : ∀ i < 26, f (Char.ofNat (97 + i)) = f (Char.ofNat (65 + i))) (c : Char) :
    f c.toLower = f c := by
  obtain h | ⟨i, hi, hc, hlower⟩ := toLower_eq_or c
  · rw [h]
  · rw [hlower, hletters i hi, ← hc]

theorem isCaseIgnorable_toLower (c : Char) : isCaseIgnorable c.toLower = isCaseIgnorable c :=
  apply_toLower (by decide +kernel) c

theorem isCased_toLower (c : Char) : isCased c.toLower = isCased c :=
  apply_toLower (by decide +kernel) c

theorem lowerChar_toLower (c : Char) : lowerChar c.toLower = lowerChar c :=
  apply_toLower (by decide +kernel) c

/-- The characters that case ignores are the same before and after lowering ASCII. -/
theorem dropWhile_map_toLower (cs : List Char) :
    (cs.map Char.toLower).dropWhile isCaseIgnorable =
      (cs.dropWhile isCaseIgnorable).map Char.toLower := by
  have hcomp : isCaseIgnorable ∘ Char.toLower = isCaseIgnorable := funext isCaseIgnorable_toLower
  rw [List.dropWhile_map, hcomp]

/-- Lowering ASCII first makes no difference to lowering a text. -/
theorem lowerFrom_map_toLower (before cs : List Char) :
    lowerFrom (before.map Char.toLower) (cs.map Char.toLower) = lowerFrom before cs := by
  induction cs generalizing before with
  | nil => rfl
  | cons c rest ih =>
    have hsigma : (c.toLower == '\u03a3') = (c == '\u03a3') :=
      apply_toLower (f := (· == '\u03a3')) (by decide +kernel) c
    have htail := ih (c :: before)
    rw [List.map_cons] at htail
    rw [List.map_cons, lowerFrom, lowerFrom, htail, hsigma, lowerChar_toLower,
      dropWhile_map_toLower, dropWhile_map_toLower]
    cases before.dropWhile isCaseIgnorable <;> cases rest.dropWhile isCaseIgnorable <;>
      simp only [List.map_nil, List.map_cons, isCased_toLower]

/-- The lower case does not depend on the case of ASCII letters. -/
theorem lower_map_toLower (s : String) : lower (s.map Char.toLower) = lower s := by
  have hascii : (s.map Char.toLower).toList.all (fun c : Char => decide (c.toNat < 128)) =
      s.toList.all (fun c : Char => decide (c.toNat < 128)) := by
    rw [String.toList_map, List.all_map]
    exact congrArg s.toList.all
      (funext (apply_toLower (f := fun c => decide (c.toNat < 128)) (by decide +kernel)))
  have htwice : Char.toLower ∘ Char.toLower = Char.toLower :=
    funext (apply_toLower (by decide +kernel))
  rw [lower, lower, hascii, String.map_map, htwice, String.toList_map,
    ← lowerFrom_map_toLower [] s.toList, List.map_nil]

/-- Texts that differ in ASCII case only are lowered to the same text. -/
theorem lower_eq_of_equalsIgnoringAsciiCase {s t : String}
    (h : equalsIgnoringAsciiCase s t = true) : lower s = lower t := by
  rw [← lower_map_toLower s, ← lower_map_toLower t, beq_iff_eq.mp h]

end AssetFlow.Text
