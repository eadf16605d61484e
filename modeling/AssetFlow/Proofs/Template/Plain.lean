import AssetFlow.Template.Window
import Mathlib.Tactic.Common

/-!
# Templates without marks

A template in which nothing is marked is rendered as it is, whatever is known of the run.

## Main definitions

- `Template.Unmarked`, `Template.Plain`: nothing is marked in a text

## Main statements

- `Template.render_of_plain`: such a text is rendered as it is
-/

namespace AssetFlow.Template

/-- Nothing is marked in a row of characters: no opening brace comes before another one, a percent
sign or a number sign. -/
def Unmarked (cs : List Char) : Prop :=
  ∀ before d after, cs = before ++ '{' :: d :: after → d ≠ '{' ∧ d ≠ '%' ∧ d ≠ '#'

/-- Nothing is marked in a text. -/
def Plain (source : String) : Prop :=
  Unmarked source.toList

/-- A text without braces is plain. -/
theorem plain_of_not_mem {source : String} (h : '{' ∉ source.toList) : Plain source := by
  intro before d after hsource
  rw [hsource] at h
  exact absurd (List.mem_append_right before (List.mem_cons_self ..)) h

theorem Unmarked.tail {c : Char} {cs : List Char} (h : Unmarked (c :: cs)) : Unmarked cs := by
  intro before d after hcs
  exact h (c :: before) d after (by rw [hcs, List.cons_append])

/-- Text without marks goes on to its end. -/
theorem toMark_of_unmarked {cs : List Char} (h : Unmarked cs) : Token.toMark cs = (cs, none) := by
  induction cs using Token.toMark.induct with
  | case1 d rest hmark =>
    obtain ⟨hbrace, hpercent, hnumber⟩ := h [] d rest rfl
    simp [hbrace, hpercent, hnumber] at hmark
  | case2 d rest hmark _ _ _ ih => rw [Token.toMark, if_neg hmark, ih h.tail]
  | case3 c rest hnot _ _ _ ih =>
    rw [Token.toMark, ih h.tail]
    exact hnot
  | case4 => rfl

/-- A plain text is one token. -/
theorem tokens_of_plain {source : String} (h : Plain source) :
    tokens source = .ok (if source.toList.isEmpty then [] else [.data source]) := by
  rw [tokens, Token.read, toMark_of_unmarked h]
  simp [Token.dataToken]

/-- A plain text is parsed as itself. -/
theorem parse_of_plain {source : String} (h : Plain source) :
    parse source = .ok (if source.toList.isEmpty then [] else [.data source]) := by
  rw [parse, tokens_of_plain h]
  cases source.toList.isEmpty <;> rfl

/-- **A text without marks is rendered as it is.** -/
theorem render_of_plain {source : String} (h : Plain source) (globals : List (String × Datum)) :
    render globals source = .ok source := by
  obtain ⟨fuel, hfuel⟩ : ∃ fuel, renderFuel = fuel + 2 := ⟨renderFuel - 2, by decide⟩
  rw [render, parse_of_plain h, hfuel]
  cases hempty : source.toList.isEmpty with
  | true =>
    have hnil : source = "" := String.toList_eq_nil_iff.mp (List.isEmpty_iff.mp hempty)
    rw [hnil]
    rfl
  | false =>
    have hjoin : String.join [source] = source := by simp
    exact congrArg Except.ok hjoin

end AssetFlow.Template
