import Mathlib.Data.String.Basic
import Mathlib.Tactic.Common

/-!
# Texts split at a character

A text is split at a character by positions in its bytes. It comes apart as its row of characters
does, so it has one part more than the character occurs in it.

## Main statements

- `Text.splitOn_singleton`: splitting a text is splitting its characters
- `Text.length_splitOn_singleton`: the number of parts
-/

namespace AssetFlow.Text

open String

variable {c d : Char} {before part rest : List Char} {found : List String}

/-! ### The search for separators

The search has gone through `before`, which is done with, and through `part`. -/

theorem splitOnAux_end : splitOnAux (ofList (before ++ part)) (ofList [c]) ⟨utf8Len before⟩
    ⟨utf8Len before + utf8Len part⟩ 0 found = (ofList part :: found).reverse := by
  have hend := atEnd_of_valid (before ++ part) []
  have hextract := extract_of_valid before part []
  rw [utf8Len_append, List.append_nil] at hend
  rw [List.append_nil] at hextract
  rw [splitOnAux, if_pos (hend.mpr rfl), hextract]

/-- A part ends with the separator, and the next one starts after it. -/
theorem splitOnAux_separator :
    splitOnAux (ofList (before ++ part ++ c :: rest)) (ofList [c]) ⟨utf8Len before⟩
        ⟨utf8Len before + utf8Len part⟩ 0 found =
      splitOnAux (ofList (before ++ part ++ c :: rest)) (ofList [c])
        ⟨utf8Len before + utf8Len part + c.utf8Size⟩ ⟨utf8Len before + utf8Len part + c.utf8Size⟩ 0
        (ofList part :: found) := by
  have hend := atEnd_of_valid (before ++ part) (c :: rest)
  have hextract := extract_of_valid before part (c :: rest)
  have hget := get_of_valid (before ++ part) (c :: rest)
  have hnext := next_of_valid (before ++ part) c rest
  rw [utf8Len_append] at hend hget hnext
  have hsep : Pos.Raw.get (ofList [c]) 0 = c := get_of_valid [] [c]
  have hsep' : Pos.Raw.next (ofList [c]) 0 = ⟨0 + c.utf8Size⟩ := next_of_valid [] c []
  have hlast : Pos.Raw.atEnd (ofList [c]) ⟨0 + c.utf8Size⟩ = true := by
    simpa using (atEnd_of_valid [c] []).mpr rfl
  have hback : Pos.Raw.unoffsetBy ⟨utf8Len before + utf8Len part + c.utf8Size⟩
      ⟨0 + c.utf8Size⟩ = ⟨utf8Len before + utf8Len part⟩ := by
    simp [Pos.Raw.unoffsetBy]
  rw [splitOnAux, if_neg (fun h => by cases hend.mp h), hget, hsep, List.headD_cons]
  simp only [beq_self_eq_true, if_true, hsep', hlast, hnext, hback, hextract]

/-- Any other character goes to the part. -/
theorem splitOnAux_other (hd : d ≠ c) :
    splitOnAux (ofList (before ++ part ++ d :: rest)) (ofList [c]) ⟨utf8Len before⟩
        ⟨utf8Len before + utf8Len part⟩ 0 found =
      splitOnAux (ofList (before ++ part ++ d :: rest)) (ofList [c]) ⟨utf8Len before⟩
        ⟨utf8Len before + utf8Len part + d.utf8Size⟩ 0 found := by
  have hend := atEnd_of_valid (before ++ part) (d :: rest)
  have hget := get_of_valid (before ++ part) (d :: rest)
  have hnext := next_of_valid (before ++ part) d rest
  rw [utf8Len_append] at hend hget hnext
  have hsep : Pos.Raw.get (ofList [c]) 0 = c := get_of_valid [] [c]
  have hback : Pos.Raw.unoffsetBy ⟨utf8Len before + utf8Len part⟩ 0 =
      ⟨utf8Len before + utf8Len part⟩ :=
    rfl
  rw [splitOnAux, if_neg (fun h => by cases hend.mp h), hget, hsep, List.headD_cons,
    if_neg (by simpa using hd), hback, hnext]

/-- The search gives the parts that it has found, and those of what it has not done with. -/
theorem splitOnAux_eq (before part rest : List Char) (found : List String) (hpart : c ∉ part) :
    splitOnAux (ofList (before ++ part ++ rest)) (ofList [c]) ⟨utf8Len before⟩
        ⟨utf8Len before + utf8Len part⟩ 0 found =
      found.reverse ++ ((part ++ rest).splitOn c).map ofList := by
  induction rest generalizing before part found with
  | nil =>
    rw [List.append_nil, splitOnAux_end, List.append_nil, List.splitOn_eq_singleton hpart]
    simp
  | cons d rest ih =>
    by_cases hd : d = c
    · subst hd
      have ih := ih (before ++ part ++ [d]) [] (ofList part :: found) List.not_mem_nil
      have hlength : utf8Len (before ++ part ++ [d]) =
          utf8Len before + utf8Len part + d.utf8Size := by
        simp [Nat.add_assoc]
      have hlist : before ++ part ++ [d] ++ [] ++ rest = before ++ part ++ d :: rest := by simp
      rw [hlength, hlist, utf8Len_nil, Nat.add_zero] at ih
      rw [splitOnAux_separator, ih, List.splitOn_append_cons_self, List.splitOn_eq_singleton hpart]
      simp
    · have ih := ih before (part ++ [d]) found (by simp [hpart, Ne.symm hd])
      have hlength : utf8Len before + utf8Len (part ++ [d]) =
          utf8Len before + utf8Len part + d.utf8Size := by
        simp [Nat.add_assoc]
      have hlist : before ++ (part ++ [d]) ++ rest = before ++ part ++ d :: rest := by simp
      have hlist' : part ++ [d] ++ rest = part ++ d :: rest := by simp
      rw [hlength, hlist, hlist'] at ih
      rw [splitOnAux_other hd, ih]

/-! ### Parts -/

/-- **Splitting a text at a character** is splitting its row of characters. -/
theorem splitOn_singleton (s : String) (c : Char) :
    s.splitOn (ofList [c]) = (s.toList.splitOn c).map ofList := by
  have hsep : (ofList [c] == "") = false := by
    rw [beq_eq_false_iff_ne, ne_eq, ← toList_inj, toList_ofList]
    exact List.cons_ne_nil c []
  have haux := splitOnAux_eq [] [] s.toList [] (List.not_mem_nil (a := c))
  rw [List.nil_append, List.nil_append, ofList_toList] at haux
  rw [splitOn, hsep, if_neg Bool.false_ne_true]
  exact haux

theorem length_splitOn (c : Char) (cs : List Char) : (cs.splitOn c).length = cs.count c + 1 := by
  induction cs with
  | nil => rfl
  | cons d cs ih =>
    rw [List.splitOn_cons_eq_if_modifyHead, List.count_cons]
    split
    · rw [List.length_cons, ih]
    · rw [List.length_modifyHead, ih, Nat.add_zero]

/-- The number of parts. -/
theorem length_splitOn_singleton (s : String) (c : Char) :
    (s.splitOn (ofList [c])).length = s.toList.count c + 1 := by
  rw [splitOn_singleton, List.length_map, length_splitOn]

end AssetFlow.Text
