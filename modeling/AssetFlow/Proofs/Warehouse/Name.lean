import AssetFlow.Proofs.Sql.TokenRow
import AssetFlow.Proofs.Text.Split
import AssetFlow.Warehouse.Name
import Mathlib.Data.List.Forall2

/-!
# Names and texts in statements

A name stands in a statement with each of its parts in quotes, and a text as a literal. Whatever
they are, they are read as the tokens that are meant. How many tokens a name has is decided by its
dots.

## Main definitions

- `Warehouse.quotedWord`, `Warehouse.qualifiedTokens`: the tokens of a name
- `Warehouse.literalText`: a text as a literal

## Main statements

- `Warehouse.spells_quoteQualified`: a qualified name is its parts with dots between them
- `Warehouse.map_masked_qualifiedTokens`: what of the name the tokens tell but for the values
-/

namespace AssetFlow

open Sql

namespace Warehouse

/-- The token of a name in quotes. -/
def quotedWord (name : String) : Token :=
  .word name (some '"') ""

/-- The tokens of a qualified name. -/
def qualifiedTokens (name : String) : List Token :=
  ((name.splitOn ".").map quotedWord).intersperse (.symbol ".")

/-- A quoted name is read as one token, whose value is the name. -/
theorem spells_quoteName (name : String) :
    SpellsBefore .duckDb (fun rest => rest.head? ≠ some '"') (quoteName name) [quotedWord name] :=
  fun _ _ hrest h => h.ident name hrest

/-- **A qualified name** is read as its parts, with dots between them. -/
theorem spells_quoteQualified (name : String) :
    SpellsBefore .duckDb (fun rest => rest.head? ≠ some '"') (quoteQualified name)
      (qualifiedTokens name) := by
  intro rest ts hrest h
  have hparts : List.Forall₂ (SpellsBefore .duckDb fun rest => rest.head? ≠ some '"')
      ((name.splitOn ".").map quoteName)
      ((name.splitOn ".").map fun part => [quotedWord part]) := by
    rw [List.forall₂_map_left_iff, List.forall₂_map_right_iff, List.forall₂_same]
    exact fun part _ => spells_quoteName part
  have hdot : ∀ text ∈ (name.splitOn ".").map quoteName, ∀ rest ts,
      Spells .duckDb (text.toList ++ rest) ts →
        Spells .duckDb (".".toList ++ (text.toList ++ rest)) ([.symbol "."] ++ ts) := by
    intro text htext rest ts h
    obtain ⟨part, -, rfl⟩ := List.mem_map.mp htext
    rw [quoteName, Dialect.quoteIdent, toList_enclose] at h ⊢
    exact .mark (fun _ => rfl) h
  have hspells := Spells.intercalate hparts hdot (fun rest => by simp) hrest h
  have hrows : ((name.splitOn ".").map fun part => [quotedWord part]) =
      ((name.splitOn ".").map quotedWord).map fun t => [t] := by
    rw [List.map_map]
    rfl
  rw [hrows, flatten_intersperse_singleton] at hspells
  exact hspells

/-- Up to its values, a qualified name is told by the number of its dots. -/
theorem map_masked_qualifiedTokens (name : String) :
    (qualifiedTokens name).map Token.masked =
      (List.replicate (name.toList.count '.' + 1) (quotedWord "")).intersperse (.symbol ".") := by
  have hlength : (name.splitOn ".").length = name.toList.count '.' + 1 :=
    Text.length_splitOn_singleton name '.'
  have hparts : ((name.splitOn ".").map quotedWord).map Token.masked =
      List.replicate (name.toList.count '.' + 1) (quotedWord "") := by
    rw [List.map_map, ← hlength, ← List.map_const']
    rfl
  rw [qualifiedTokens, map_intersperse, hparts]
  rfl

/-- A text as a literal. -/
def literalText (s : String) : String :=
  "'" ++ escapeLiteral s ++ "'"

/-- A literal is read as one token, whose value is the text. -/
theorem spells_literalText (s : String) :
    SpellsBefore .duckDb (fun rest => rest.head? ≠ some '\'') (literalText s)
      [.string .single s] :=
  fun _ _ hrest h => h.literal rfl s hrest

end Warehouse

end AssetFlow
