import AssetFlow.Proofs.Check.Query
import AssetFlow.Run.Task

/-!
# Statements are read as they are meant

The statements that describe an asset and its columns are made from their names and descriptions, as
the queries of checks are from names and accepted values. All of these stand in quotes, and no text
ends the quotes that it is written in. So the tokens of a statement are fixed by what it is made
for, and the texts in it are nothing but the values of its quoted identifiers and literals.

## Main definitions

- `Workplace.descriptionRows`: the tokens of the statements that describe an asset
- `Asset.DescribedAlike`: two assets have descriptions at the same places

## Main statements

- `Workplace.spells_descriptions`: the statements are read one after the other
- `Workplace.sameShape_descriptions`: descriptions at the same places have the same shape
- `statements_read_as_meant`: identifiers, names, literals, queries and descriptions
-/

namespace AssetFlow

open Sql Document Warehouse

/-! ### Descriptions -/

/-- The statement that describes something. -/
def comment (what text : String) : String :=
  "COMMENT ON " ++ what ++ " IS '" ++ escapeLiteral text ++ "';"

/-- The tokens of this statement. -/
def commentTokens (what : List Token) (text : String) : List Token :=
  [Token.plainWord "COMMENT", Token.plainWord "ON"] ++ what ++
    [Token.plainWord "IS", .string .single text, .symbol ";"]

/-- The tokens of a comment statement. -/
theorem spells_comment {what : String} {row : List Token}
    (hwhat : SpellsBefore .duckDb (fun rest => rest.head? ≠ some '"') what row) (text : String) :
    SpellsBefore .duckDb (fun _ => True) (comment what text) (commentTokens row text) := by
  intro rest ts _ h
  have hstart : "COMMENT ON ".toList = "COMMENT".toList ++ ' ' :: ("ON".toList ++ [' ']) := rfl
  have hmiddle : " IS '".toList = ' ' :: ("IS".toList ++ ' ' :: "'".toList) := rfl
  have hend : "';".toList = "'".toList ++ [';'] := rfl
  have htext : (comment what text).toList ++ rest = "COMMENT".toList ++ ' ' :: ("ON".toList ++
      ' ' :: (what.toList ++ ' ' :: ("IS".toList ++ ' ' ::
        ((literalText text).toList ++ ';' :: rest)))) := by
    simp only [comment, literalText, hstart, hmiddle, hend, String.toList_append, List.append_assoc,
      List.cons_append, List.nil_append]
  simp only [htext, commentTokens, List.append_assoc, List.cons_append, List.nil_append]
  refine .wordBlank "COMMENT" (by decide) (.wordBlank "ON" (by decide) ?_)
  refine hwhat _ _ (by simp) (.blank (.wordBlank "IS" (by decide) ?_))
  exact spells_literalText text _ _ (by simp) (.symbol (by decide) h)

namespace Workplace

/-- The tokens of the statements that describe an asset and its columns. -/
def descriptionRows (a : Asset) : List (List Token) :=
  (if a.description.isEmpty then []
    else [commentTokens (Token.plainWord a.materialization.keyword :: qualifiedTokens a.name.text)
      a.description]) ++
  (a.columns.filter fun c => !c.description.isEmpty).map fun c =>
    commentTokens (Token.plainWord "COLUMN" :: qualifiedTokens a.name.text ++
      [.symbol ".", quotedWord c.name]) c.description

/-- The tokens of what a comment on a relation is about. -/
theorem spells_relation (a : Asset) : SpellsBefore .duckDb (fun rest => rest.head? ≠ some '"')
    (a.materialization.keyword ++ " " ++ quoteQualified a.name.text)
    (Token.plainWord a.materialization.keyword :: qualifiedTokens a.name.text) := by
  intro rest ts hrest h
  have hkeyword : isPlainWord a.materialization.keyword = true := by
    cases a.materialization <;> decide
  have hblank : " ".toList = [' '] := rfl
  simp only [String.toList_append, hblank, List.append_assoc, List.cons_append, List.nil_append]
  exact .wordBlank _ hkeyword (spells_quoteQualified _ _ _ hrest h)

/-- The tokens of what a comment on a column is about. -/
theorem spells_column (table column : String) :
    SpellsBefore .duckDb (fun rest => rest.head? ≠ some '"')
      ("COLUMN " ++ quoteQualified table ++ "." ++ quoteName column)
      (Token.plainWord "COLUMN" :: qualifiedTokens table ++ [.symbol ".", quotedWord column]) := by
  intro rest ts hrest h
  have hstart : "COLUMN ".toList = "COLUMN".toList ++ [' '] := rfl
  have hdot : ".".toList = ['.'] := rfl
  have hquoted := spells_quoteName column rest ts hrest h
  simp only [hstart, hdot, String.toList_append, List.append_assoc, List.cons_append,
    List.nil_append]
  refine .wordBlank "COLUMN" (by decide) (spells_quoteQualified table _ _ (by simp) ?_)
  rw [quoteName, Dialect.quoteIdent, toList_enclose] at hquoted ⊢
  exact .mark (fun _ => rfl) hquoted

/-- **The statements that describe an asset** are read one after the other. -/
theorem spells_descriptions (a : Asset) :
    Spells .duckDb ("\n".intercalate (descriptions a)).toList (descriptionRows a).flatten := by
  have hrows : List.Forall₂ (SpellsBefore .duckDb fun _ => True) (descriptions a)
      (descriptionRows a) := by
    refine List.rel_append ?_ ?_
    · split
      · exact .nil
      · exact .cons (spells_comment (spells_relation a) a.description) .nil
    · rw [List.forall₂_map_left_iff, List.forall₂_map_right_iff, List.forall₂_same]
      exact fun c _ => spells_comment (spells_column a.name.text c.name) c.description
  have hline : ∀ text ∈ descriptions a, ∀ rest ts, Spells .duckDb (text.toList ++ rest) ts →
      Spells .duckDb ("\n".toList ++ (text.toList ++ rest)) ([] ++ ts) :=
    fun _ _ _ _ h => .lineBreak h
  have h := Spells.intercalate hrows hline (fun _ => trivial) trivial .nil
  rwa [List.append_nil, List.append_nil, flatten_intersperse_nil] at h

end Workplace

/-- Two assets have names of as many parts, are the same kind of relation, and have descriptions at
the same places. -/
structure Asset.DescribedAlike (a a' : Asset) : Prop where
  dots : a.name.text.toList.count '.' = a'.name.text.toList.count '.'
  materialization : a.materialization = a'.materialization
  description : a.description.isEmpty = a'.description.isEmpty
  columns : List.Forall₂ (fun c c' => c.description.isEmpty = c'.description.isEmpty)
    a.columns a'.columns

/-- Up to the values of literals, a comment statement does not depend on the comment. -/
theorem map_masked_commentTokens (what : List Token) (text : String) :
    (commentTokens what text).map Token.masked = commentTokens (what.map Token.masked) "" := by
  simp only [commentTokens, List.map_append]
  rfl

/-- Members at the same places are kept, and all of them become the same. -/
theorem map_filter_congr {α β : Type} {p : α → Bool} {f g : α → β} {as bs : List α}
    (h : List.Forall₂ (fun a b => p a = p b) as bs) (hfg : ∀ a b, f a = g b) :
    (as.filter p).map f = (bs.filter p).map g := by
  induction h with
  | nil => rfl
  | @cons a b as bs hab _ ih =>
    rw [List.filter_cons, List.filter_cons, hab]
    split
    · rw [List.map_cons, List.map_cons, hfg a b, ih]
    · exact ih

/-- Assets that are described alike have comments of one shape. -/
theorem Workplace.map_masked_descriptionRows {a a' : Asset} (h : a.DescribedAlike a') :
    (descriptionRows a).map (List.map Token.masked) =
      (descriptionRows a').map (List.map Token.masked) := by
  rw [descriptionRows, descriptionRows, List.map_append, List.map_append, List.map_map,
    List.map_map, h.description]
  congr 1
  · split
    · rfl
    · simp only [List.map_cons, List.map_nil, map_masked_commentTokens, map_masked_qualifiedTokens,
        h.dots, h.materialization]
  · refine map_filter_congr (h.columns.imp fun c c' hc => by rw [hc]) fun c c' => ?_
    simp only [Function.comp_apply, map_masked_commentTokens, List.map_append, List.map_cons,
      map_masked_qualifiedTokens, h.dots]
    rfl

/-- **Descriptions at the same places have the same shape.** -/
theorem Workplace.sameShape_descriptions {a a' : Asset} (h : a.DescribedAlike a') :
    SameShape .duckDb ("\n".intercalate (descriptions a)) ("\n".intercalate (descriptions a')) := by
  refine sameShape_of_spells (spells_descriptions a) (spells_descriptions a') ?_
  rw [List.map_flatten, List.map_flatten, map_masked_descriptionRows h]

/-- **Statements are read as they are meant.** A quoted identifier is read to its very end as one
with its name as the value, in each dialect, and a literal as one with its text as the value. A
qualified name is read as its parts with dots between them. The query of a check and the statements
that describe an asset are read as the tokens that they are meant to have, in which names and texts
stand as they are. So the tokens of a query are fixed by the kind of the check, its bound, and how
many parts the name of the table and how many texts the accepted values have, and those of the
statements that describe an asset by the kind of its relation, how many parts its name has, and
which descriptions are empty, but for the values of quoted identifiers and literals. -/
theorem statements_read_as_meant :
    (∀ (d : Dialect) (s : String),
      (∃ inside, (d.quoteIdent s).toList = d.identifierQuotes.1 :: inside ∧
        readQuoted d.identifierQuotes.2 inside = some (s.toList, inside.length)) ∧
      row? d (d.quoteIdent s) = some [.word s (some d.identifierQuotes.1) ""]) ∧
    (∀ name, row? .duckDb (quoteQualified name) =
      some (((name.splitOn ".").map quotedWord).intersperse (.symbol "."))) ∧
    (∀ v, (∃ inside, ("'" ++ escapeLiteral v ++ "'").toList = '\'' :: inside ∧
        readQuoted '\'' inside = some (v.toList, inside.length)) ∧
      row? .duckDb ("'" ++ escapeLiteral v ++ "'") = some [.string .single v]) ∧
    (∀ (c : ColumnCheck) (table column sql : String),
      (c.name = "accepted_values" → ∃ vs, c.value = some (.texts vs)) →
      c.query table column = .ok sql →
      ∃ ts, row? .duckDb sql = some ts ∧ c.ReadAs table column ts) ∧
    (∀ (c c' : ColumnCheck) (table table' column column' : String), c.SameKind c' →
      table.toList.count '.' = table'.toList.count '.' →
      (∃ sql sql', c.query table column = .ok sql ∧ c'.query table' column' = .ok sql' ∧
        SameShape .duckDb sql sql') ∨
      (c.Refused ∧ ∃ e e', c.query table column = .error e ∧
        c'.query table' column' = .error e')) ∧
    (∀ a : Asset, row? .duckDb ("\n".intercalate (Workplace.descriptions a)) =
      some (Workplace.descriptionRows a).flatten) ∧
    ∀ a a' : Asset, a.DescribedAlike a' →
      SameShape .duckDb ("\n".intercalate (Workplace.descriptions a))
        ("\n".intercalate (Workplace.descriptions a')) := by
  refine ⟨fun d s => ⟨readQuoted_quoteIdent d s, ?_⟩, fun name => ?_,
    fun v => ⟨readQuoted_literal v, ?_⟩, fun c table column sql htexts h => ?_,
    fun c c' table table' column column' h hdots => ?_,
    fun a => (Workplace.spells_descriptions a).row?_eq,
    fun a a' h => Workplace.sameShape_descriptions h⟩
  · have h := Spells.ident (d := d) s (by simp) .nil
    rw [List.append_nil] at h
    exact h.row?_eq
  · have h := spells_quoteQualified name [] [] (by simp) .nil
    rw [List.append_nil, List.append_nil] at h
    exact h.row?_eq
  · have h := Spells.literal (d := .duckDb) rfl v (by simp) .nil
    rw [List.append_nil] at h
    exact h.row?_eq
  · exact ColumnCheck.readAs_of_query_eq_ok htexts h
  · exact ColumnCheck.sameShape_query column column' hdots h

/-- Names and values that are full of quotes, in place of plain ones. -/
theorem quotes_keep_shape :
    let c : ColumnCheck := { name := "accepted_values", value := some (.texts ["new", "paid"]) }
    let c' : ColumnCheck := { c with value := some (.texts ["'') OR ('' = '", "'"]) }
    c.SameKind c' ∧ ∃ sql sql', c.query "shop.orders" "status" = .ok sql ∧
      c'.query "\"\".\"; DROP TABLE orders" "status\" IS NULL; DROP TABLE orders; \"" = .ok sql' ∧
      SameShape .duckDb sql sql' ∧
      row? .duckDb sql' = some (rowsTokens "\"\".\"; DROP TABLE orders"
        "status\" IS NULL; DROP TABLE orders; \""
        (outsideTokens "status\" IS NULL; DROP TABLE orders; \"" ["'') OR ('' = '", "'"])) := by
  intro c c'
  have hkind : c.SameKind c' := by
    refine ⟨rfl, fun hname => ?_, fun _ => ⟨["new", "paid"], _, ?_, rfl, rfl⟩⟩
    · exact absurd hname (by decide)
    · rfl
  refine ⟨hkind, ?_⟩
  obtain ⟨-, -, -, hread, hqueries, -⟩ := statements_read_as_meant
  rcases hqueries c c' "shop.orders" "\"\".\"; DROP TABLE orders" "status"
    "status\" IS NULL; DROP TABLE orders; \"" hkind (by decide) with
    ⟨sql, sql', hsql, hsql', hshape⟩ | ⟨hrefused, -⟩
  · refine ⟨sql, sql', hsql, hsql', hshape, ?_⟩
    obtain ⟨ts, hrow, hts⟩ := hread c' _ _ sql' (fun _ => ⟨_, rfl⟩) hsql'
    cases hts with
    | notNull hname => exact absurd hname (by decide)
    | unique hname => exact absurd hname (by decide)
    | sign hname => simp [c, c'] at hname
    | accepted _ hvalue _ =>
      obtain rfl := ColumnCheck.texts_injective (Option.some.inj hvalue)
      exact hrow
    | bounded hname _ _ => simp [c, c'] at hname
  · cases hrefused with
    | unknown hname => exact absurd hname (by decide)
    | noBound hname => exact absurd hname (by decide)
    | noValues _ hvalue => simp [c, Value.texts] at hvalue

end AssetFlow
