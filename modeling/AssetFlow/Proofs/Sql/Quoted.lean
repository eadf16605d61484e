import AssetFlow.Sql.Quoted
import AssetFlow.Sql.Token.Lexer

/-!
# Reading back quoted texts

A text that is written with its closing delimiters doubled is read back whole, up to the delimiter
that closes it, as long as no further delimiter follows. So no text can end the quotes that it is
written in.

## Main statements

- `readQuoted_doubled`: a quoted text is read back
- `readQuoted_quoteIdent`, `readQuoted_literal`: identifiers of each dialect, and literals
- `readLexeme_quoteIdent`, `readLexeme_literal`: they are single tokens
-/

namespace AssetFlow.Sql

variable {d : Dialect} {q : Char} {cs rest : List Char} {s : String}

/-- **A quoted text is read back** if the delimiter that closes it is not followed by another. -/
theorem readQuoted_doubled (q : Char) (cs : List Char) (hrest : rest.head? ≠ some q) :
    readQuoted q (doubled q cs ++ q :: rest) = some (cs, (doubled q cs).length + 1) := by
  induction cs with
  | nil =>
    cases rest with
    | nil => simp [doubled, readQuoted]
    | cons c rest =>
      have hne : c ≠ q := fun h => hrest (by rw [h, List.head?_cons])
      simp [doubled, readQuoted, hne]
  | cons c cs ih =>
    by_cases hc : c = q
    · subst hc
      simp [doubled, readQuoted, ih]
    · obtain ⟨next, more, htail⟩ : ∃ next more, doubled q cs ++ q :: rest = next :: more :=
        List.exists_cons_of_ne_nil (by simp)
      rw [doubled, if_neg hc, List.cons_append, htail, readQuoted, if_neg hc, ← htail, ih]
      rfl

/-- A text in quotes, character by character. -/
theorem toList_enclose (opening closing : Char) (s : String) :
    (enclose opening closing s).toList = opening :: (doubled closing s.toList ++ [closing]) := by
  simp [enclose]

theorem toList_literal (s : String) : ("'" ++ escapeLiteral s ++ "'").toList =
    '\'' :: (doubled '\'' s.toList ++ ['\'']) := by
  simp [escapeLiteral]

/-- **Literals are read** by the same rule where a backslash means nothing. -/
theorem readLiteral_eq_readQuoted (q : Char) (cs : List Char) :
    readLiteral q false false cs = readQuoted q cs := by
  fun_induction readQuoted q cs with
  | case1 => rfl
  | case2 => simp [readLiteral]
  | case3 c hc => simp [readLiteral, hc]
  | case4 rest ih => simp [readLiteral, ih]
  | case5 next rest hnext => simp [readLiteral, hnext]
  | case6 c next rest hc ih => simp [readLiteral, hc, ih]

/-- A quoted identifier is read up to its closing quote, as the name. -/
theorem readQuoted_quoteIdent (d : Dialect) (s : String) :
    ∃ inside, (d.quoteIdent s).toList = d.identifierQuotes.1 :: inside ∧
      readQuoted d.identifierQuotes.2 inside = some (s.toList, inside.length) := by
  refine ⟨doubled d.identifierQuotes.2 s.toList ++ [d.identifierQuotes.2],
    toList_enclose _ _ s, ?_⟩
  rw [readQuoted_doubled _ _ (by simp), List.length_append, List.length_singleton]

/-- A literal is read up to its closing quote, as the text. -/
theorem readQuoted_literal (s : String) :
    ∃ inside, ("'" ++ escapeLiteral s ++ "'").toList = '\'' :: inside ∧
      readQuoted '\'' inside = some (s.toList, inside.length) := by
  refine ⟨doubled '\'' s.toList ++ ['\''], toList_literal s, ?_⟩
  rw [readQuoted_doubled _ _ (by simp), List.length_append, List.length_singleton]

/-! ### Quoted texts as tokens -/

/-- Identifiers are written in quotes that open one, and no literal. -/
theorem opensQuotedIdentifier_quotes (d : Dialect) :
    d.opensQuotedIdentifier d.identifierQuotes.1 = true ∧
      (if d.identifierQuotes.1 == '[' then ']' else d.identifierQuotes.1) =
        d.identifierQuotes.2 := by
  cases d <;> decide

theorem introducedLiteral?_quotes (d : Dialect) (cs : List Char) :
    introducedLiteral? d (d.identifierQuotes.1 :: cs) = none := by
  cases cs with
  | nil => rfl
  | cons c cs => cases d <;> rfl

/-- **A quoted identifier is a single token**, if the closing quote is not followed by another. -/
theorem readLexeme_quoteIdent (d : Dialect) (prev : Option Token) (s : String)
    (hrest : rest.head? ≠ some d.identifierQuotes.2) :
    readLexeme d prev d.identifierQuotes.1
        (doubled d.identifierQuotes.2 s.toList ++ d.identifierQuotes.2 :: rest) =
      Lexeme.ofToken (.word s (some d.identifierQuotes.1) "")
        ((doubled d.identifierQuotes.2 s.toList).length + 2) := by
  obtain ⟨hopens, hcloses⟩ := opensQuotedIdentifier_quotes d
  have hread := readQuoted_doubled d.identifierQuotes.2 s.toList hrest
  have hmark : d.identifierQuotes.1 ∉ [' ', '\t', '\n', '\r', 'n', 'N', 'x', 'X', '\''] := by
    cases d <;> decide
  simp only [List.mem_cons, List.not_mem_nil, or_false, not_or] at hmark
  obtain ⟨h1, h2, h3, h4, h5, h6, h7, h8, h9⟩ := hmark
  have hquoted : quotedIdentifier? d (d.identifierQuotes.1 ::
      (doubled d.identifierQuotes.2 s.toList ++ d.identifierQuotes.2 :: rest)) =
      some (Lexeme.ofToken (.word s (some d.identifierQuotes.1) "")
        ((doubled d.identifierQuotes.2 s.toList).length + 2)) := by
    rw [quotedIdentifier?, if_pos hopens]
    dsimp only
    rw [hcloses, hread]
    simp
  simp [readLexeme, introducedLiteral?_quotes, h1, h2, h3, h4, h5, h6, h7, h8, h9, hquoted]

/-- **A literal is a single token** in the dialects where a backslash means nothing. -/
theorem readLexeme_literal (hd : d.backslashEscapes = false) (prev : Option Token) (s : String)
    (hrest : rest.head? ≠ some '\'') :
    readLexeme d prev '\'' (doubled '\'' s.toList ++ '\'' :: rest) =
      Lexeme.ofToken (.string .single s) ((doubled '\'' s.toList).length + 2) := by
  have hread : readLiteral '\'' false false (doubled '\'' s.toList ++ '\'' :: rest) =
      some (s.toList, (doubled '\'' s.toList).length + 1) := by
    rw [readLiteral_eq_readQuoted, readQuoted_doubled _ _ hrest]
  have hplain : d.tripleQuotedStrings = false ∧ d.keepsWildcardEscapes = false := by
    revert hd
    cases d <;> decide
  have hintroduced : ∀ cs, introducedLiteral? d ('\'' :: cs) = none := by
    rintro (_ | ⟨c, cs⟩) <;> rfl
  have hstring : readString d d.tripleQuotedStrings '\'' .single .tripleSingle d.backslashEscapes 0
      ('\'' :: (doubled '\'' s.toList ++ '\'' :: rest)) =
      Lexeme.ofToken (.string .single s) ((doubled '\'' s.toList).length + 2) := by
    simp only [readString, hd, hplain, List.drop_succ_cons, List.drop_zero, hread, literalToken,
      String.ofList_toList, Bool.false_eq_true, if_false]
    congr 1
    omega
  simp [readLexeme, hintroduced, hstring]

end AssetFlow.Sql
