import AssetFlow.Proofs.Sql.PlainName
import AssetFlow.Proofs.Sql.Quoted

/-!
# Texts that spell rows of tokens

A text spells a row of tokens if each of its lexemes is read as the next one, whatever was read
before. Then the whole text is read as this row. Statements are put together from words, symbols,
numbers, quoted identifiers and literals, and each of these parts is read up to where it ends,
depending on no more than the character after it.

## Main definitions

- `Spells`: a text spells a row of tokens
- `Token.masked`, `shape?`: tokens without the values of quoted identifiers and literals
- `SameShape`: two texts have the same tokens up to these values
- `qualifiedTokens`: the tokens of a qualified name

## Main statements

- `Spells.row?_eq`: a text that spells a row of tokens is read as this row
- `Spells.word`, `Spells.ident`, `Spells.literal`, `Spells.number`: the parts of statements
- `Spells.qualified`: a qualified name is its parts in quotes, with dots between them
-/

namespace AssetFlow.Sql

variable {d : Dialect} {c : Char} {cs rest : List Char} {t : Token} {ts : List Token} {n : Nat}

/-- The tokens of a text, if it can be split into tokens. -/
def row? (d : Dialect) (text : String) : Option (List Token) :=
  match Token.scan d text with
  | .ok tokens => some (tokens.toList.map (·.token))
  | .error _ => none

/-- A text spells a row of tokens: each lexeme is read as the next token or is a blank, whichever
token stands before it. -/
inductive Spells (d : Dialect) : List Char → List Token → Prop
  | nil : Spells d [] []
  | blank {rest : List Char} {ts : List Token} : Spells d rest ts → Spells d (' ' :: rest) ts
  | lineBreak {rest : List Char} {ts : List Token} : Spells d rest ts → Spells d ('\n' :: rest) ts
  | token {c : Char} {cs rest : List Char} {t : Token} {ts : List Token} :
      (∀ prev, readLexeme d prev c (cs ++ rest) = Lexeme.ofToken t (cs.length + 1)) →
      Spells d rest ts → Spells d (c :: cs ++ rest) (t :: ts)

/-- What is spelled is added to what was read before. -/
theorem Spells.scanFrom_eq
    (comment : String → String → Position → Scanned → Except Position Scanned) {fuel : Nat}
    (h : Spells d cs ts) (hfuel : cs.length < fuel) (pos : Position) (s : Scanned) :
    ∃ s', scanFrom d comment fuel pos cs s = .ok s' ∧
      s'.tokens.toList.map (·.token) = s.tokens.toList.map (·.token) ++ ts := by
  induction h generalizing fuel pos s with
  | nil =>
    refine ⟨s, ?_, (List.append_nil _).symm⟩
    cases fuel <;> rfl
  | blank _ ih =>
    obtain ⟨fuel, rfl⟩ := Nat.exists_eq_add_one_of_ne_zero (Nat.ne_zero_of_lt hfuel)
    rw [scanFrom_blank]
    exact ih (Nat.lt_of_succ_lt_succ hfuel) _ (s.addBlank false)
  | lineBreak _ ih =>
    obtain ⟨fuel, rfl⟩ := Nat.exists_eq_add_one_of_ne_zero (Nat.ne_zero_of_lt hfuel)
    exact ih (Nat.lt_of_succ_lt_succ hfuel) _ (s.addBlank true)
  | @token c cs rest t ts hread _ ih =>
    obtain ⟨fuel, rfl⟩ := Nat.exists_eq_add_one_of_ne_zero (Nat.ne_zero_of_lt hfuel)
    rw [List.cons_append, List.length_cons, List.length_append] at hfuel
    rw [List.cons_append, scanFrom_of_token (hread s.prev), List.drop_succ_cons, List.drop_left]
    have hless : rest.length < fuel := by omega
    obtain ⟨s', hs', htokens⟩ := ih hless (pos.after ((c :: (cs ++ rest)).take (cs.length + 1)))
      (s.addToken t pos (pos.after ((c :: (cs ++ rest)).take (cs.length + 1))))
    refine ⟨s', hs', ?_⟩
    rw [htokens]
    simp [Scanned.addToken]

/-- **A text that spells a row of tokens is read as this row.** -/
theorem Spells.row?_eq {text : String} (h : Spells d text.toList ts) : row? d text = some ts := by
  obtain ⟨s, hscan, htokens⟩ :=
    h.scanFrom_eq (scanComment d) (Nat.lt_succ_self _) Position.start {}
  have hrow : Token.scan d text = .ok s.tokens := by
    rw [Token.scan, hscan]
    rfl
  simp only [row?, hrow, htokens]
  rfl

/-! ### The parts of statements -/

/-- A word of ASCII letters, digits and underscores. -/
def isPlainWord (w : String) : Bool :=
  match w.toList with
  | [] => false
  | c :: ws => Dialect.isAsciiWordStart c && ws.all isWordChar

/-- A word is a token. -/
theorem Spells.word {w : String} (hw : isPlainWord w = true) (hstop : Stops rest)
    (h : Spells d rest ts) : Spells d (w.toList ++ rest) (Token.plainWord w :: ts) := by
  rw [isPlainWord] at hw
  split at hw
  · cases hw
  · next c ws hlist =>
    rw [Bool.and_eq_true, List.all_eq_true] at hw
    have hread : ∀ prev, readLexeme d prev c (ws ++ rest) =
        Lexeme.ofToken (Token.plainWord w) (ws.length + 1) := by
      intro prev
      rw [readLexeme_word hw.1 hw.2 hstop, ← hlist, String.ofList_toList]
    rw [hlist]
    exact .token hread h

theorem stops_cons (hc : c ∈ [' ', '\n', '(']) : Stops (c :: rest) := by
  rintro _ ⟨⟩
  exact hc

/-- A word with a blank after it. -/
theorem Spells.wordBlank (w : String) (hw : isPlainWord w = true) (h : Spells d rest ts) :
    Spells d (w.toList ++ ' ' :: rest) (Token.plainWord w :: ts) :=
  .word hw (stops_cons (List.mem_cons_self ..)) (.blank h)

/-- A word at the end. -/
theorem Spells.wordEnd (w : String) (hw : isPlainWord w = true) :
    Spells d w.toList [Token.plainWord w] := by
  have h : Spells d (w.toList ++ []) [Token.plainWord w] := .word hw nofun .nil
  rwa [List.append_nil] at h

/-- A character by itself is a token if it is read as one. -/
theorem Spells.mark (hread : ∀ prev, readLexeme d prev c rest = Lexeme.ofToken t 1)
    (h : Spells d rest ts) : Spells d (c :: rest) (t :: ts) :=
  @Spells.token d c [] rest t ts hread h

/-- A character that is a symbol whatever follows. -/
theorem Spells.symbol (hc : c ∈ ['(', ')', ',', ';']) (h : Spells .duckDb rest ts) :
    Spells .duckDb (c :: rest) (.symbol (String.singleton c) :: ts) := by
  refine .mark (fun prev => ?_) h
  simp only [List.mem_cons, List.not_mem_nil, or_false] at hc
  rcases hc with rfl | rfl | rfl | rfl <;> cases rest <;> rfl

/-- **A quoted identifier is one token**, whatever its name is. -/
theorem Spells.ident (s : String) (hrest : rest.head? ≠ some d.identifierQuotes.2)
    (h : Spells d rest ts) :
    Spells d ((d.quoteIdent s).toList ++ rest) (.word s (some d.identifierQuotes.1) "" :: ts) := by
  rw [Dialect.quoteIdent, toList_enclose]
  refine .token (fun prev => ?_) h
  rw [List.append_assoc, List.singleton_append, readLexeme_quoteIdent d prev s hrest,
    List.length_append, List.length_singleton]

/-- **A literal is one token**, whatever its text is. -/
theorem Spells.literal (hd : d.backslashEscapes = false) (s : String)
    (hrest : rest.head? ≠ some '\'') (h : Spells d rest ts) :
    Spells d (("'" ++ escapeLiteral s ++ "'").toList ++ rest) (.string .single s :: ts) := by
  rw [toList_literal]
  refine .token (fun prev => ?_) h
  rw [List.append_assoc, List.singleton_append, readLexeme_literal hd prev s hrest,
    List.length_append, List.length_singleton]

/-! ### Rows of parts -/

/-- A text spells a row of tokens before any rest of some kind. -/
def SpellsBefore (d : Dialect) (ok : List Char → Prop) (text : String) (row : List Token) : Prop :=
  ∀ rest ts, ok rest → Spells d rest ts → Spells d (text.toList ++ rest) (row ++ ts)

/-- **Texts with a separator between them** spell their tokens with those of the separator between
them. -/
theorem Spells.intercalate {ok : List Char → Prop} {sep : String} {sepRow : List Token}
    {texts : List String} {rows : List (List Token)}
    (htexts : List.Forall₂ (SpellsBefore d ok) texts rows)
    (hsep : ∀ text ∈ texts, ∀ rest ts, Spells d (text.toList ++ rest) ts →
      Spells d (sep.toList ++ (text.toList ++ rest)) (sepRow ++ ts))
    (hok : ∀ rest, ok (sep.toList ++ rest)) (hrest : ok rest) (h : Spells d rest ts) :
    Spells d ((sep.intercalate texts).toList ++ rest)
      ((rows.intersperse sepRow).flatten ++ ts) := by
  induction htexts with
  | nil => exact h
  | @cons text row texts rows htext htexts ih =>
    have ih := ih fun text' hmem => hsep text' (List.mem_cons_of_mem text hmem)
    cases htexts with
    | nil =>
      rw [String.intercalate_singleton]
      simpa using htext rest ts hrest h
    | @cons next nextRow texts rows hnext htexts =>
      rw [String.intercalate_cons_cons, List.intersperse_cons_cons]
      obtain ⟨after, hafter⟩ : ∃ after, (sep.intercalate (next :: texts)).toList =
          next.toList ++ after := by
        cases texts with
        | nil => exact ⟨[], by rw [String.intercalate_singleton, List.append_nil]⟩
        | cons text' texts => exact ⟨_, by
            rw [String.intercalate_cons_cons, String.append_assoc, String.toList_append]⟩
      rw [hafter, List.append_assoc] at ih
      have hjoined := htext _ _ (hok _) (hsep next (by simp) _ _ ih)
      simpa [hafter] using hjoined

theorem map_intersperse {α β : Type} (f : α → β) (sep : α) (l : List α) :
    (l.intersperse sep).map f = (l.map f).intersperse (f sep) := by
  induction l with
  | nil => rfl
  | cons x l ih =>
    cases l with
    | nil => rfl
    | cons y l =>
      simp only [List.intersperse_cons_cons, List.map_cons] at ih ⊢
      rw [ih]

theorem flatten_intersperse_singleton {α : Type} (sep : α) (l : List α) :
    ((l.map fun x => [x]).intersperse [sep]).flatten = l.intersperse sep := by
  induction l with
  | nil => rfl
  | cons x l ih =>
    cases l with
    | nil => rfl
    | cons y l =>
      simp only [List.intersperse_cons_cons, List.map_cons, List.flatten_cons] at ih ⊢
      rw [ih]
      rfl

theorem flatten_intersperse_nil {α : Type} (l : List (List α)) :
    (l.intersperse []).flatten = l.flatten := by
  induction l with
  | nil => rfl
  | cons x l ih =>
    cases l with
    | nil => rfl
    | cons y l =>
      simp only [List.intersperse_cons_cons, List.flatten_cons, List.nil_append] at ih ⊢
      rw [ih]

/-! ### Shapes -/

/-- The token without the value of a quoted identifier or of a literal. -/
def Token.masked : Token → Token
  | .word _ (some q) keyword => .word "" (some q) keyword
  | .string style _ => .string style ""
  | t => t

/-- The tokens of a text without the values of quoted identifiers and literals, if it can be split
into tokens. -/
def shape? (d : Dialect) (text : String) : Option (List Token) :=
  (row? d text).map (List.map Token.masked)

/-- Two texts can be split into tokens, and have the same ones but for the values of quoted
identifiers and literals. -/
def SameShape (d : Dialect) (a b : String) : Prop :=
  ∃ shape, shape? d a = some shape ∧ shape? d b = some shape

/-- Texts have the same shape when the tokens that they spell are the same up to values. -/
theorem sameShape_of_spells {a b : String} {ts us : List Token} (ha : Spells d a.toList ts)
    (hb : Spells d b.toList us) (hmasked : ts.map Token.masked = us.map Token.masked) :
    SameShape d a b := by
  refine ⟨ts.map Token.masked, ?_, ?_⟩
  · rw [shape?, ha.row?_eq, Option.map_some]
  · rw [shape?, hb.row?_eq, Option.map_some, hmasked]

/-! ### Numbers -/

/-- Digits, and a point and more digits or none behind them. -/
structure IsDecimal (cs : List Char) : Prop where
  split : ∃ ds tail, cs = ds ++ tail ∧ ds ≠ [] ∧ (∀ c ∈ ds, c.isDigit = true) ∧
    (tail = [] ∨ ∃ fs, tail = '.' :: fs ∧ ∀ c ∈ fs, c.isDigit = true)

theorem isDecimal_digits {ds : List Char} (hne : ds ≠ []) (hds : ∀ c ∈ ds, c.isDigit = true) :
    IsDecimal ds :=
  ⟨ds, [], (List.append_nil ds).symm, hne, hds, .inl rfl⟩

theorem isDecimal_point {ds fs : List Char} (hne : ds ≠ []) (hds : ∀ c ∈ ds, c.isDigit = true)
    (hfs : ∀ c ∈ fs, c.isDigit = true) : IsDecimal (ds ++ '.' :: fs) :=
  ⟨ds, '.' :: fs, rfl, hne, hds, .inr ⟨fs, rfl, hfs⟩⟩

/-- Digits are read up to what follows them. -/
theorem takeDigits_append {ds : List Char} (hds : ∀ c ∈ ds, c.isDigit = true) :
    takeDigits d Char.isDigit (ds ++ rest) = ds ++ takeDigits d Char.isDigit rest := by
  induction ds with
  | nil => rfl
  | cons c ds ih =>
    obtain ⟨hc, hds⟩ := List.forall_mem_cons.mp hds
    rw [List.cons_append, takeDigits.eq_def]
    simp only [hc, if_true, ih hds, List.cons_append]

theorem takeDigits_eq (hds : ∀ c ∈ cs, c.isDigit = true) :
    takeDigits d Char.isDigit cs = cs := by
  have h : takeDigits d Char.isDigit (cs ++ []) = cs ++ [] := takeDigits_append hds
  rwa [List.append_nil] at h

/-- A decimal is read as one number. -/
theorem readNumber_decimal (hd : d.groupedDigits = false) (hnumeric : d.numericPrefixes = false)
    (prev : Option Token) (h : IsDecimal cs) :
    readNumber d prev cs = Lexeme.ofToken (.number (String.ofList cs) false) cs.length := by
  obtain ⟨ds, tail, rfl, hne, hds, htail⟩ := h.split
  obtain ⟨c, ds, rfl⟩ := List.exists_cons_of_ne_nil hne
  have hc : c ≠ '.' := by
    rintro rfl
    exact absurd (hds '.' (List.mem_cons_self ..)) (by decide)
  have hwhole : takeDigits d Char.isDigit (c :: ds ++ tail) = c :: ds := by
    rw [takeDigits_append hds]
    rcases htail with rfl | ⟨fs, rfl, -⟩ <;> simp [takeDigits, hd]
  unfold readNumber
  rw [hwhole]
  rcases htail with rfl | ⟨fs, rfl, hfs⟩
  · simp [hc, hnumeric, takeExponent]
  · have hfraction : takeDigits d Char.isDigit fs = fs := takeDigits_eq hfs
    simp [hc, hnumeric, hfraction, takeExponent]

theorem mem_digits_of_isDigit (hc : c.isDigit = true) :
    c ∈ ['0', '1', '2', '3', '4', '5', '6', '7', '8', '9'] := by
  have hten : ∀ n < 58, 48 ≤ n →
      Char.ofNat n ∈ ['0', '1', '2', '3', '4', '5', '6', '7', '8', '9'] := by
    decide
  obtain ⟨hlow, hhigh⟩ : 48 ≤ c.toNat ∧ c.toNat ≤ 57 := Char.isDigit_iff_toNat.mp hc
  have hmem := hten c.toNat (Nat.lt_succ_of_le hhigh) hlow
  rwa [Char.ofNat_toNat] at hmem

/-- What holds of the ten digits holds of all digits. -/
theorem forall_isDigit {P : Char → Prop} [DecidablePred P]
    (h : ['0', '1', '2', '3', '4', '5', '6', '7', '8', '9'].all (fun x => P x) = true) :
    ∀ c, c.isDigit = true → P c :=
  fun c hc => of_decide_eq_true (List.all_eq_true.mp h c (mem_digits_of_isDigit hc))

theorem introducedLiteral?_of_isDigit (hc : c.isDigit = true) (rest : List Char) :
    introducedLiteral? d (c :: rest) = none := by
  cases rest with
  | nil => rfl
  | cons q rest =>
    have hlower := forall_isDigit
      (P := fun x => x.toLower ∉ ['b', 'r', 'n', 'q', 'e', 'u', 'x']) (by decide) c hc
    simp only [introducedLiteral?]
    split <;> simp_all

/-- A decimal is read as one token. -/
theorem readLexeme_decimal (hd : d.groupedDigits = false) (hnumeric : d.numericPrefixes = false)
    (prev : Option Token) (hc : c.isDigit = true) (h : IsDecimal (c :: rest)) :
    readLexeme d prev c rest =
      Lexeme.ofToken (.number (String.ofList (c :: rest)) false) (rest.length + 1) := by
  obtain ⟨hmarks, hopens⟩ := forall_isDigit (P := fun x => x ∉ [' ', '\t', '\n', '\r', 'n', 'N',
    'x', 'X', '\'', '"', '['] ∧ d.opensQuotedIdentifier x = false) (by cases d <;> decide) c hc
  simp only [List.mem_cons, List.not_mem_nil, or_false, not_or] at hmarks
  obtain ⟨h1, h2, h3, h4, h5, h6, h7, h8, h9, h10, h11⟩ := hmarks
  have hquoted : quotedIdentifier? d (c :: rest) = none := by
    simp [quotedIdentifier?, hopens, h11]
  have hnumber := readNumber_decimal hd hnumeric prev h
  simp [readLexeme, h1, h2, h3, h4, h5, h6, h7, h8, h9, h10, introducedLiteral?_of_isDigit hc,
    hquoted, hc, hnumber]

/-- **A number** at the end of a text is a token. -/
theorem Spells.number (hd : d.groupedDigits = false) (hnumeric : d.numericPrefixes = false)
    (h : IsDecimal cs) : Spells d cs [.number (String.ofList cs) false] := by
  obtain ⟨ds, tail, rfl, hne, hds, htail⟩ := h.split
  obtain ⟨c, ds, rfl⟩ := List.exists_cons_of_ne_nil hne
  have hc := hds c (List.mem_cons_self ..)
  have hread : ∀ prev, readLexeme d prev c ((ds ++ tail) ++ []) = Lexeme.ofToken
      (.number (String.ofList (c :: ds ++ tail)) false) ((ds ++ tail).length + 1) := by
    intro prev
    rw [List.append_nil]
    exact readLexeme_decimal hd hnumeric prev hc h
  have hspells := Spells.token hread .nil
  rwa [List.append_nil] at hspells

end AssetFlow.Sql
