import AssetFlow.Check.Query
import AssetFlow.Proofs.Warehouse.Name

/-!
# The tokens of the queries of checks

The query of a check is made from the name of a table, the name of a column, and a bound or the
texts that are accepted. Names and texts are nothing in it but the values of quoted identifiers and
literals, so queries of checks of one kind have the same tokens otherwise.

## Main definitions

- `rowsWhere`, `outside`, `repeated`: what the queries are made from
- `ColumnCheck.SameKind`: two checks differ in accepted texts at most
- `ColumnCheck.Refused`: what keeps a check from being a query
- `ColumnCheck.ReadAs`: the tokens that the query of a check is read as

## Main statements

- `exists_spells_spellPlain`: a bound is written as tokens
- `spells_rowsWhere`, `spells_outside`, `spells_repeated`: the tokens of queries
- `ColumnCheck.readAs_of_query_eq_ok`: the query of a check is read as the tokens of its kind
- `ColumnCheck.sameShape_query`: queries of checks of one kind have the same shape
-/

namespace AssetFlow

open Sql Document Warehouse

variable {rest : List Char} {ts : List Token}

/-! ### Numbers -/

/-- Numbers are written in digits. -/
theorem isDigit_of_mem_toString {n : Nat} {c : Char} (h : c ∈ (toString n).toList) :
    c.isDigit = true :=
  Nat.isDigit_of_mem_toDigits (by decide) (by decide) (Nat.toList_repr ▸ h)

theorem isDigit_of_mem_zeros {n : Int} {c : Char} (h : c ∈ (Binary64.zeros n).toList) :
    c.isDigit = true := by
  rw [Binary64.zeros, String.toList_ofList] at h
  rw [(List.mem_replicate.mp h).2]
  rfl

theorem toString_ne_nil (n : Nat) : (toString n).toList ≠ [] := by
  have h : (toString n).toList = Nat.toDigits 10 n := Nat.toList_repr
  rw [h]
  exact Nat.toDigits_ne_nil

/-- A pointed numeral is its digits with a point at the place. -/
theorem toList_pointed (digits : String) (place : Int) : (Binary64.pointed digits place).toList =
    digits.toList.take place.toNat ++ '.' :: digits.toList.drop place.toNat := by
  have htext : Binary64.pointed digits place =
      String.ofList (digits.toList.take place.toNat) ++ "." ++
        String.ofList (digits.toList.drop place.toNat) :=
    rfl
  rw [htext]
  simp

/-- A finite number is written with a sign or without, and with digits and a point or without. -/
theorem exists_spellPlain_finite (negative : Bool) (significand : Nat) (exponent : Int) :
    ∃ s : String, (Binary64.finite negative significand exponent).spellPlain =
      (if negative then "-" else "") ++ s ∧ IsDecimal s.toList := by
  rw [Binary64.spellPlain]
  dsimp only
  split
  · exact ⟨"0", rfl, isDecimal_digits (by decide) (List.all_eq_true.mp (by decide))⟩
  · generalize (Binary64.finite negative significand exponent).shortest = decimal
    obtain ⟨n, power⟩ := decimal
    dsimp only
    refine ⟨_, rfl, ?_⟩
    split
    · rw [String.toList_append]
      refine isDecimal_digits (List.append_ne_nil_of_left_ne_nil (toString_ne_nil n) _) ?_
      rw [List.forall_mem_append]
      exact ⟨fun c hc => isDigit_of_mem_toString hc, fun c hc => isDigit_of_mem_zeros hc⟩
    · split
      · next hpoint =>
        rw [toList_pointed]
        refine isDecimal_point ?_ (fun c hc => isDigit_of_mem_toString (List.mem_of_mem_take hc))
          fun c hc => isDigit_of_mem_toString (List.mem_of_mem_drop hc)
        rw [ne_eq, List.take_eq_nil_iff, not_or]
        exact ⟨by omega, toString_ne_nil n⟩
      · have htext : ("0." ++ Binary64.zeros (-(Int.ofNat (toString n).length + power)) ++
            toString n).toList = ['0'] ++ '.' ::
              ((Binary64.zeros (-(Int.ofNat (toString n).length + power))).toList ++
                (toString n).toList) := by
          simp
        rw [htext]
        refine isDecimal_point (by decide) (List.all_eq_true.mp (by decide)) ?_
        rw [List.forall_mem_append]
        exact ⟨fun c hc => isDigit_of_mem_zeros hc, fun c hc => isDigit_of_mem_toString hc⟩

/-- A minus before a digit is a token of its own. -/
theorem readLexeme_minus {c : Char} (hc : c.isDigit = true) (prev : Option Token) :
    readLexeme .duckDb prev '-' (c :: rest) = Lexeme.ofToken (.symbol "-") 1 := by
  have hten := mem_digits_of_isDigit hc
  simp only [List.mem_cons, List.not_mem_nil, or_false] at hten
  rcases hten with rfl | rfl | rfl | rfl | rfl | rfl | rfl | rfl | rfl | rfl <;> rfl

/-- **A bound is written as tokens**: a number with a sign or without. -/
theorem exists_spells_spellPlain (x : Binary64) : ∃ ts, Spells .duckDb x.spellPlain.toList ts := by
  match x with
  | .finite negative significand exponent =>
    obtain ⟨s, htext, hdecimal⟩ := exists_spellPlain_finite negative significand exponent
    have hnumber : Spells .duckDb s.toList [.number (String.ofList s.toList) false] :=
      .number rfl rfl hdecimal
    rw [htext]
    cases negative with
    | false => exact ⟨_, hnumber⟩
    | true =>
      obtain ⟨ds, tail, hsplit, hne, hds, -⟩ := hdecimal.split
      obtain ⟨c, ds, rfl⟩ := List.exists_cons_of_ne_nil hne
      have hc := hds c (List.mem_cons_self ..)
      rw [hsplit] at hnumber
      rw [if_pos rfl, String.toList_append, hsplit]
      exact ⟨_, .mark (fun prev => readLexeme_minus hc prev) hnumber⟩
  | .infinite true => exact ⟨_, .mark (fun _ => rfl) (.wordEnd "inf" (by decide))⟩
  | .infinite false => exact ⟨_, .wordEnd "inf" (by decide)⟩
  | .undefined => exact ⟨_, .wordEnd "NaN" (by decide)⟩

/-! ### Queries of checks -/

/-- The query for the rows of a table whose column meets a condition. -/
def rowsWhere (table column condition : String) : String :=
  "SELECT * FROM " ++ quoteQualified table ++ " WHERE " ++ quoteName column ++ " " ++ condition

/-- The tokens of such a query. -/
def rowsTokens (table column : String) (condition : List Token) : List Token :=
  [Token.plainWord "SELECT", .symbol "*", Token.plainWord "FROM"] ++ qualifiedTokens table ++
    [Token.plainWord "WHERE", quotedWord column] ++ condition

/-- The tokens of a query that counts the rows where a condition holds. -/
theorem spells_rowsWhere (table column : String) {condition : String}
    (h : Spells .duckDb condition.toList ts) :
    Spells .duckDb (rowsWhere table column condition).toList (rowsTokens table column ts) := by
  have hselect : "SELECT * FROM ".toList =
      "SELECT".toList ++ ' ' :: '*' :: ' ' :: ("FROM".toList ++ [' ']) :=
    rfl
  have hwhere : " WHERE ".toList = ' ' :: ("WHERE".toList ++ [' ']) := rfl
  have hblank : " ".toList = [' '] := rfl
  delta rowsWhere rowsTokens
  simp only [hselect, hwhere, hblank, String.toList_append, List.append_assoc, List.cons_append,
    List.nil_append]
  refine .wordBlank "SELECT" (by decide) (.mark (fun _ => rfl) (.blank ?_))
  refine .wordBlank "FROM" (by decide) ?_
  refine spells_quoteQualified table _ _ (by simp) (.blank ?_)
  refine .wordBlank "WHERE" (by decide) ?_
  exact spells_quoteName column _ _ (by simp) (.blank h)

/-- The tokens of queries for rows differ in names only if those of their conditions do not differ
otherwise. -/
theorem map_masked_rowsTokens {table table' : String} (column column' : String)
    {condition condition' : List Token}
    (hdots : table.toList.count '.' = table'.toList.count '.')
    (hcondition : condition.map Token.masked = condition'.map Token.masked) :
    (rowsTokens table column condition).map Token.masked =
      (rowsTokens table' column' condition').map Token.masked := by
  simp only [rowsTokens, List.map_append, map_masked_qualifiedTokens, hdots, hcondition]
  rfl

/-- The condition of the check for missing values is two words. -/
theorem spells_isNull : Spells .duckDb "IS NULL".toList
    [Token.plainWord "IS", Token.plainWord "NULL"] :=
  .wordBlank "IS" (by decide) (.wordEnd "NULL" (by decide))

/-- A comparison with a number. -/
theorem spells_comparison {op : String} {number : List Char} (hop : op ∈ ["<", "<=", ">", ">="])
    (h : Spells .duckDb number ts) :
    Spells .duckDb (op.toList ++ ' ' :: number) (.symbol op :: ts) := by
  simp only [List.mem_cons, List.not_mem_nil, or_false] at hop
  rcases hop with rfl | rfl | rfl | rfl
  · exact .mark (fun _ => rfl) (.blank h)
  · exact @Spells.token _ '<' ['='] _ _ _ (fun _ => rfl) (.blank h)
  · exact .mark (fun _ => rfl) (.blank h)
  · exact @Spells.token _ '>' ['='] _ _ _ (fun _ => rfl) (.blank h)

/-- The query for the rows whose column compares with a number. -/
theorem spells_rowsCompared (table column : String) {op condition : String} {number : List Char}
    (hop : op ∈ ["<", "<=", ">", ">="]) (htext : condition.toList = op.toList ++ ' ' :: number)
    (h : Spells .duckDb number ts) :
    Spells .duckDb (rowsWhere table column condition).toList
      (rowsTokens table column (.symbol op :: ts)) :=
  spells_rowsWhere table column (htext ▸ spells_comparison hop h)

theorem spells_zero : Spells .duckDb "0".toList [.number "0" false] :=
  .number rfl rfl (isDecimal_digits (by decide) (List.all_eq_true.mp (by decide)))

theorem spells_one : Spells .duckDb "1".toList [.number "1" false] :=
  .number rfl rfl (isDecimal_digits (by decide) (List.all_eq_true.mp (by decide)))

/-- The tokens of the condition that a value is none of the accepted ones. -/
def outsideTokens (column : String) (values : List String) : List Token :=
  [Token.plainWord "NOT", Token.plainWord "IN", .symbol "("] ++
    (values.map (Token.string .single)).intersperse (.symbol ",") ++
    [.symbol ")", Token.plainWord "OR", quotedWord column, Token.plainWord "IS",
      Token.plainWord "NULL"]

/-- Quoted texts with commas between them are as many string tokens with commas between them. -/
theorem spells_literals (values : List String) (hrest : rest.head? ≠ some '\'')
    (h : Spells .duckDb rest ts) :
    Spells .duckDb ((", ".intercalate (values.map literalText)).toList ++ rest)
      ((values.map (Token.string .single)).intersperse (.symbol ",") ++ ts) := by
  have hvalues : List.Forall₂ (SpellsBefore .duckDb fun rest => rest.head? ≠ some '\'')
      (values.map literalText) (values.map fun s => [Token.string .single s]) := by
    rw [List.forall₂_map_left_iff, List.forall₂_map_right_iff, List.forall₂_same]
    exact fun s _ => spells_literalText s
  have hcomma : ∀ text ∈ values.map literalText, ∀ rest ts,
      Spells .duckDb (text.toList ++ rest) ts →
        Spells .duckDb (", ".toList ++ (text.toList ++ rest)) ([.symbol ","] ++ ts) :=
    fun _ _ _ _ h => .symbol (by decide) (.blank h)
  have hspells := Spells.intercalate hvalues hcomma (fun _ => by simp) hrest h
  have hrows : (values.map fun s => [Token.string .single s]) =
      (values.map (Token.string .single)).map fun t => [t] := by
    rw [List.map_map]
    rfl
  rw [hrows, flatten_intersperse_singleton] at hspells
  exact hspells

/-- The condition that a value is none of the accepted ones. -/
def outside (column values : String) : String :=
  "NOT IN (" ++ values ++ ") OR " ++ quoteName column ++ " IS NULL"

/-- The tokens of the condition that a value is none of the accepted ones. -/
theorem spells_outside (column : String) (values : List String) :
    Spells .duckDb (outside column (", ".intercalate (values.map literalText))).toList
      (outsideTokens column values) := by
  have hstart : "NOT IN (".toList = "NOT".toList ++ ' ' :: ("IN".toList ++ [' ', '(']) := rfl
  have hnext : ") OR ".toList = ')' :: ' ' :: ("OR".toList ++ [' ']) := rfl
  have hend : " IS NULL".toList = ' ' :: "IS NULL".toList := rfl
  delta outside outsideTokens
  simp only [hstart, hnext, hend, String.toList_append, List.append_assoc, List.cons_append,
    List.nil_append]
  refine .wordBlank "NOT" (by decide) (.wordBlank "IN" (by decide) ?_)
  refine .symbol (by decide) (spells_literals values (by simp) ?_)
  refine .symbol (by decide) (.blank (.wordBlank "OR" (by decide) ?_))
  exact spells_quoteName column _ _ (by simp) (.blank spells_isNull)

/-- The query for the values of a column that occur more than once. -/
def repeated (table column : String) : String :=
  "SELECT " ++ quoteName column ++ ", COUNT(*) AS cnt\nFROM " ++ quoteQualified table ++
    "\nGROUP BY " ++ quoteName column ++ "\nHAVING COUNT(*) > 1"

/-- The tokens of this query. -/
def repeatedTokens (table column : String) : List Token :=
  [Token.plainWord "SELECT", quotedWord column, .symbol ",", Token.plainWord "COUNT", .symbol "(",
    .symbol "*", .symbol ")", Token.plainWord "AS", Token.plainWord "cnt",
    Token.plainWord "FROM"] ++ qualifiedTokens table ++
  [Token.plainWord "GROUP", Token.plainWord "BY", quotedWord column, Token.plainWord "HAVING",
    Token.plainWord "COUNT", .symbol "(", .symbol "*", .symbol ")", .symbol ">",
    .number "1" false]

theorem spells_countAll (h : Spells .duckDb rest ts) :
    Spells .duckDb ("COUNT".toList ++ '(' :: '*' :: ')' :: ' ' :: rest)
      (Token.plainWord "COUNT" :: .symbol "(" :: .symbol "*" :: .symbol ")" :: ts) := by
  refine .word (by decide) (stops_cons (by decide)) (.symbol (by decide) ?_)
  exact .mark (fun _ => rfl) (.symbol (by decide) (.blank h))

/-- The tokens of the query that counts repeated values. -/
theorem spells_repeated (table column : String) :
    Spells .duckDb (repeated table column).toList (repeatedTokens table column) := by
  have hselect : "SELECT ".toList = "SELECT".toList ++ [' '] := rfl
  have hcount : ", COUNT(*) AS cnt\nFROM ".toList = ',' :: ' ' :: ("COUNT".toList ++ '(' :: '*' ::
      ')' :: ' ' :: ("AS".toList ++ ' ' :: ("cnt".toList ++ '\n' :: ("FROM".toList ++ [' '])))) :=
    rfl
  have hgroup : "\nGROUP BY ".toList = '\n' :: ("GROUP".toList ++ ' ' :: ("BY".toList ++ [' '])) :=
    rfl
  have hhaving : "\nHAVING COUNT(*) > 1".toList = '\n' :: ("HAVING".toList ++ ' ' ::
      ("COUNT".toList ++ '(' :: '*' :: ')' :: ' ' :: '>' :: ' ' :: "1".toList)) :=
    rfl
  delta repeated repeatedTokens
  simp only [hselect, hcount, hgroup, hhaving, String.toList_append, List.append_assoc,
    List.cons_append, List.nil_append]
  refine .wordBlank "SELECT" (by decide) (spells_quoteName column _ _ (by simp) ?_)
  refine .symbol (by decide) (.blank (spells_countAll ?_))
  refine .wordBlank "AS" (by decide) ?_
  refine .word (by decide) (stops_cons (by decide)) (.lineBreak ?_)
  refine .wordBlank "FROM" (by decide) ?_
  refine spells_quoteQualified table _ _ (by simp) (.lineBreak ?_)
  refine .wordBlank "GROUP" (by decide) (.wordBlank "BY" (by decide) ?_)
  refine spells_quoteName column _ _ (by simp) (.lineBreak ?_)
  refine .wordBlank "HAVING" (by decide) (spells_countAll ?_)
  exact .mark (fun _ => rfl) (.blank spells_one)

/-- Queries for repeated values have one shape when the names of the tables have equally many
parts. -/
theorem map_masked_repeatedTokens {table table' : String} (column column' : String)
    (hdots : table.toList.count '.' = table'.toList.count '.') :
    (repeatedTokens table column).map Token.masked =
      (repeatedTokens table' column').map Token.masked := by
  simp only [repeatedTokens, List.map_append, map_masked_qualifiedTokens, hdots]
  rfl

/-- Conditions on accepted values have one shape when equally many are accepted. -/
theorem map_masked_outsideTokens {vs vs' : List String} (column column' : String)
    (hlength : vs.length = vs'.length) :
    (outsideTokens column vs).map Token.masked = (outsideTokens column' vs').map Token.masked := by
  have hvalues (vs : List String) : (vs.map (Token.string .single)).map Token.masked =
      List.replicate vs.length (.string .single "") := by
    rw [List.map_map, ← List.map_const']
    rfl
  simp only [outsideTokens, List.map_append, map_intersperse, hvalues, hlength]
  rfl

namespace ColumnCheck

/-- The names of the checks that there are. -/
def names : List String :=
  ["not_null", "unique", "positive", "non_negative", "negative", "accepted_values", "min", "max"]

/-- Two checks that differ in the texts that they accept at most, and accept the same number of
them. -/
structure SameKind (c c' : ColumnCheck) : Prop where
  name : c.name = c'.name
  bound : c.name = "min" ∨ c.name = "max" → c.bound = c'.bound
  values : c.name = "accepted_values" → ∃ vs vs' : List String, vs.length = vs'.length ∧
    c.value = some (.texts vs) ∧ c'.value = some (.texts vs')

/-- What keeps a check from being a query. -/
inductive Refused (c : ColumnCheck) : Prop
  | unknown : c.name ∉ names → Refused c
  | noBound {e : CheckError} : c.name = "min" ∨ c.name = "max" → c.bound = .error e → Refused c
  | noValues : c.name = "accepted_values" → c.value = some (.texts []) → Refused c

/-- The tokens of the query of a check. Names and accepted texts stand in them as they are, as the
values of quoted identifiers and literals. -/
inductive ReadAs (c : ColumnCheck) (table column : String) : List Token → Prop
  | notNull : c.name = "not_null" → c.ReadAs table column
      (rowsTokens table column [Token.plainWord "IS", Token.plainWord "NULL"])
  | unique : c.name = "unique" → c.ReadAs table column (repeatedTokens table column)
  | sign {op : String} :
      (c.name, op) ∈ [("positive", "<="), ("non_negative", "<"), ("negative", ">=")] →
      c.ReadAs table column (rowsTokens table column [.symbol op, .number "0" false])
  | accepted {vs : List String} : c.name = "accepted_values" → c.value = some (.texts vs) →
      vs ≠ [] → c.ReadAs table column (rowsTokens table column (outsideTokens column vs))
  /-- The tokens of a bound are those of its text by itself. -/
  | bounded {op text : String} {number : List Token} :
      (c.name, op) ∈ [("min", "<"), ("max", ">")] → c.bound = .ok text →
      row? .duckDb text = some number →
      c.ReadAs table column (rowsTokens table column (.symbol op :: number))

variable {c c' : ColumnCheck} {table table' column column' : String}

/-- Texts can always be written as literals. -/
theorem mapM_literal (vs : List String) :
    (vs.map Value.text).mapM literal = .ok (vs.map literalText) := by
  induction vs with
  | nil => rfl
  | cons v vs ih =>
    rw [List.map_cons, List.mapM_cons, ih]
    rfl

/-- Accepted texts are listed as literals. -/
theorem acceptedValues_texts {vs : List String} (h : c.value = some (.texts vs)) (hne : vs ≠ []) :
    c.acceptedValues = .ok (", ".intercalate (vs.map literalText)) := by
  obtain ⟨v, vs, rfl⟩ := List.exists_cons_of_ne_nil hne
  have hvalues := mapM_literal (v :: vs)
  rw [acceptedValues, h]
  simp only [Value.texts, List.map_cons] at hvalues ⊢
  rw [hvalues]
  rfl

/-- The bound of a check is a number, which is written as tokens. -/
theorem exists_spells_bound {text : String} (h : c.bound = .ok text) :
    ∃ number, Spells .duckDb text.toList number := by
  rw [bound] at h
  split at h
  · next x _ =>
    obtain rfl := Except.ok.inj h
    exact exists_spells_spellPlain x
  · cases h

/-- **The query of a check spells its tokens.** -/
theorem ReadAs.exists_query (h : c.ReadAs table column ts) :
    ∃ sql, c.query table column = .ok sql ∧ Spells .duckDb sql.toList ts := by
  unfold query
  cases h with
  | notNull hname =>
    rw [hname]
    exact ⟨_, rfl, spells_rowsWhere table column spells_isNull⟩
  | unique hname =>
    rw [hname]
    exact ⟨_, rfl, spells_repeated table column⟩
  | sign hname =>
    simp only [List.mem_cons, Prod.mk.injEq, List.not_mem_nil, or_false] at hname
    rcases hname with ⟨hname, rfl⟩ | ⟨hname, rfl⟩ | ⟨hname, rfl⟩
    all_goals
      rw [hname]
      exact ⟨_, rfl, spells_rowsCompared table column (by decide) rfl spells_zero⟩
  | @accepted vs hname hvalue hne =>
    rw [hname]
    simp only [acceptedValues_texts hvalue hne]
    exact ⟨_, rfl, spells_rowsWhere table column (spells_outside column vs)⟩
  | bounded hname hbound hnumber =>
    obtain ⟨number, hspells⟩ := exists_spells_bound hbound
    obtain rfl := Option.some.inj (hnumber.symm.trans hspells.row?_eq)
    simp only [List.mem_cons, Prod.mk.injEq, List.not_mem_nil, or_false] at hname
    rcases hname with ⟨hname, rfl⟩ | ⟨hname, rfl⟩
    all_goals
      rw [hname, hbound]
      exact ⟨_, rfl, spells_rowsCompared table column (by decide) String.toList_append hspells⟩

/-- A check that is kept from being a query is none. -/
theorem Refused.exists_error (h : c.Refused) (table column : String) :
    ∃ e, c.query table column = .error e := by
  unfold query
  cases h with
  | unknown hname =>
    split
    case h_9 => exact ⟨_, rfl⟩
    all_goals simp_all [names]
  | noBound hname hbound =>
    rcases hname with hname | hname
    all_goals
      rw [hname, hbound]
      exact ⟨_, rfl⟩
  | noValues hname hvalue =>
    rw [hname]
    simp only [acceptedValues, hvalue]
    exact ⟨_, rfl⟩

/-- A check whose accepted values are texts is a query, unless something keeps it from being one. -/
theorem exists_readAs_or_refused (c : ColumnCheck) (table column : String)
    (htexts : c.name = "accepted_values" → ∃ vs, c.value = some (.texts vs)) :
    (∃ ts, c.ReadAs table column ts) ∨ c.Refused := by
  by_cases hknown : c.name ∈ names
  case neg => exact .inr (.unknown hknown)
  have hbounded {op : String} (hname : (c.name, op) ∈ [("min", "<"), ("max", ">")])
      (hends : c.name = "min" ∨ c.name = "max") :
      (∃ ts, c.ReadAs table column ts) ∨ c.Refused := by
    cases hbound : c.bound with
    | error e => exact .inr (.noBound hends hbound)
    | ok text =>
      obtain ⟨number, hspells⟩ := exists_spells_bound hbound
      exact .inl ⟨_, .bounded hname hbound hspells.row?_eq⟩
  simp only [names, List.mem_cons, List.not_mem_nil, or_false] at hknown
  -- the checks in the order of their names
  rcases hknown with h | h | h | h | h | h | h | h
  · exact .inl ⟨_, .notNull h⟩
  · exact .inl ⟨_, .unique h⟩
  · exact .inl ⟨_, @ReadAs.sign _ _ _ "<=" (by simp [h])⟩
  · exact .inl ⟨_, @ReadAs.sign _ _ _ "<" (by simp [h])⟩
  · exact .inl ⟨_, @ReadAs.sign _ _ _ ">=" (by simp [h])⟩
  · obtain ⟨vs, hvs⟩ := htexts h
    rcases eq_or_ne vs [] with rfl | hne
    · exact .inr (.noValues h hvs)
    · exact .inl ⟨_, .accepted h hvs hne⟩
  · exact @hbounded "<" (by simp [h]) (.inl h)
  · exact @hbounded ">" (by simp [h]) (.inr h)

/-- **The query of a check is read as its tokens.** -/
theorem readAs_of_query_eq_ok {sql : String}
    (htexts : c.name = "accepted_values" → ∃ vs, c.value = some (.texts vs))
    (h : c.query table column = .ok sql) :
    ∃ ts, row? .duckDb sql = some ts ∧ c.ReadAs table column ts := by
  rcases exists_readAs_or_refused c table column htexts with ⟨ts, hread⟩ | hrefused
  · obtain ⟨sql', hsql, hspells⟩ := hread.exists_query
    obtain rfl := Except.ok.inj (hsql.symm.trans h)
    exact ⟨ts, hspells.row?_eq, hread⟩
  · obtain ⟨e, herror⟩ := hrefused.exists_error table column
    cases herror.symm.trans h

/-- A list of accepted texts determines the texts. -/
theorem texts_injective {vs vs' : List String} (h : Value.texts vs = .texts vs') : vs = vs' :=
  List.map_injective_iff.mpr (fun _ _ => Value.text.inj) (Value.list.inj h)

/-- What keeps a check from being a query keeps those of its kind from it. -/
theorem SameKind.refused (h : c.SameKind c') (hrefused : c.Refused) : c'.Refused := by
  cases hrefused with
  | unknown hname => exact .unknown (h.name ▸ hname)
  | noBound hname hbound => exact .noBound (h.name ▸ hname) (h.bound hname ▸ hbound)
  | noValues hname hvalue =>
    obtain ⟨vs, vs', hlength, hvs, hvs'⟩ := h.values hname
    obtain rfl := texts_injective (Option.some.inj (hvs.symm.trans hvalue))
    obtain rfl := List.length_eq_zero_iff.mp hlength.symm
    exact .noValues (h.name ▸ hname) hvs'

/-- Checks of one kind have the same tokens but for the values. -/
theorem SameKind.readAs (h : c.SameKind c') (column' : String)
    (hdots : table.toList.count '.' = table'.toList.count '.') (hread : c.ReadAs table column ts) :
    ∃ ts', c'.ReadAs table' column' ts' ∧ ts.map Token.masked = ts'.map Token.masked := by
  cases hread with
  | notNull hname =>
    exact ⟨_, .notNull (h.name ▸ hname), map_masked_rowsTokens column column' hdots rfl⟩
  | unique hname =>
    exact ⟨_, .unique (h.name ▸ hname), map_masked_repeatedTokens column column' hdots⟩
  | sign hname =>
    exact ⟨_, .sign (h.name ▸ hname), map_masked_rowsTokens column column' hdots rfl⟩
  | @accepted vs hname hvalue hne =>
    obtain ⟨vs₀, vs', hlength, hvs, hvs'⟩ := h.values hname
    obtain rfl := texts_injective (Option.some.inj (hvs.symm.trans hvalue))
    have hne' : vs' ≠ [] := by
      rintro rfl
      exact hne (List.length_eq_zero_iff.mp hlength)
    exact ⟨_, .accepted (h.name ▸ hname) hvs' hne',
      map_masked_rowsTokens column column' hdots (map_masked_outsideTokens column column' hlength)⟩
  | bounded hname hbound hnumber =>
    have hends : c.name = "min" ∨ c.name = "max" := by
      simp only [List.mem_cons, Prod.mk.injEq, List.not_mem_nil, or_false] at hname
      exact hname.imp And.left And.left
    exact ⟨_, .bounded (h.name ▸ hname) (h.bound hends ▸ hbound) hnumber,
      map_masked_rowsTokens column column' hdots rfl⟩

/-- **Queries of checks of one kind have the same shape.** -/
theorem sameShape_query (column column' : String)
    (hdots : table.toList.count '.' = table'.toList.count '.') (h : c.SameKind c') :
    (∃ sql sql', c.query table column = .ok sql ∧ c'.query table' column' = .ok sql' ∧
      SameShape .duckDb sql sql') ∨
    (c.Refused ∧ ∃ e e', c.query table column = .error e ∧
      c'.query table' column' = .error e') := by
  have htexts : c.name = "accepted_values" → ∃ vs, c.value = some (.texts vs) := fun hname =>
    let ⟨vs, _, _, hvs, _⟩ := h.values hname
    ⟨vs, hvs⟩
  rcases exists_readAs_or_refused c table column htexts with ⟨ts, hread⟩ | hrefused
  · left
    obtain ⟨ts', hread', hmasked⟩ := h.readAs column' hdots hread
    obtain ⟨sql, hsql, hspells⟩ := hread.exists_query
    obtain ⟨sql', hsql', hspells'⟩ := hread'.exists_query
    exact ⟨sql, sql', hsql, hsql', sameShape_of_spells hspells hspells' hmasked⟩
  · right
    obtain ⟨e, herror⟩ := hrefused.exists_error table column
    obtain ⟨e', herror'⟩ := (h.refused hrefused).exists_error table' column'
    exact ⟨hrefused, e, e', herror, herror'⟩

end ColumnCheck

end AssetFlow
