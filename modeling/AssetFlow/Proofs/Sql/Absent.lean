import AssetFlow.Sql.Grammar.Statement

/-!
# Absent clauses

What a parser answers on a source at a place. Most clauses of a statement are introduced by a
keyword or a symbol of their own: where the next token is another, the clause is read as empty and
no token is taken.

## Main definitions

- `Source.located`, `Source.tokenAt`, `Source.keywordAt`: the token at a place, and the keyword that
  it spells
- `Source.AtEnd`: no token is left

## Main statements

- `Parser.run_bind`: what two parsers in a row answer
- `Parser.run_keyword_of_ne`, `Parser.run_after_of_ne`: nothing is taken at another keyword
- `Parser.run_repeated_of_none`, `Parser.run_listWith_of_one`: loops that end at once
- `Parser.run_queryRest_atEnd`, `Parser.run_joins_atEnd`: at the end of the tokens a query and its
  relations have no more clauses
-/

namespace AssetFlow.Sql

namespace Source

/-- The token at a place with where it stands. -/
def located (s : Source) (n : Nat) : LocatedToken :=
  (s.tokens[n]?).getD Parser.finishToken

/-- The token at a place. -/
def tokenAt (s : Source) (n : Nat) : Token :=
  (s.located n).token

/-- The keyword at a place, or nothing. -/
def keywordAt (s : Source) (n : Nat) : String :=
  (s.tokenAt n).keyword

/-- No token is left. -/
def AtEnd (s : Source) (n : Nat) : Prop :=
  s.tokens.size ≤ n

variable {s : Source} {n : Nat}

@[simp] theorem token_located : (s.located n).token = s.tokenAt n := rfl
@[simp] theorem keyword_tokenAt : (s.tokenAt n).keyword = s.keywordAt n := rfl

theorem AtEnd.getElem?_tokens (h : s.AtEnd n) : s.tokens[n]? = none :=
  Array.getElem?_eq_none h

/-- At the end there is no token but the one that stands for the end. -/
theorem AtEnd.tokenAt (h : s.AtEnd n) : s.tokenAt n = .finish := by
  rw [Source.tokenAt, located, h.getElem?_tokens]
  rfl

/-- At the end there is no keyword. -/
theorem AtEnd.keywordAt (h : s.AtEnd n) : s.keywordAt n = "" := by
  rw [Source.keywordAt, h.tokenAt]
  rfl

end Source

namespace Parser

variable {α β : Type} {p : Parser α} {s : Source} {n m : Nat} {a : α} {k : String}
  {ks : List String} {r : Rules}

/-! ### Parsers in a row -/

@[simp] theorem run_bind (p : Parser α) (f : α → Parser β) (s : Source) (n : Nat) :
    (p >>= f) s n = match p s n with
      | .ok (a, m) => f a s m
      | .error e => .error e := by
  show (p s n >>= fun x => f x.1 s x.2) = _
  cases p s n <;> rfl

@[simp] theorem run_map (g : α → β) (p : Parser α) (s : Source) (n : Nat) :
    (g <$> p) s n = match p s n with
      | .ok (a, m) => .ok (g a, m)
      | .error e => .error e := by
  rw [map_eq_pure_bind, run_bind]
  rfl

@[simp] theorem run_pure (a : α) : (pure a : Parser α) s n = .ok (a, n) := rfl
@[simp] theorem run_read : (read : Parser Source) s n = .ok (s, n) := rfl
@[simp] theorem run_get : (get : Parser Nat) s n = .ok (n, n) := rfl
@[simp] theorem run_set : (set m : Parser PUnit) s n = .ok (.unit, m) := rfl
@[simp] theorem run_skip : skip s n = .ok (.unit, n + 1) := rfl
@[simp] theorem run_peekNth (i : Nat) : peekNth i s n = .ok (s.located (n + i), n) := rfl
@[simp] theorem run_peek : peek s n = .ok (s.tokenAt n, n) := rfl
@[simp] theorem run_keywordAt (i : Nat) : keywordAt i s n = .ok (s.keywordAt (n + i), n) := rfl
@[simp] theorem run_rule (f : Dialect → Bool) : rule f s n = .ok (f s.dialect, n) := rfl
@[simp] theorem run_turns : turns s n = .ok (s.tokens.size - n + 1, n) := rfl

/-- A parser that a dialect may leave out changes nothing where it finds nothing. -/
theorem run_allowed {c : Prop} [Decidable c] (h : p s n = .ok (a, n)) :
    (if c then p else pure a) s n = .ok (a, n) := by
  split
  · exact h
  · rfl

/-- A parser that a dialect may bar changes nothing where it finds nothing. -/
theorem run_barred {c : Prop} [Decidable c] (h : p s n = .ok (a, n)) :
    (if c then pure a else p) s n = .ok (a, n) := by
  split
  · rfl
  · exact h

/-- Parsers that go on alike after a choice are the choice and what follows it. -/
theorem ite_bind_bind {c : Prop} [Decidable c] {p q : Parser α} {f : α → Parser β} :
    (if c then p >>= f else q >>= f) = (if c then p else q) >>= f := by
  split <;> rfl

/-- A loop in which no turn finds anything finds nothing. -/
theorem run_forIn_of_yield {γ δ : Type} {xs : List γ} {b : δ} {body : γ → δ → Parser (ForInStep δ)}
    (h : ∀ x ∈ xs, body x b s n = .ok (.yield b, n)) : forIn xs b body s n = .ok (b, n) := by
  induction xs with
  | nil => rfl
  | cons x xs ih =>
    obtain ⟨hx, hxs⟩ := List.forall_mem_cons.mp h
    rw [List.forIn_cons, run_bind, hx]
    exact ih hxs

/-! ### Keywords and symbols -/

/-- A keyword that is there is read. -/
theorem run_keyword (h : s.keywordAt n = k) : keyword k s n = .ok (true, n + 1) := by
  simp [keyword, h]

/-- A keyword that is not there is not read. -/
theorem run_keyword_of_ne (h : s.keywordAt n ≠ k) : keyword k s n = .ok (false, n) := by
  simp [keyword, h]

/-- Keywords of which the first is not there are not read. -/
theorem run_keywords_of_ne (h : s.keywordAt n ≠ k) : keywords (k :: ks) s n = .ok (false, n) := by
  simp [keywords, run_keyword_of_ne h]

/-- What stands after keywords is absent if they are. -/
theorem run_after_of_ne (h : s.keywordAt n ≠ k) : after (k :: ks) p s n = .ok (none, n) := by
  simp [after, run_keywords_of_ne h]

/-- A flag is absent if its first keyword is. -/
theorem run_flag_of_ne {text : String} (h : s.keywordAt n ≠ k) :
    flag (k :: ks) text s n = .ok ("", n) := by
  simp [flag, run_keywords_of_ne h]

/-- None of some keywords is read where none is there. -/
theorem run_oneOf_of_not_mem (h : s.keywordAt n ∉ ks) : oneOf ks s n = .ok (none, n) := by
  simp [oneOf, h]

/-- A parser that asks for a symbol goes no further at another token. -/
theorem run_atSymbol_of_ne {x : String} (h : s.tokenAt n ≠ .symbol x) :
    atSymbol x s n = .ok (false, n) := by
  simp [atSymbol, h]

/-- A symbol that is not there is not read. -/
theorem run_symbol_of_ne {x : String} (h : s.tokenAt n ≠ .symbol x) :
    symbol x s n = .ok (false, n) := by
  simp [symbol, run_atSymbol_of_ne h]

/-- No symbols are read at the end. -/
theorem run_symbols_atEnd {x : String} {xs : List String} (h : s.AtEnd n) :
    symbols (x :: xs) s n = .ok (false, n) := by
  simp [symbols, atSymbols, List.range_succ_eq_map, h.getElem?_tokens]

/-- A parser that says no may as well not be allowed. -/
theorem run_onlyIf_of_no {b : Bool} {p : Parser Bool} (h : p s n = .ok (false, n)) :
    onlyIf b p s n = .ok (false, n) := by
  cases b
  · rfl
  · exact h

/-! ### Loops -/

/-- A repetition ends at once if the first turn finds nothing. -/
theorem run_repeated_of_none {step : Parser (Option α)} (h : step s n = .ok (none, n)) :
    repeated step s n = .ok ([], n) := by
  simp [repeated, repeatUpTo, h]

/-- A repetition that a symbol begins is empty where the symbol is not there. -/
theorem run_repeated_symbol_of_ne {x : String} {p : Parser (Option α)}
    (h : s.tokenAt n ≠ .symbol x) :
    repeated (do if ← symbol x then p else return none) s n = .ok ([], n) :=
  run_repeated_of_none (by simp [run_symbol_of_ne h])

/-- What may grow stays as it is if the first turn finds nothing. -/
theorem run_grow_of_none {step : α → Parser (Option α)} (h : step a s n = .ok (none, n)) :
    grow step a s n = .ok (a, n) := by
  simp [grow, growUpTo, h]

/-- A list has one item if no comma stands after it. -/
theorem run_listWith_of_one {trailing : Bool} {closes : Parser Bool} {item : Parser α}
    (h : item s n = .ok (a, m)) (hm : s.tokenAt m ≠ .symbol ",") :
    listWith trailing closes item s n = .ok ([a], m) := by
  have hends : listEnds trailing closes s m = .ok (true, m) := by
    simp [listEnds, run_symbol_of_ne hm]
  have hrest : ∀ i, listRest trailing closes item i s m = .ok ([], m) := by
    intro i
    cases i with
    | zero => rfl
    | succ i => simp [listRest, hends]
  simp [listWith, h, hrest]

/-! ### Clauses of queries -/

/-- A clause that its keyword does not open is empty; so is each of those that follow. -/
theorem run_exprClause_of_ne (h : s.keywordAt n ≠ k) :
    exprClause r (k :: ks) s n = .ok ([], n) := by
  simp [exprClause, run_after_of_ne h]

theorem run_exprsClause_of_ne (h : s.keywordAt n ≠ k) :
    exprsClause r (k :: ks) s n = .ok ([], n) := by
  simp [exprsClause, run_after_of_ne h]

theorem run_orderClause_of_ne (h : s.keywordAt n ≠ k) :
    orderClause r (k :: ks) s n = .ok ([], n) := by
  simp [orderClause, run_after_of_ne h]

theorem run_withClause_of_ne (h : s.keywordAt n ≠ "WITH") :
    withClause r s n = .ok ((false, []), n) := by
  simp [withClause, run_keyword_of_ne h]

theorem run_orderBy_of_ne (h : s.keywordAt n ≠ "ORDER") : orderBy r s n = .ok ([], n) := by
  simp [orderBy, run_keywords_of_ne h]

theorem run_limits_of_ne (h : s.keywordAt n ≠ "OFFSET") (h' : s.keywordAt n ≠ "LIMIT") :
    limits r s n = .ok ([], n) := by
  simp [limits, run_after_of_ne h, run_keyword_of_ne h']

theorem run_settings_of_ne (h : s.keywordAt n ≠ "SETTINGS") : settings r s n = .ok ([], n) := by
  simp [settings, run_onlyIf_of_no (run_keyword_of_ne h)]

theorem run_fetchRows_of_ne (h : s.keywordAt n ≠ "FETCH") : fetchRows s n = .ok ([], n) := by
  simp [fetchRows, run_keyword_of_ne h]

theorem run_forClauses_of_ne (h : s.keywordAt n ≠ "FOR") {fuel : Nat} :
    forClauses fuel s n = .ok ([], n) := by
  cases fuel with
  | zero => rfl
  | succ fuel => simp [forClauses, run_keyword_of_ne h]

theorem run_formatClause_of_ne (h : s.keywordAt n ≠ "FORMAT") :
    formatClause s n = .ok ([], n) := by
  simp [formatClause, run_onlyIf_of_no (run_keyword_of_ne h)]

theorem run_pipeOperators_of_ne (h : s.tokenAt n ≠ .symbol "|>") :
    pipeOperators r s n = .ok ([], n) := by
  rw [pipeOperators, run_bind, run_rule]
  dsimp only
  split
  · rfl
  · rw [run_bind, run_repeated_of_none]
    · rfl
    · simp [run_symbol_of_ne h]

/-- Nothing stands behind a query at the end. -/
theorem run_queryRest_atEnd (h : s.AtEnd n) : queryRest r s n = .ok ([], n) := by
  simp [queryRest, run_orderBy_of_ne, run_limits_of_ne, run_settings_of_ne, run_fetchRows_of_ne,
    run_forClauses_of_ne, run_formatClause_of_ne, run_pipeOperators_of_ne, h.keywordAt, h.tokenAt]

/-! ### Clauses of relations -/

/-- At the end of the text nothing opens. -/
theorem run_opensWith_atEnd (h : s.AtEnd (n + 1)) : opensWith k s n = .ok (false, n) := by
  simp [opensWith, h.tokenAt]

/-- At the end of the text there is no alias. -/
theorem run_aliasName_atEnd {allowed : Parser Bool} (h : s.AtEnd n) :
    aliasName allowed s n = .ok (none, n) := by
  simp [aliasName, run_keyword_of_ne, h.keywordAt, h.tokenAt]

/-- A table at the end has no alias. -/
theorem run_tableAlias_atEnd (h : s.AtEnd n) : tableAlias s n = .ok (none, n) := by
  simp [tableAlias, run_aliasName_atEnd h]

theorem run_indexHint_of_not_mem (h : s.keywordAt n ∉ ["USE", "IGNORE", "FORCE"]) :
    indexHint s n = .ok (none, n) := by
  simp [indexHint, run_oneOf_of_not_mem h]

/-- A table at the end has no hints for its indexes. -/
theorem exists_run_indexHints_atEnd (h : s.AtEnd n) : ∃ ps, indexHints s n = .ok (ps, n) := by
  have hnone : repeated indexHint s n = .ok ([], n) :=
    run_repeated_of_none (run_indexHint_of_not_mem (by simp [h.keywordAt]))
  rw [indexHints, run_bind, run_rule]
  dsimp only
  split
  · exact ⟨_, rfl⟩
  · simp [attempt, hnone]

theorem run_tableSample_of_not_mem (h : s.keywordAt n ∉ ["TABLESAMPLE", "SAMPLE"]) :
    tableSample r s n = .ok ([], n) := by
  simp [tableSample, run_oneOf_of_not_mem h]

theorem run_tableVersion_atEnd (h : s.AtEnd n) : tableVersion r s n = .ok ([], n) := by
  rw [tableVersion, run_bind, run_rule]
  dsimp only
  split
  · rfl
  · simp [run_exprClause_of_ne, run_after_of_ne, h.keywordAt]

variable {t : TableFactor} {factor : Parser TableFactor}

/-- A table at the end is not pivoted. -/
theorem run_withPivots_atEnd (h : s.AtEnd n) : withPivots r t s n = .ok (t, n) := by
  refine run_grow_of_none ?_
  simp [run_keyword_of_ne, h.keywordAt]

theorem run_withRowPattern_atEnd (h : s.AtEnd n) : withRowPattern r t s n = .ok (t, n) := by
  simp [withRowPattern, run_onlyIf_of_no, run_keyword_of_ne, h.keywordAt]

/-- Nothing joins at the end. -/
theorem run_joinKind_atEnd (h : s.AtEnd n) : joinKind false s n = .ok (none, n) := by
  simp [joinKind, run_keyword_of_ne, h.keywordAt]

/-- There are no joins at the end. -/
theorem run_joins_atEnd {depth : Nat} (h : s.AtEnd n) :
    joins r factor (depth + 1) s n = .ok ([], n) := by
  refine run_repeated_of_none ?_
  simp [join, run_keyword_of_ne, run_joinKind_atEnd h, h.keywordAt]

/-! ### Clauses of selects -/

/-- Without a comment there is no hint for the optimizer. -/
theorem run_optimizerHint_of_none (h : (s.located n).gap.comment = none) :
    optimizerHint s n = .ok ([], n) := by
  rw [optimizerHint, run_bind, run_rule]
  dsimp only
  split
  · rfl
  · simp [h]

theorem run_valueTable_of_not_mem (h : s.keywordAt n ∉ ["DISTINCT", "AS", "ALL"]) :
    valueTable s n = .ok ([], n) := by
  simp only [List.mem_cons, List.not_mem_nil, or_false, not_or] at h
  obtain ⟨hdistinct, has, hall⟩ := h
  rw [valueTable, run_bind, run_rule]
  dsimp only
  split
  · rfl
  · rw [run_bind, run_forIn_of_yield]
    · simp [run_keyword_of_ne has]
    · simp [run_keywords_of_ne, hdistinct, has, hall]

/-- No modifiers stand before what is no keyword. -/
theorem exists_run_selectModifiers_of_none (h : s.keywordAt n = "") :
    ∃ ps, selectModifiers r s n = .ok ((ps, []), n) := by
  rw [selectModifiers, run_bind, run_grow_of_none]
  · exact ⟨_, rfl⟩
  · simp [h, modifierWords]

theorem run_distinctness_of_not_mem (h : s.keywordAt n ∉ ["DISTINCT", "ALL"]) :
    distinctness r s n = .ok ([], n) := by
  simp only [List.mem_cons, List.not_mem_nil, or_false, not_or] at h
  obtain ⟨hdistinct, hall⟩ := h
  simp [distinctness, run_keyword_of_ne hall, run_keyword_of_ne hdistinct]

theorem run_topRows_of_ne (h : s.keywordAt n ≠ "TOP") : topRows r s n = .ok ([], n) := by
  simp [topRows, run_keyword_of_ne h]

/-- What is no keyword stands right after the word that starts a select. -/
theorem exists_run_selectHead_of_none (h : s.keywordAt n = "")
    (hgap : (s.located n).gap.comment = none) : ∃ ps, selectHead r s n = .ok (ps, n) := by
  have hmodifiers : ∃ ps, (if s.dialect.selectModifiers then selectModifiers r
      else pure ([], [])) s n = .ok ((ps, []), n) := by
    split
    · exact exists_run_selectModifiers_of_none h
    · exact ⟨_, rfl⟩
  obtain ⟨ps, hps⟩ := hmodifiers
  have hvalues : valueTable s n = .ok ([], n) := run_valueTable_of_not_mem (by simp [h])
  have hdistinct : distinctness r s n = .ok ([], n) := run_distinctness_of_not_mem (by simp [h])
  have htop : topRows r s n = .ok ([], n) := run_topRows_of_ne (by simp [h])
  refine ⟨ps, ?_⟩
  simp -zeta only [selectHead, ite_bind_bind]
  simp [run_optimizerHint_of_none hgap, hvalues, hps, hdistinct, htop, run_allowed, run_barred]

theorem run_excludedNames_of_ne (h : s.keywordAt n ≠ k) : excludedNames k s n = .ok ([], n) := by
  simp [excludedNames, run_keyword_of_ne h]

theorem run_wildcardOptions_of_not_mem
    (h : s.keywordAt n ∉ ["ILIKE", "EXCLUDE", "EXCEPT", "REPLACE", "RENAME"]) :
    wildcardOptions r s n = .ok ([], n) := by
  simp only [List.mem_cons, List.not_mem_nil, or_false, not_or] at h
  obtain ⟨hlike, hexclude, hexcept, hreplace, hrename⟩ := h
  have hpattern : wildcardPattern s n = .ok ([], n) := by
    simp [wildcardPattern, run_keyword_of_ne hlike]
  have hexceptions : wildcardExceptions s n = .ok ([], n) := by
    simp [wildcardExceptions, run_keyword_of_ne hexcept]
  have hreplacements : wildcardReplacements r s n = .ok ([], n) := by
    simp [wildcardReplacements, run_keyword_of_ne hreplace]
  have hnames : wildcardNames s n = .ok ([], n) := by
    simp [wildcardNames, run_keyword_of_ne hrename]
  simp -zeta only [wildcardOptions, ite_bind_bind]
  simp [run_allowed, hpattern, run_excludedNames_of_ne hexclude, hexceptions, hreplacements, hnames]

theorem run_intoTable_of_ne (h : s.keywordAt n ≠ "INTO") : intoTable s n = .ok ([], n) := by
  simp [intoTable, run_keyword_of_ne h]

theorem run_lateralViews_of_ne (h : s.keywordAt n ≠ "LATERAL") :
    lateralViews r s n = .ok ([], n) := by
  simp [lateralViews, run_repeated_of_none (run_after_of_ne h)]

theorem run_connectBy_atEnd (h : s.AtEnd n) : connectBy r s n = .ok ([], n) := by
  rw [connectBy, run_bind, run_rule]
  dsimp only
  split
  · rfl
  · rw [run_bind, run_repeated_of_none]
    · rfl
    · simp [run_exprClause_of_ne, run_after_of_ne, h.keywordAt]

theorem run_groupBy_of_ne (h : s.keywordAt n ≠ "GROUP") : groupBy r s n = .ok ([], n) := by
  simp [groupBy, run_keywords_of_ne h]

theorem run_windowClauses_atEnd (h : s.AtEnd n) : windowClauses r s n = .ok ([], n) := by
  simp [windowClauses, run_keyword_of_ne, run_exprClause_of_ne, onlyIf, h.keywordAt]

end Parser

end AssetFlow.Sql
