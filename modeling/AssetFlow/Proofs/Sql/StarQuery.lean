import AssetFlow.Proofs.Sql.Absent
import AssetFlow.Proofs.Sql.PlainName
import AssetFlow.Sql.Lineage

/-!
# The query for all columns of one table

In every dialect `select * from t`, with a plain name for `t`, is one query that reads all columns
of the table `t`. Its lineage follows: it is made of the columns that are known of the table, and
of one column `*` if none are.

## Main definitions

- `starQuery`: the text of the query
- `Parser.StarTokens`: the tokens of the query
- `Select.ReadsAll`, `Statement.ReadsAll`: the query as a syntax tree

## Main statements

- `exists_scan_starQuery`: the tokens of the text
- `Parser.StarTokens.exists_run_statements`: the statements that are read from the tokens
- `columnLineage_starQuery`: the lineage of the text
-/

namespace AssetFlow.Sql

/-- The text that reads all columns of a table. -/
def starQuery (name : String) : String :=
  "select * from " ++ name

variable {d : Dialect} {name : String} {schema : Schema}

/-! ### The tokens of the text -/

/-- The text has no blanks at its ends. -/
theorem trim_starQuery (h : isPlainName d name = true) :
    Text.trim (starQuery name) = starQuery name := by
  obtain ⟨c, ws, hname, hc, hws⟩ := exists_of_isPlainName h
  have htext : (starQuery name).toList = 's' :: ("elect * from ".toList ++ name.toList) := by
    rw [starQuery, String.toList_append]
    rfl
  have hstart : Text.trimStart (starQuery name) = starQuery name := by
    rw [Text.trimStart, htext, List.dropWhile_cons_of_neg (by decide), ← htext,
      String.ofList_toList]
  have hne : (starQuery name).toList ≠ [] := by simp [htext]
  have hlast : (starQuery name).toList.getLast hne ∈ name.toList := by
    simp [htext, hname]
  have hblank := (not_mem_marks_of_isWordChar (isWordChar_of_mem h hlast)).2
  have hreverse : (starQuery name).toList.reverse =
      (starQuery name).toList.getLast hne :: (starQuery name).toList.dropLast.reverse := by
    rw [← List.reverse_concat, List.dropLast_concat_getLast]
  rw [Text.trim, hstart, Text.trimEnd, hreverse, List.dropWhile_cons_of_neg (by simp [hblank]),
    ← hreverse, List.reverse_reverse, String.ofList_toList]

/-- The text has four tokens, and no comments between them. -/
theorem exists_scan_starQuery (h : isPlainName d name = true) : ∃ tokens,
    Token.scan d (starQuery name) = .ok tokens ∧
      tokens.toList.map (·.token) = [Token.plainWord "select", .symbol "*",
        Token.plainWord "from", Token.plainWord name] ∧
      ∀ t ∈ tokens.toList, t.gap.comment = none := by
  obtain ⟨c, ws, hname, hc, hws⟩ := exists_of_isPlainName h
  have htext : (starQuery name).toList = ('s' :: "elect".toList) ++
      (' ' :: '*' :: ' ' :: (('f' :: "rom".toList) ++ (' ' :: (c :: ws ++ [])))) := by
    rw [starQuery, String.toList_append, hname, List.append_nil]
    rfl
  -- four words and symbols, three blanks, and what is left of the fuel
  have hfuel : (starQuery name).toList.length + 1 = ws.length + 9 + 7 := by
    rw [htext]
    simp
  have hselect := List.all_eq_true.mp (show "elect".toList.all isWordChar = true by decide)
  have hfrom := List.all_eq_true.mp (show "rom".toList.all isWordChar = true by decide)
  rw [Token.scan, hfuel, htext, scanFrom_word (by decide) hselect (.inr rfl), scanFrom_blank,
    scanFrom_star, scanFrom_blank, scanFrom_word (by decide) hfrom (.inr rfl), scanFrom_blank,
    scanFrom_word hc hws (.inl rfl)]
  refine ⟨_, rfl, ?_, ?_⟩
  · rw [← hname, String.ofList_toList]
    rfl
  · simp [Scanned.addToken, Scanned.addBlank]

namespace Parser

/-- The tokens of `select * from name`. -/
structure StarTokens (s : Source) (name : String) : Prop where
  size : s.tokens.size = 4
  tokenAt_select : s.tokenAt 0 = Token.plainWord "select"
  tokenAt_star : s.tokenAt 1 = .symbol "*"
  no_hint : (s.located 1).gap.comment = none
  tokenAt_from : s.tokenAt 2 = Token.plainWord "from"
  tokenAt_name : s.tokenAt 3 = Token.plainWord name

/-- The four tokens of the text are what its parsers need. -/
theorem exists_starTokens (h : isPlainName d name = true) : ∃ tokens,
    Token.scan d (starQuery name) = .ok tokens ∧ StarTokens ⟨d, tokens, false⟩ name := by
  obtain ⟨⟨ts⟩, hscan, htokens, hgaps⟩ := exists_scan_starQuery h
  obtain ⟨select, ts, rfl, hselect, htokens⟩ := List.map_eq_cons_iff.mp htokens
  obtain ⟨star, ts, rfl, hstar, htokens⟩ := List.map_eq_cons_iff.mp htokens
  obtain ⟨from_, ts, rfl, hfrom, htokens⟩ := List.map_eq_cons_iff.mp htokens
  obtain ⟨table, ts, rfl, htable, htokens⟩ := List.map_eq_cons_iff.mp htokens
  obtain rfl := List.map_eq_nil_iff.mp htokens
  exact ⟨_, hscan, rfl, hselect, hstar, hgaps star (by simp), hfrom, htable⟩

/-! ### The parts of the query -/

variable {s : Source} {r : Rules}

namespace StarTokens

theorem atEnd (h : StarTokens s name) : s.AtEnd 4 :=
  Nat.le_of_eq h.size

theorem keywordAt_select (h : StarTokens s name) : s.keywordAt 0 = "SELECT" := by
  rw [Source.keywordAt, h.tokenAt_select]
  decide +kernel

theorem keywordAt_star (h : StarTokens s name) : s.keywordAt 1 = "" := by
  rw [Source.keywordAt, h.tokenAt_star]
  rfl

theorem keywordAt_from (h : StarTokens s name) : s.keywordAt 2 = "FROM" := by
  rw [Source.keywordAt, h.tokenAt_from]
  decide +kernel

theorem keywordAt_name (h : StarTokens s name) : s.keywordAt 3 = name.toUpper := by
  rw [Source.keywordAt, h.tokenAt_name]
  rfl

/-- The star is an item. -/
theorem run_item (h : StarTokens s name) : item r s 1 = .ok (.wildcard [], 2) := by
  have hroot : onlyIf s.dialect.rootColumns (keyword "CONNECT_BY_ROOT") s 1 = .ok (false, 1) :=
    run_onlyIf_of_no (run_keyword_of_ne (by simp [h.keywordAt_star]))
  have hstar : starred r s 1 = .ok (.all, 2) := by
    simp [starred, symbol, atSymbol, h.tokenAt_star]
  have hoptions : wildcardOptions r s 2 = .ok ([], 2) :=
    run_wildcardOptions_of_not_mem (by simp [h.keywordAt_from])
  simp [item, hroot, hstar, hoptions]

/-- The star is the whole projection. -/
theorem run_projection (h : StarTokens s name) :
    projection r s 1 = .ok ([.wildcard []], 2) := by
  have hlist : listWith s.dialect.projectionTrailingCommas closesList (item r) s 1 =
      .ok ([.wildcard []], 2) :=
    run_listWith_of_one h.run_item (by rw [h.tokenAt_from]; decide)
  simp [projection, h.keywordAt_star, hlist]

/-- The name is an identifier. -/
theorem run_identifier (h : StarTokens s name) : identifier s 3 = .ok (⟨name, none⟩, 4) := by
  simp [identifier, next, h.tokenAt_name, Token.plainWord]

/-- The name is a part of a name in every dialect. -/
theorem run_namePart (h : StarTokens s name) (hname : isPlainName s.dialect name = true) :
    namePart r s 3 = .ok (⟨name, none⟩, 4) := by
  have hcomputed : ¬ (Text.lower name = "identifier" ∧ s.dialect.computedNames = true) := by
    rintro ⟨hlower, hrule⟩
    exact lower_not_mem_relationWords hname (by simp [relationWords, hlower, hrule])
  simp [namePart, h.run_identifier, hcomputed]

/-- A plain name has no dots to be split at. -/
theorem splitDots_of_isPlainName (hname : isPlainName d name = true) :
    splitDots [⟨name, none⟩] = [⟨name, none⟩] := by
  have hdot : '.' ∉ name.toList := fun hmem =>
    (not_mem_marks_of_isWordChar (isWordChar_of_mem hname hmem)).1 (by simp)
  simp [splitDots, List.splitOn_eq_singleton hdot]

/-- The name has one part. -/
theorem run_nameParts (h : StarTokens s name) (hname : isPlainName s.dialect name = true) :
    nameParts (namePart r) s 3 = .ok (⟨[⟨name, none⟩]⟩, 4) := by
  have hdot : s.tokenAt 4 ≠ .symbol "." := by simp [h.atEnd.tokenAt]
  have hdots : onlyIf s.dialect.doubleDots (symbols [".", "."]) s 4 = .ok (false, 4) :=
    run_onlyIf_of_no (run_symbols_atEnd h.atEnd)
  simp [nameParts, h.run_namePart hname, hdots, run_repeated_symbol_of_ne hdot,
    splitDots_of_isPlainName hname]

/-- No hyphen ties another word to the name. -/
theorem run_hyphenatedParts (h : StarTokens s name) {fuel : Nat} :
    hyphenatedParts (fuel + 1) s 3 = .ok ([⟨name, none⟩], 4) := by
  have hrest : ∀ fuel, hyphenatedRest fuel name false s 4 = .ok ((name, false, false), 4) := by
    intro fuel
    cases fuel with
    | zero => rfl
    | succ fuel => simp [hyphenatedRest, h.atEnd.tokenAt]
  have hone : hyphenated s 3 = .ok ((⟨name, none⟩, false), 4) := by
    simp [hyphenated, h.tokenAt_name, Token.plainWord, hrest, atSymbol]
  simp [hyphenatedParts, hone, run_symbol_of_ne, h.atEnd.tokenAt]

/-- The name is the name of a table. -/
theorem run_tableNameOf (h : StarTokens s name) (hname : isPlainName s.dialect name = true) :
    tableNameOf (namePart r) s 3 = .ok (⟨[⟨name, none⟩]⟩, 4) := by
  rw [tableNameOf, run_bind, run_rule]
  dsimp only
  split
  · simp [h.run_hyphenatedParts, splitDots_of_isPlainName hname]
  · exact h.run_nameParts hname

/-! ### Relations -/

/-- The name is a table without an alias. -/
theorem exists_run_namedTable (h : StarTokens s name)
    (hname : isPlainName s.dialect name = true) : ∃ args hints,
      namedTable r s 3 = .ok (.table ⟨[⟨name, none⟩]⟩ args none hints, 4) := by
  obtain ⟨indexes, hindexes⟩ := exists_run_indexHints_atEnd h.atEnd
  have hopen : symbol "(" s 4 = .ok (false, 4) := run_symbol_of_ne (by simp [h.atEnd.tokenAt])
  have hbracket : atSymbol "[" s 4 = .ok (false, 4) :=
    run_atSymbol_of_ne (by simp [h.atEnd.tokenAt])
  have hpartition : onlyIf s.dialect.tablePartitions (keyword "PARTITION") s 4 = .ok (false, 4) :=
    run_onlyIf_of_no (run_keyword_of_ne (by simp [h.atEnd.keywordAt]))
  have hflag : flag ["WITH", "ORDINALITY"] " WITH ORDINALITY" s 4 = .ok ("", 4) :=
    run_flag_of_ne (by simp [h.atEnd.keywordAt])
  have hsample : tableSample r s 4 = .ok ([], 4) :=
    run_tableSample_of_not_mem (by simp [h.atEnd.keywordAt])
  refine ⟨[.text ""], indexes, ?_⟩
  simp [namedTable, h.run_tableNameOf hname, hopen, hbracket, hpartition,
    run_tableVersion_atEnd h.atEnd, hflag, run_tableAlias_atEnd h.atEnd, hindexes, hsample,
    run_withPivots_atEnd h.atEnd, run_withRowPattern_atEnd h.atEnd, h.atEnd.keywordAt]

/-- The name is none of the words that stand for something else. -/
theorem run_keyword_of_relationWord (h : StarTokens s name)
    (hname : isPlainName s.dialect name = true) {k w : String} (hw : w ∈ relationWords s.dialect)
    (hk : k.map Char.toLower = w) : keyword k s 3 = .ok (false, 3) := by
  refine run_keyword_of_ne ?_
  rw [h.keywordAt_name]
  exact toUpper_ne_of_isPlainName hname (hk ▸ hw)

/-- The name is a relation. -/
theorem exists_run_relation (h : StarTokens s name)
    (hname : isPlainName s.dialect name = true) (factor : Parser TableFactor) : ∃ args hints,
      relation r factor s 3 = .ok (.table ⟨[⟨name, none⟩]⟩ args none hints, 4) := by
  obtain ⟨args, hints, htable⟩ := h.exists_run_namedTable (r := r) hname
  refine ⟨args, hints, ?_⟩
  have hlateral : keyword "LATERAL" s 3 = .ok (false, 3) :=
    h.run_keyword_of_relationWord hname (w := "lateral") (by simp [relationWords])
      (by decide +kernel)
  have hrows : keyword "TABLE" s 3 = .ok (false, 3) :=
    h.run_keyword_of_relationWord hname (w := "table") (by simp [relationWords])
      (by decide +kernel)
  have hunnest : onlyIf s.dialect.unnestRelations (keyword "UNNEST") s 3 = .ok (false, 3) := by
    cases hrule : s.dialect.unnestRelations with
    | false => rfl
    | true =>
      exact h.run_keyword_of_relationWord hname (w := "unnest") (by simp [relationWords, hrule])
        (by decide +kernel)
  have hopen : symbol "(" s 3 = .ok (false, 3) :=
    run_symbol_of_ne (by simp [h.tokenAt_name, Token.plainWord])
  have hstage : atSymbol "@" s 3 = .ok (false, 3) :=
    run_atSymbol_of_ne (by simp [h.tokenAt_name, Token.plainWord])
  have hopens : ∀ k, opensWith k s 3 = .ok (false, 3) := fun k => run_opensWith_atEnd h.atEnd
  simp [relation, hlateral, hrows, hunnest, hopen, hstage, hopens, run_onlyIf_of_no, htable]

/-- The name is all that the query reads from. -/
theorem exists_run_sources (h : StarTokens s name)
    (hname : isPlainName s.dialect name = true) : ∃ args hints,
      sources r s 3 = .ok ([⟨.table ⟨[⟨name, none⟩]⟩ args none hints, []⟩], 4) := by
  have hturns : turns s 3 = .ok (1 + 1, 3) := by simp [h.size]
  obtain ⟨args, hints, hrelation⟩ := h.exists_run_relation (r := r) hname (tableFactorDeep r 1)
  refine ⟨args, hints, ?_⟩
  have hfactor : tableFactor r s 3 = .ok (.table ⟨[⟨name, none⟩]⟩ args none hints, 4) := by
    rw [tableFactor, run_bind, hturns]
    exact hrelation
  have hone : tableWithJoins r s 3 = .ok (⟨.table ⟨[⟨name, none⟩]⟩ args none hints, []⟩, 4) := by
    simp [tableWithJoins, joined, hfactor, run_joins_atEnd h.atEnd]
  rw [sources, run_bind, run_rule]
  exact run_listWith_of_one hone (by rw [h.atEnd.tokenAt]; nofun)

end StarTokens

end Parser

/-! ### The query -/

/-- The select of all columns of a table. -/
def Select.ReadsAll (name : String) (q : Select) : Prop :=
  ∃ head into args hints rest, q = ⟨false, head, [.wildcard []], into,
    [⟨.table ⟨[⟨name, none⟩]⟩ args none hints, []⟩], rest⟩

/-- The query for all columns of a table. -/
def Statement.ReadsAll (name : String) (x : Statement) : Prop :=
  ∃ q : Select, q.ReadsAll name ∧ x = .query ⟨false, [], .select q, []⟩

namespace Parser.StarTokens

variable {s : Source} {r : Rules}

/-- The text is a selection of everything from the table. -/
theorem exists_run_select (h : StarTokens s name) (hname : isPlainName s.dialect name = true) :
    ∃ q : Select, q.ReadsAll name ∧ select r s 0 = .ok (q, 4) := by
  obtain ⟨head, hhead⟩ := exists_run_selectHead_of_none (r := r) h.keywordAt_star h.no_hint
  obtain ⟨args, hints, hsources⟩ := h.exists_run_sources (r := r) hname
  refine ⟨_, ⟨head, [], args, hints, [], rfl⟩, ?_⟩
  have hearly : earlySources r s 0 = .ok (none, 0) := by
    rw [earlySources, run_bind, run_rule]
    exact run_allowed (run_after_of_ne (by simp [h.keywordAt_select]))
  have hselect : expectKeyword "SELECT" s 0 = .ok ((), 1) := by
    simp [expectKeyword, run_keyword h.keywordAt_select]
  have hafter : after ["FROM"] (sources r) s 2 =
      .ok (some [⟨.table ⟨[⟨name, none⟩]⟩ args none hints, []⟩], 4) := by
    simp [after, keywords, run_keyword h.keywordAt_from, hsources]
  have hexclude : excludedNames "EXCLUDE" s 2 = .ok ([], 2) :=
    run_excludedNames_of_ne (by simp [h.keywordAt_from])
  have hinto : intoTable s 2 = .ok ([], 2) := run_intoTable_of_ne (by simp [h.keywordAt_from])
  -- nothing is left after the name, so that all further clauses are absent
  have hclause : ∀ k ks, k ≠ "" → exprClause r (k :: ks) s 4 = .ok ([], 4) := fun k ks hk =>
    run_exprClause_of_ne (by simp [h.atEnd.keywordAt, Ne.symm hk])
  have hclauses : ∀ k ks, k ≠ "" → exprsClause r (k :: ks) s 4 = .ok ([], 4) := fun k ks hk =>
    run_exprsClause_of_ne (by simp [h.atEnd.keywordAt, Ne.symm hk])
  have horder : ∀ k ks, k ≠ "" → orderClause r (k :: ks) s 4 = .ok ([], 4) := fun k ks hk =>
    run_orderClause_of_ne (by simp [h.atEnd.keywordAt, Ne.symm hk])
  have hviews : lateralViews r s 4 = .ok ([], 4) :=
    run_lateralViews_of_ne (by simp [h.atEnd.keywordAt])
  have hgroup : groupBy r s 4 = .ok ([], 4) := run_groupBy_of_ne (by simp [h.atEnd.keywordAt])
  simp -zeta only [select, ite_bind_bind]
  simp [hearly, hselect, hhead, h.run_projection, run_allowed, hexclude, hinto, hafter, hviews,
    hclause, hclauses, horder, hgroup, run_connectBy_atEnd h.atEnd, run_windowClauses_atEnd h.atEnd]

/-- The selection is a query without a clause ahead of it. -/
theorem exists_run_query (h : StarTokens s name) (hname : isPlainName s.dialect name = true) :
    ∃ q : Select, q.ReadsAll name ∧ query r s 0 = .ok (⟨false, [], .select q, []⟩, 4) := by
  obtain ⟨q, hq, hselect⟩ := h.exists_run_select (r := r) hname
  refine ⟨q, hq, ?_⟩
  have hwith : withClause r s 0 = .ok ((false, []), 0) :=
    run_withClause_of_ne (by simp [h.keywordAt_select])
  have hterm : bodyTerm r s 0 = .ok (.select q, 4) := by
    simp [bodyTerm, h.keywordAt_select, hselect]
  have hoperations : ∀ words b, words.lookup "" = none →
      setOperations words b s 4 = .ok (b, 4) := by
    intro words b hwords
    refine run_grow_of_none ?_
    simp [h.atEnd.keywordAt, hwords]
  have hbody : queryBody r s 0 = .ok (.select q, 4) := by
    rw [queryBody, run_bind, hterm]
    exact hoperations _ _ rfl
  simp [query, hwith, h.keywordAt_select, hbody, run_queryRest_atEnd h.atEnd]

/-- The query is a statement. -/
theorem run_statement (h : StarTokens s name) {q : Query} (hq : r.query s 0 = .ok (q, 4)) :
    statement r s 0 = .ok (.query q, 4) := by
  simp [statement, h.keywordAt_select, hq]

/-- The text is read as a statement that reads all of the table. -/
theorem exists_run_statement (h : StarTokens s name) (hname : isPlainName s.dialect name = true)
    (level : Nat) :
    ∃ x : Statement, x.ReadsAll name ∧ (rules (level + 2)).statement s 0 = .ok (x, 4) := by
  obtain ⟨q, hq, hquery⟩ := h.exists_run_query hname
  exact ⟨_, ⟨q, hq, rfl⟩, h.run_statement hquery⟩

/-- The tokens are one statement, the query for all columns of the table. -/
theorem exists_run_statements (h : StarTokens s name)
    (hname : isPlainName s.dialect name = true) :
    ∃ x : Statement, x.ReadsAll name ∧ statements s 0 = .ok ([x], 4) := by
  obtain ⟨x, hx, hstatement⟩ := h.exists_run_statement hname 48
  refine ⟨x, hx, ?_⟩
  have hfirst : nextStatement true s 0 = .ok (some x, 4) := by
    simp [nextStatement, run_repeated_symbol_of_ne, h.tokenAt_select, Token.plainWord, maxNesting,
      hstatement]
  have hlast : nextStatement false s 4 = .ok (none, 4) := by
    simp [nextStatement, run_repeated_symbol_of_ne, h.atEnd.tokenAt]
  simp [statements, hfirst, run_repeated_of_none hlast]

end Parser.StarTokens

/-- **The text is read as one statement**, which reads all of the table. -/
theorem exists_firstStatement_starQuery (h : isPlainName d name = true) :
    ∃ x : Statement, x.ReadsAll name ∧ firstStatement d (starQuery name) = .ok x := by
  obtain ⟨tokens, hscan, htokens⟩ := Parser.exists_starTokens h
  obtain ⟨x, hx, hrun⟩ := htokens.exists_run_statements h
  refine ⟨x, hx, ?_⟩
  have hparse : parseStatements d (starQuery name) = .ok [x] := by
    simp only [parseStatements, hscan, hrun]
    rfl
  have hne : (starQuery name).isEmpty = false := by
    simp [starQuery]
  have hread : readStatements d (starQuery name) = .ok [x] := by
    rw [readStatements, trim_starQuery h]
    simp [hne, hparse, Except.mapError]
  simp only [firstStatement, hread]
  rfl

/-! ### Its lineage -/

/-- What is known of a table, as the columns of a query that reads them all. -/
def Schema.allOf (schema : Schema) (name : String) : List Output :=
  match schema.find? name with
  | some t => t.columns.map fun c => ⟨c.name, [⟨t.name, c.name⟩]⟩
  | none => [Output.wildcard name]

/-- The name stands for all columns of the table. -/
theorem expand_namedRelation {label : Option TableAlias} :
    (namedRelation schema [] ⟨[⟨name, none⟩]⟩ label).expand = schema.allOf name := by
  have hpath : ObjectName.path ⟨[⟨name, none⟩]⟩ = name := by
    simp [ObjectName.path, String.intercalate_singleton]
  simp only [namedRelation, hpath, List.lookup_nil, Schema.allOf]
  cases schema.find? name <;> rfl

/-- Outputs are listed one after the other if none of them are merged. -/
theorem foldl_addOutput_nil {outputs acc : List Output} :
    outputs.foldl (Scope.addOutput []) acc = acc ++ outputs := by
  induction outputs generalizing acc with
  | nil => simp
  | cons o outputs ih =>
    rw [List.foldl_cons, ih]
    simp [Scope.addOutput]

/-- **The outputs are all columns of the table.** -/
theorem Statement.ReadsAll.lineage {x : Statement} (h : x.ReadsAll name) :
    x.lineage schema = schema.allOf name := by
  obtain ⟨q, ⟨head, into, args, hints, rest, rfl⟩, rfl⟩ := h
  have hrelation : (namedRelation schema [] ⟨[⟨name, none⟩]⟩ none).expand = schema.allOf name :=
    expand_namedRelation
  simp [Statement.lineage, Query.outputs, bindCtes, Body.outputs, Select.outputs, itemOutputs,
    Item.outputs, sourceScope, TableWithJoins.addTo, TableFactor.addTo, joinScope, Scope.push,
    Scope.expandAll, foldl_addOutput_nil, hrelation]

/-- **The lineage of `select * from t`** is, in every dialect, the columns that are known of `t`. -/
theorem columnLineage_starQuery (h : isPlainName d name = true) :
    columnLineage d schema (starQuery name) = .ok (schema.allOf name) := by
  obtain ⟨x, hx, hfirst⟩ := exists_firstStatement_starQuery h
  rw [columnLineage, hfirst]
  exact congrArg Except.ok hx.lineage

end AssetFlow.Sql
