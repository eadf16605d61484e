import AssetFlow.Proofs.Sql.Counterpart
import AssetFlow.Proofs.Sql.KnownTables
import AssetFlow.Proofs.Sql.StarQuery

/-!
# Spelling of known tables

Known tables are found in any letter case, and a source names its table as the known tables spell
it. The last part of a dotted name refers to the table as long as there is no alias; but lineage
takes this from the spelling: it compares the name as written with the name as known, including
case. So for two collections of known tables that differ only in the case of names, lineage is the
same up to the spelling of tables if each qualifier of a query refers to the relation at the same
place (`columnLineage_respelled`). This is so for any query if no dotted name is spelled in two
ways; with such a name, a qualifier may be lost (`last_part_lost`).

## Main definitions

- `Schema.CaseVariant`: the same known tables, up to the case of their names
- `Sources.Respelled`: the same sources, with tables spelled as they are known
- `Statement.ReadAlike`: each qualifier refers to the relation at the same place
- `Schema.DotsKept`: no dotted name is spelled in two ways

## Main statements

- `Schema.CaseVariant.corresponds`: the known tables correspond
- `Query.counterpart_self`: where qualifiers are always answered alike
- `columnLineage_respelled`: lineage up to the spelling of tables
-/

namespace AssetFlow.Sql

namespace Schema

variable {s s' : Schema} {t : SchemaTable} {w : String}

/-- The same known tables up to the case of their names, no two of which differ by case only. -/
structure CaseVariant (s s' : Schema) : Prop where
  unique : s.Unique
  unique' : s'.Unique
  distinct : DistinctIgnoringCase (s.tables.map SchemaTable.name)
  distinct' : DistinctIgnoringCase (s'.tables.map SchemaTable.name)
  exists_right : ∀ t ∈ s.tables, ∃ t' ∈ s'.tables,
    Text.equalsIgnoringAsciiCase t.name t'.name = true ∧ t.columns = t'.columns
  exists_left : ∀ t' ∈ s'.tables, ∃ t ∈ s.tables,
    Text.equalsIgnoringAsciiCase t.name t'.name = true ∧ t.columns = t'.columns

/-- The name under which a table is known, if it is. -/
def spelling (s : Schema) (table : String) : String :=
  ((s.find? table).map SchemaTable.name).getD table

/-- No name with dots is spelled in two ways. -/
def DotsKept (s s' : Schema) : Prop :=
  ∀ t ∈ s.tables, ∀ t' ∈ s'.tables, Text.equalsIgnoringAsciiCase t.name t'.name = true →
    t.name = t'.name ∨ lastPart t.name = t.name ∧ lastPart t'.name = t'.name

theorem find?_eq_none (h : s.find? w = none) :
    ∀ t ∈ s.tables, Text.equalsIgnoringAsciiCase t.name w = false := by
  intro t ht
  rw [find?] at h
  split at h
  · cases h
  · exact Bool.eq_false_iff.mpr (List.find?_eq_none.mp h t ht)

/-- If names differ by more than case, a table is known under any spelling of its name. -/
theorem find?_eq_some_iff (hunique : s.Unique)
    (hdistinct : DistinctIgnoringCase (s.tables.map SchemaTable.name)) :
    s.find? w = some t ↔ t ∈ s.tables ∧ Text.equalsIgnoringAsciiCase t.name w = true := by
  refine ⟨find?_eq_some, fun ⟨ht, hcase⟩ => ?_⟩
  cases hfind : s.find? w with
  | none =>
    rw [find?_eq_none hfind t ht] at hcase
    cases hcase
  | some u =>
    obtain ⟨hu, hucase⟩ := find?_eq_some hfind
    rw [Text.equalsIgnoringAsciiCase_iff] at hcase hucase
    have hname : u.name = t.name := by
      refine hdistinct _ (List.mem_map_of_mem hu) _ (List.mem_map_of_mem ht) ?_
      exact Text.equalsIgnoringAsciiCase_iff.mpr (hucase.trans hcase.symm)
    rw [List.inj_on_of_nodup_map hunique hu ht hname]

/-- What is known under a name is known in the other spelling. -/
theorem CaseVariant.find?_rel (h : s.CaseVariant s') (w : String) :
    Option.Rel (fun t t' => t ∈ s.tables ∧ t' ∈ s'.tables ∧
      Text.equalsIgnoringAsciiCase t.name t'.name = true ∧ t.columns = t'.columns)
      (s.find? w) (s'.find? w) := by
  cases hfind : s.find? w with
  | some t =>
    obtain ⟨ht, hcase⟩ := find?_eq_some hfind
    obtain ⟨t', ht', hsame, hcolumns⟩ := h.exists_right t ht
    have hfind' : s'.find? w = some t' := by
      refine (find?_eq_some_iff h.unique' h.distinct').mpr ⟨ht', ?_⟩
      rw [Text.equalsIgnoringAsciiCase_iff] at hcase hsame ⊢
      exact hsame.symm.trans hcase
    rw [hfind']
    exact .some ⟨ht, ht', hsame, hcolumns⟩
  | none =>
    cases hfind' : s'.find? w with
    | none => exact .none
    | some t' =>
      obtain ⟨ht', hcase⟩ := find?_eq_some hfind'
      obtain ⟨t, ht, hsame, -⟩ := h.exists_left t' ht'
      have hnot := find?_eq_none hfind t ht
      rw [Text.equalsIgnoringAsciiCase_iff] at hcase hsame
      rw [Text.equalsIgnoringAsciiCase_iff.mpr (hsame.trans hcase)] at hnot
      cases hnot

end Schema

/-! ### Sources up to spelling -/

/-- The column, with its table spelled as it is known. -/
def ColumnRef.respell (s : Schema) (c : ColumnRef) : ColumnRef :=
  ⟨s.spelling c.table, c.column⟩

/-- The same sources, with tables spelled as they are known. -/
def Sources.Respelled (s : Schema) (cs cs' : Sources) : Prop :=
  ∀ c, c ∈ cs' ↔ ∃ d ∈ cs, d.respell s = c

theorem mem_unions_ofColumn {cs : Sources} {column : String} {c : ColumnRef} :
    c ∈ Sources.unions (cs.map fun d => [⟨d.table, column⟩]) ↔
      ∃ d ∈ cs, c = ⟨d.table, column⟩ := by
  simp only [Sources.mem_unions, List.mem_map, exists_exists_and_eq_and, List.mem_singleton]

/-- Respelling tables goes with everything that sources are put together by. -/
theorem kept_respelled (s : Schema) : Sources.Kept (Sources.Respelled s) where
  nil := by
    intro c
    simp
  union := by
    intro a a' b b' ha hb c
    simp only [Sources.mem_union, ha c, hb c, or_and_right, exists_or]
  column := by
    intro a a' column ha c
    simp only [mem_unions_ofColumn]
    constructor
    · rintro ⟨d', hd', rfl⟩
      obtain ⟨d, hd, rfl⟩ := (ha d').mp hd'
      exact ⟨_, ⟨d, hd, rfl⟩, rfl⟩
    · rintro ⟨_, ⟨d, hd, rfl⟩, rfl⟩
      exact ⟨d.respell s, (ha _).mpr ⟨d, hd, rfl⟩, rfl⟩
  isEmpty_eq := by
    intro a a' ha
    rw [Bool.eq_iff_iff, List.isEmpty_iff, List.isEmpty_iff]
    constructor
    · rintro rfl
      refine List.eq_nil_iff_forall_not_mem.mpr fun c hc => ?_
      obtain ⟨d, hd, -⟩ := (ha c).mp hc
      cases hd
    · rintro rfl
      refine List.eq_nil_iff_forall_not_mem.mpr fun d hd => ?_
      cases (ha (d.respell s)).mpr ⟨d, hd, rfl⟩

theorem respelled_singleton {s : Schema} {t t' column : String} (h : s.spelling t = t') :
    Sources.Respelled s [⟨t, column⟩] [⟨t', column⟩] := by
  intro c
  simp only [List.mem_singleton, exists_eq_left, ColumnRef.respell, h, eq_comm]

/-- No relation is replaced by another one. -/
def NoneReplaced : CteScope → TableFactor → TableFactor → Prop :=
  fun _ _ _ => False

/-- Schemas that differ in case only correspond, table by table. -/
theorem Schema.CaseVariant.corresponds {s s' : Schema} (h : s.CaseVariant s') :
    Corresponds (Sources.Respelled s') s s' NoneReplaced where
  kept := kept_respelled s'
  known written := by
    have hfind := h.find?_rel written
    generalize s.find? written = t?, s'.find? written = t?' at hfind ⊢
    cases hfind with
    | none => exact .none
    | @some t t' ht =>
      obtain ⟨-, ht', hcase, hcolumns⟩ := ht
      have hspelling : s'.spelling t.name = t'.name := by
        have hfind : s'.find? t.name = some t' := by
          refine (find?_eq_some_iff h.unique' h.distinct').mpr ⟨ht', ?_⟩
          rw [Text.equalsIgnoringAsciiCase_iff] at hcase ⊢
          exact hcase.symm
        rw [spelling, hfind]
        rfl
      exact .some ⟨by rw [hcolumns], fun column => respelled_singleton hspelling⟩
  unknown written hnone column := by
    refine respelled_singleton ?_
    have hfind := h.find?_rel written
    rw [hnone] at hfind
    rw [spelling]
    generalize s'.find? written = t?' at hfind ⊢
    cases hfind
    rfl
  replaced _ hreplaced := hreplaced.elim

variable {s s' : Schema}

/-! ### Lineage -/

/-- A table whose name has no dots answers to its binding only. -/
theorem Relation.answersTo_of_lastPart {r : Relation} {t : String} (ht : r.table = some t)
    (hplain : lastPart t = t) (qualifier : String) :
    r.answersTo qualifier = Text.equalsIgnoringAsciiCase r.binding qualifier := by
  rw [answersTo, ht]
  dsimp only
  rw [hplain]
  by_cases hbinding : t = r.binding
  · rw [hbinding, beq_self_eq_true, Bool.true_and, Bool.or_self]
  · rw [beq_eq_false_iff_ne.mpr hbinding, Bool.false_and, Bool.or_false]

/-- Schemas that differ in case only answer alike when no dots come or go. -/
theorem Schema.DotsKept.answersAlike (h : s.CaseVariant s') (hdots : s.DotsKept s') :
    s.AnswersAlike s' := by
  intro ctes ctes' hctes name label
  have hbound := hctes (Text.lower name.path)
  have hfind := h.find?_rel name.path
  simp only [namedRelation]
  generalize ctes.lookup (Text.lower name.path) = os?,
    ctes'.lookup (Text.lower name.path) = os?' at hbound ⊢
  cases os? with
  | some os =>
    cases os?' with
    | some os' => exact ⟨rfl, fun _ => rfl⟩
    | none => cases hbound
  | none =>
    obtain rfl : os?' = none := Option.not_isSome_iff_eq_none.mp fun hsome => by
      rw [hsome] at hbound
      cases hbound
    generalize s.find? name.path = t?, s'.find? name.path = t?' at hfind ⊢
    cases hfind with
    | none => exact ⟨rfl, fun _ => rfl⟩
    | @some t t' ht =>
      obtain ⟨ht, ht', hcase, -⟩ := ht
      refine ⟨rfl, fun qualifier => ?_⟩
      rcases hdots t ht t' ht' hcase with hname | ⟨hplain, hplain'⟩
      · simp only [Relation.answersTo, hname]
      · rw [Relation.answersTo_of_lastPart rfl hplain, Relation.answersTo_of_lastPart rfl hplain']

/-- Each qualifier in the statement refers to the relation at the same place, whichever of the two
is known. -/
def Statement.ReadAlike (s s' : Schema) : Statement → Prop
  | .query q => q.Counterpart s s' NoneReplaced [] [] q
  | .command _ => True

/-- **Lineage up to the spelling of tables.** Let the known tables differ in the case of names only.
A text without lineage has none for the same reason. Otherwise the outputs have the same names in
the same order, and the same sources up to the spelling of tables, if each qualifier refers to the
relation at the same place. This is so for all statements if no dotted name is spelled in two
ways. -/
theorem columnLineage_respelled (h : s.CaseVariant s') (d : Dialect) (sql : String) :
    (∀ e, columnLineage d s sql = .error e ↔ columnLineage d s' sql = .error e) ∧
    (∀ x, firstStatement d sql = .ok x → x.ReadAlike s s' →
      ∃ os os', columnLineage d s sql = .ok os ∧ columnLineage d s' sql = .ok os' ∧
        OutputsMatch (Sources.Respelled s') os os') ∧
    (s.DotsKept s' → ∀ x : Statement, x.ReadAlike s s') := by
  refine ⟨?_, ?_, ?_⟩
  · intro e
    rw [columnLineage, columnLineage]
    cases firstStatement d sql with
    | error e' => exact Iff.rfl
    | ok x =>
      refine iff_of_false ?_ ?_
      · rintro ⟨⟩
      · rintro ⟨⟩
  · intro x hx hread
    refine ⟨x.lineage s, x.lineage s', ?_, ?_, ?_⟩
    · rw [columnLineage, hx]
      rfl
    · rw [columnLineage, hx]
      rfl
    · cases x with
      | query q => exact q.outputs_match h.corresponds .empty q hread
      | command _ => exact .nil
  · intro hdots x
    cases x with
    | query q => exact q.counterpart_self (hdots.answersAlike h) fun _ => rfl
    | command _ => trivial

/-- One known table with a column `id`. -/
def knownAs (name : String) : Schema :=
  ⟨[⟨name, [⟨"id", "INTEGER"⟩]⟩]⟩

theorem caseVariant_knownAs {n m : String} (h : Text.equalsIgnoringAsciiCase n m = true) :
    (knownAs n).CaseVariant (knownAs m) where
  unique := List.nodup_singleton n
  unique' := List.nodup_singleton m
  distinct _ hx _ hy _ := (List.mem_singleton.mp hx).trans (List.mem_singleton.mp hy).symm
  distinct' _ hx _ hy _ := (List.mem_singleton.mp hx).trans (List.mem_singleton.mp hy).symm
  exists_right t ht := by
    obtain rfl := List.mem_singleton.mp ht
    exact ⟨_, List.mem_singleton_self _, h, rfl⟩
  exists_left t ht := by
    obtain rfl := List.mem_singleton.mp ht
    exact ⟨_, List.mem_singleton_self _, h, rfl⟩

theorem lastPart_singleton_a : lastPart "a" = "a" ∧ lastPart "A" = "A" := by
  have hsplit : "a".splitOn "." = ["a"] ∧ "A".splitOn "." = ["A"] := by
    constructor
    · show String.splitOnAux "a" "." 0 0 0 [] = ["a"]
      rw [String.splitOnAux, if_neg (by decide), if_neg (by decide)]
      rw [String.splitOnAux, if_pos (by decide)]
      decide
    · show String.splitOnAux "A" "." 0 0 0 [] = ["A"]
      rw [String.splitOnAux, if_neg (by decide), if_neg (by decide)]
      rw [String.splitOnAux, if_pos (by decide)]
      decide
  rw [lastPart, lastPart, hsplit.1, hsplit.2]
  exact ⟨rfl, rfl⟩

/-- A name without dots, in two spellings. -/
theorem a_respelled : (knownAs "a").CaseVariant (knownAs "A") ∧
    ∃ os os', columnLineage .duckDb (knownAs "a") (starQuery "a") = .ok os ∧
      columnLineage .duckDb (knownAs "A") (starQuery "a") = .ok os' ∧
      OutputsMatch (Sources.Respelled (knownAs "A")) os os' := by
  have hvariant : (knownAs "a").CaseVariant (knownAs "A") := by
    refine caseVariant_knownAs ?_
    rw [Text.equalsIgnoringAsciiCase_iff_toList]
    decide
  have hdots : (knownAs "a").DotsKept (knownAs "A") := by
    intro t ht t' ht' _
    rw [List.mem_singleton.mp ht, List.mem_singleton.mp ht']
    exact .inr lastPart_singleton_a
  have hplain : isPlainName .duckDb "a" = true := by decide +kernel
  obtain ⟨x, -, hx⟩ := exists_firstStatement_starQuery hplain
  obtain ⟨-, hlineage, hread⟩ := columnLineage_respelled hvariant .duckDb (starQuery "a")
  exact ⟨hvariant, hlineage x hx (hread hdots x)⟩

/-- A name of two parts. -/
def dottedName : ObjectName :=
  ⟨[⟨"x", none⟩, ⟨"a", none⟩]⟩

/-- Reads a column of a table by the last part of its name. -/
def idByLastPart : Select :=
  ⟨false, [], [.unnamed (aliasedColumn "a" "id")], [], [⟨.table dottedName [] none [], []⟩], []⟩

theorem lastPart_dotted : lastPart "x.a" = "a" := by
  have hsplit : "x.a".splitOn "." = ["x", "a"] := by
    show String.splitOnAux "x.a" "." 0 0 0 [] = ["x", "a"]
    rw [String.splitOnAux, if_neg (by decide), if_neg (by decide)]
    rw [String.splitOnAux, if_neg (by decide), if_pos (by decide), if_pos (by decide)]
    rw [String.splitOnAux, if_neg (by decide), if_neg (by decide)]
    rw [String.splitOnAux, if_pos (by decide)]
    decide +kernel
  rw [lastPart, hsplit]
  rfl

/-- The table is read if it is known under the name that is written, including case. -/
theorem outputs_idByLastPart {n : String}
    (hcase : Text.equalsIgnoringAsciiCase n "x.a" = true) : idByLastPart.outputs (knownAs n) [] =
    [⟨"id", if n = "x.a" then [⟨n, "id"⟩] else []⟩] := by
  have hpath : dottedName.path = "x.a" := rfl
  have hself := caseVariant_knownAs (Text.equalsIgnoringAsciiCase_refl n)
  have hfind : (knownAs n).find? "x.a" = some ⟨n, [⟨"id", "INTEGER"⟩]⟩ :=
    (Schema.find?_eq_some_iff hself.unique hself.distinct).mpr ⟨List.mem_singleton_self _, hcase⟩
  have hrelation : namedRelation (knownAs n) [] dottedName none =
      ⟨"x.a", some n, some [⟨"id", [⟨n, "id"⟩]⟩]⟩ := by
    simp only [namedRelation, hpath, List.lookup_nil, hfind, List.map_cons, List.map_nil]
  have hlookup : Relation.lookup ⟨"x.a", some n, some [⟨"id", [⟨n, "id"⟩]⟩]⟩ "id" =
      [⟨n, "id"⟩] := by
    simp only [Relation.lookup, Relation.known?, Option.getD_some, List.find?_cons,
      Text.equalsIgnoringAsciiCase_refl]
  have hbinding : Text.equalsIgnoringAsciiCase "x.a" "a" = false := by
    rw [Bool.eq_false_iff, ne_eq, Text.equalsIgnoringAsciiCase_iff_toList]
    decide
  have hanswers : Relation.answersTo ⟨"x.a", some n, some [⟨"id", [⟨n, "id"⟩]⟩]⟩ "a" =
      decide (n = "x.a") := by
    rw [Relation.answersTo, hbinding, Bool.false_or]
    by_cases hn : n = "x.a"
    · subst hn
      dsimp only
      rw [lastPart_dotted]
      simp [Text.equalsIgnoringAsciiCase_refl]
    · simp [hn]
  show [(⟨"id", Scope.qualified ⟨[namedRelation (knownAs n) [] dottedName none], []⟩ "a" "id"⟩ :
    Output)] = _
  rw [hrelation, Scope.qualified, Scope.find?, List.find?_cons, hanswers]
  by_cases hn : n = "x.a"
  · subst hn
    simpa using hlookup
  · simp [hn]

/-- The last part of a dotted name refers to the table only if the name is written as it is known,
including case. -/
theorem last_part_lost : (knownAs "x.a").CaseVariant (knownAs "X.A") ∧
    (Body.select idByLastPart).render = "SELECT a.id FROM x.a" ∧
    idByLastPart.outputs (knownAs "x.a") [] = [⟨"id", [⟨"x.a", "id"⟩]⟩] ∧
    idByLastPart.outputs (knownAs "X.A") [] = [⟨"id", []⟩] := by
  have hcase : Text.equalsIgnoringAsciiCase "x.a" "X.A" = true := by
    rw [Text.equalsIgnoringAsciiCase_iff_toList]
    decide
  have hcase' : Text.equalsIgnoringAsciiCase "X.A" "x.a" = true := by
    rw [Text.equalsIgnoringAsciiCase_iff_toList]
    decide
  refine ⟨caseVariant_knownAs hcase, by decide +kernel, ?_, ?_⟩
  · rw [outputs_idByLastPart (Text.equalsIgnoringAsciiCase_refl _)]
    rfl
  · rw [outputs_idByLastPart hcase']
    rfl

end AssetFlow.Sql
