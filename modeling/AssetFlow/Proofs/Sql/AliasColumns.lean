import AssetFlow.Proofs.Sql.Counterpart
import AssetFlow.Proofs.Sql.StarQuery

/-!
# Column lists of aliases

An alias may list names for the columns of its relation. Lineage names the columns of a derived
table by this list, but ignores the list of a named table or common table expression: its columns
keep the names that they are known by. So a reference `R AS t (...)` of known columns, with any
list, stands for the derived table `(SELECT * FROM R) AS t` without one, wherever it occurs in a
query; it stands for the derived table with the same list just if the list renames nothing
(`listed_id_not_read`).

## Main definitions

- `selectAllOf`: the query for all columns of a relation
- `Wraps`: a named relation, and the derived table of all of its columns under the same alias

## Main statements

- `renameOutputs_eq_self_iff`: the lists that rename nothing
- `alias_list_ignored`: what may stand in the place of a named relation with a list
-/

namespace AssetFlow.Sql

variable {s : Schema} {ctes ctes' : CteScope} {os os' : List Output} {name : ObjectName}

/-- The query for all columns of a relation. -/
def selectAllOf (f : TableFactor) : Query :=
  ⟨false, [], .select ⟨false, [], [.wildcard []], [], [⟨f, []⟩], []⟩, []⟩

/-- A named relation, all of whose columns are known, and the derived table of all of its columns
under the same alias. The list of the derived table renames nothing; that of the named relation may
be any. -/
inductive Wraps (s : Schema) : CteScope → TableFactor → TableFactor → Prop
  | wraps {ctes name arguments arguments' explicit explicit' label columns columns' hints hints'
      lateral sample} :
    (namedRelation s ctes name none).isOpen = false →
    renameOutputs (namedRelation s ctes name none).expand columns' =
      (namedRelation s ctes name none).expand →
    Wraps s ctes (.table name arguments (some ⟨explicit, label, columns⟩) hints)
      (.derived lateral (selectAllOf (.table name arguments' none hints'))
        (some ⟨explicit', label, columns'⟩) sample)

/-- A list renames nothing if it gives each column the name that it has. -/
theorem renameOutputs_eq_self_iff {columns : List AliasColumn} : renameOutputs os columns = os ↔
    ∀ p ∈ os.zip columns, p.2.name.value = p.1.name := by
  induction os generalizing columns with
  | nil => cases columns <;> simp [renameOutputs]
  | cons o rest ih =>
    cases columns with
    | nil => simp [renameOutputs]
    | cons c columns =>
      rw [renameOutputs, List.cons.injEq, ih, List.zip_cons_cons, List.forall_mem_cons]
      exact and_congr_left' ⟨congrArg Output.name, fun hname => by rw [hname]⟩

/-- The columns of a named relation do not depend on its alias. -/
theorem columns_namedRelation (label : Option TableAlias) :
    (namedRelation s ctes name label).columns = (namedRelation s ctes name none).columns := by
  simp only [namedRelation]
  split
  · rfl
  · split <;> rfl

/-- Where all columns are known, a wildcard expands to them. -/
theorem columns_of_isOpen {r : Relation} (h : r.isOpen = false) : r.columns = some r.expand := by
  rw [Relation.isOpen] at h
  rw [Relation.expand]
  split at h
  · next hcolumns => rw [hcolumns]
  · cases h

theorem outputs_selectAllOf {f : TableFactor} {r : Relation}
    (h : f.addTo s ctes {} = Scope.push {} r) : (selectAllOf f).outputs s ctes = r.expand := by
  simp only [selectAllOf, Query.outputs, bindCtes, Body.outputs, Select.outputs, itemOutputs,
    Item.outputs, sourceScope, TableWithJoins.addTo, h, joinScope, Scope.push, Scope.expandAll,
    foldl_addOutput_nil, List.nil_append, List.append_nil, List.flatMap_cons, List.flatMap_nil]

theorem outputs_selectAllOf_table {arguments hints : List Piece} {label : Option TableAlias}
    (h : (namedRelation s ctes name none).isOpen = false) :
    (selectAllOf (.table name arguments label hints)).outputs s ctes =
      (namedRelation s ctes name none).expand := by
  have hcolumns := columns_of_isOpen h
  rw [outputs_selectAllOf rfl, Relation.expand, columns_namedRelation, hcolumns]

/-! ### Equal sources -/

/-- Equality is kept by all that lineage does with sources. -/
theorem kept_eq : Sources.Kept Eq where
  nil := rfl
  union := by rintro _ _ _ _ rfl rfl; rfl
  column := by rintro _ _ _ rfl; rfl
  isEmpty_eq := by rintro _ _ rfl; rfl

theorem outputsMatch_eq_iff : OutputsMatch Eq os os' ↔ os = os' := by
  have houtput : Output.Matches Eq = Eq := by
    ext ⟨n, cs⟩ ⟨n', cs'⟩
    rw [Output.mk.injEq]
    exact ⟨fun h => ⟨h.name_eq, h.sources⟩, fun h => ⟨h.1, h.2⟩⟩
  rw [OutputsMatch, houtput, List.forall₂_eq_eq_eq]

theorem optionRel_outputsMatch_eq_iff {os os' : Option (List Output)} :
    Option.Rel (OutputsMatch Eq) os os' ↔ os = os' := by
  cases os <;> cases os' <;> simp [outputsMatch_eq_iff]

theorem CteScope.matches_eq_iff :
    CteScope.Matches Eq ctes ctes' ↔ ∀ name, ctes.lookup name = ctes'.lookup name :=
  forall_congr' fun _ => optionRel_outputsMatch_eq_iff

theorem namedRelation_of_matches (h : CteScope.Matches Eq ctes ctes') (label : Option TableAlias) :
    namedRelation s ctes' name label = namedRelation s ctes name label := by
  simp only [namedRelation, CteScope.matches_eq_iff.mp h]

/-- What replaces a named relation has the same columns under the same alias. -/
theorem Wraps.matches_added {f f' : TableFactor} (h : Wraps s ctes f f')
    (hctes : CteScope.Matches Eq ctes ctes') : ∃ r r', Relation.Matches Eq r r' ∧
      (∀ own, f.addTo s ctes own = own.push r) ∧ ∀ own, f'.addTo s ctes' own = own.push r' := by
  cases h with
  | @wraps name _ arguments explicit explicit' label columns columns' _ hints _ _ hclosed hlist =>
    have houtputs : (selectAllOf (.table name arguments none hints)).outputs s ctes' =
        (namedRelation s ctes name none).expand := by
      rw [← namedRelation_of_matches hctes] at hclosed ⊢
      exact outputs_selectAllOf_table hclosed
    have hcolumns : (namedRelation s ctes name (some ⟨explicit, label, columns⟩)).columns =
        some (namedRelation s ctes name none).expand := by
      rw [columns_namedRelation, columns_of_isOpen hclosed]
    have hmatch : Relation.Matches Eq (namedRelation s ctes name (some ⟨explicit, label, columns⟩))
        ⟨label.value, none, some (renameOutputs
          ((selectAllOf (.table name arguments none hints)).outputs s ctes') columns')⟩ := by
      refine ⟨?_, ?_, .inr ?_⟩
      · rw [houtputs, hlist, hcolumns]
        exact optionRel_outputsMatch_eq_iff.mpr rfl
      · rintro t t' - ⟨⟩
      · rwa [Relation.isOpen, columns_namedRelation]
    exact ⟨_, _, hmatch, fun _ => rfl, fun _ => rfl⟩

theorem corresponds_wraps (s : Schema) : Corresponds Eq s s (Wraps s) where
  kept := kept_eq
  known written := by
    cases s.find? written with
    | some t => exact .some ⟨rfl, fun _ => rfl⟩
    | none => exact .none
  unknown _ _ _ := rfl
  replaced hctes h := h.matches_added hctes

/-- **Column lists of aliases.** In any query, references `R AS t (...)` of known columns may be
replaced by derived tables `(SELECT * FROM R) AS t (...)` whose list renames nothing, whatever the
list of the reference: the outputs stay the same if references to `t` name declared columns. All
columns of `R AS t (...)` are those of `R`, and all columns of the derived table with the same list
are those of `R` renamed by it; so the two agree just if the list renames nothing. -/
theorem alias_list_ignored (s : Schema) (ctes : CteScope) :
    (∀ q q' : Query, q.Counterpart s s (Wraps s) ctes ctes q' →
      q.outputs s ctes = q'.outputs s ctes) ∧
    ∀ name arguments arguments' label hints hints' lateral sample,
      (namedRelation s ctes name none).isOpen = false →
      let named := selectAllOf (.table name arguments (some label) hints)
      let derived := selectAllOf
        (.derived lateral (selectAllOf (.table name arguments' none hints')) (some label) sample)
      let columns := (namedRelation s ctes name none).expand
      named.outputs s ctes = columns ∧
      derived.outputs s ctes = renameOutputs columns label.columns ∧
      (named.outputs s ctes = derived.outputs s ctes ↔
        ∀ p ∈ columns.zip label.columns, p.2.name.value = p.1.name) := by
  refine ⟨?_, ?_⟩
  · intro q q' hq
    have hctes : CteScope.Matches Eq ctes ctes := CteScope.matches_eq_iff.mpr fun _ => rfl
    exact outputsMatch_eq_iff.mp (q.outputs_match (corresponds_wraps s) hctes q' hq)
  · intro name arguments arguments' label hints hints' lateral sample hclosed named derived columns
    have hnamed : named.outputs s ctes = columns := outputs_selectAllOf_table hclosed
    have hderived : derived.outputs s ctes = renameOutputs columns label.columns := by
      rw [outputs_selectAllOf rfl, outputs_selectAllOf_table hclosed]
      rfl
    refine ⟨hnamed, hderived, ?_⟩
    rw [hnamed, hderived, eq_comm]
    exact renameOutputs_eq_self_iff

/-- A column list without types. -/
def aliasColumns (names : List String) : List AliasColumn :=
  names.map fun n => ⟨⟨n, none⟩, ""⟩

/-- Reads one column of a relation by its alias. -/
def selectOneOf (f : TableFactor) (e : Expr) : Query :=
  ⟨false, [], .select ⟨false, [], [.unnamed e], [], [⟨f, []⟩], []⟩, []⟩

def listedTable (columns : List String) : TableFactor :=
  .table ⟨[⟨"a", none⟩]⟩ [] (some ⟨true, ⟨"t", none⟩, aliasColumns columns⟩) []

def listedQuery (columns : List String) : TableFactor :=
  .derived false (selectAllOf (plainTable "a")) (some ⟨true, ⟨"t", none⟩, aliasColumns columns⟩) []

/-- The old name is read whatever the list; a list that gives the only column its own name makes no
difference for a wildcard either. -/
theorem listed_id_read :
    (namedRelation idSchema [] ⟨[⟨"a", none⟩]⟩ none).isOpen = false ∧
    (selectOneOf (listedTable ["k"]) (aliasedColumn "t" "id")).outputs idSchema [] =
      (selectOneOf (listedQuery ["id"]) (aliasedColumn "t" "id")).outputs idSchema [] ∧
    (selectAllOf (listedTable ["id"])).outputs idSchema [] =
      (selectAllOf (listedQuery ["id"])).outputs idSchema [] := by
  have hclosed : (namedRelation idSchema [] ⟨[⟨"a", none⟩]⟩ none).isOpen = false := by
    decide +kernel
  have hwraps : Wraps idSchema [] (listedTable ["k"]) (listedQuery ["id"]) :=
    .wraps hclosed (by decide +kernel)
  have hcounterpart : (selectOneOf (listedTable ["k"]) (aliasedColumn "t" "id")).Counterpart
      idSchema idSchema (Wraps idSchema) [] []
      (selectOneOf (listedQuery ["id"]) (aliasedColumn "t" "id")) := by
    refine .query .nil (.select (.cons (.joined (.replaced hwraps) .nil) .nil) (.cons ?_ .nil))
    exact .unnamed (.column (by decide +kernel)) rfl
  obtain ⟨hreplaced, hwildcard⟩ := alias_list_ignored idSchema []
  have hall := hwildcard ⟨[⟨"a", none⟩]⟩ [] [] ⟨true, ⟨"t", none⟩, aliasColumns ["id"]⟩ [] [] false
    [] hclosed
  exact ⟨hclosed, hreplaced _ _ hcounterpart, hall.2.2.mpr (by decide +kernel)⟩

/-- A list that renames the only column: a named table still has the old name only, and the new one
is read as a column that the table does not have. -/
theorem listed_id_not_read :
    (selectOneOf (listedTable ["k"]) (aliasedColumn "t" "k")).render =
      "SELECT t.k FROM a AS t (k)" ∧
    (selectOneOf (listedQuery ["k"]) (aliasedColumn "t" "k")).render =
      "SELECT t.k FROM (SELECT * FROM a) AS t (k)" ∧
    (selectOneOf (listedTable ["k"]) (aliasedColumn "t" "k")).outputs idSchema [] =
      [⟨"k", [⟨"a", "k"⟩]⟩] ∧
    (selectOneOf (listedQuery ["k"]) (aliasedColumn "t" "k")).outputs idSchema [] =
      [⟨"k", [⟨"a", "id"⟩]⟩] :=
  ⟨by decide +kernel, by decide +kernel, by decide +kernel, by decide +kernel⟩

end AssetFlow.Sql
