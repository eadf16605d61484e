import AssetFlow.Proofs.Sql.Correlation
import AssetFlow.Proofs.Sql.UsingJoin

/-!
# Columns without a qualifier

A column without a qualifier is read from the single relation that declares it. If none does, it is
read from the only relation in scope, or else from the only one that may have more columns than are
known (`Scope.provider?`). This rule takes no notice of the order of the relations. Lineage follows
it unless several relations declare the column: by the rule none of them provides it, and lineage
takes the first (`Scope.unqualified_of_declaring`). So the order of a `FROM` clause makes a
difference just if two relations that declare the column have it from different sources
(`first_id_read`).

## Main definitions

- `Scope.provider?`: the relation that provides a column
- `Scope.Reordered`: the same relations in another order

## Main statements

- `Scope.provider?_reordered`: the rule does not depend on the order of the relations
- `reordered_of_perm`: the scopes of a `FROM` clause in two orders
- `Scope.unqualified_by_rule`: when lineage follows the rule, and when the order matters
-/

namespace AssetFlow.Sql

variable {schema : Schema} {ctes : CteScope} {column : String} {r : Relation}
  {rest : List Relation} {ts ts' : List TableWithJoins}

/-- A list of one member is the same in any order. -/
theorem eq_singleton_iff_of_perm {α : Type} {l l' : List α} {a : α} (h : l.Perm l') :
    l = [a] ↔ l' = [a] := by
  constructor
  · rintro rfl
    exact List.perm_singleton.mp h.symm
  · rintro rfl
    exact List.perm_singleton.mp h

namespace Scope

variable {s s' : Scope}

/-- The relations that are known to have the column. -/
def declaring (s : Scope) (column : String) : List Relation :=
  s.relations.filter (·.declares column)

/-- The relations that may have columns that are not known. -/
def openRelations (s : Scope) : List Relation :=
  s.relations.filter Relation.isOpen

/-- The relation that provides a column: the single one that declares it; if none does, the only
relation, or else the only one that may have columns that are not known. -/
def provider? (s : Scope) (column : String) : Option Relation :=
  match s.declaring column, s.relations, s.openRelations with
  | [r], _, _ => some r
  | [], [only], _ => some only
  | [], _, [r] => some r
  | _, _, _ => none

/-- The sources of a column by this rule. -/
def ruled (s : Scope) (column : String) : Sources :=
  ((s.provider? column).map (·.lookup column)).getD []

/-- The same relations in another order; the joins merge the same columns. -/
structure Reordered (s s' : Scope) : Prop where
  relations : s.relations.Perm s'.relations
  merged : ∀ n, n ∈ s.merged ↔ n ∈ s'.merged

/-! ### The rule and the order -/

theorem mem_declaring : r ∈ s.declaring column ↔ r ∈ s.relations ∧ r.declares column = true :=
  List.mem_filter

theorem Reordered.declaring (h : s.Reordered s') (column : String) :
    (s.declaring column).Perm (s'.declaring column) :=
  h.relations.filter _

theorem Reordered.openRelations (h : s.Reordered s') :
    s.openRelations.Perm s'.openRelations :=
  h.relations.filter _

theorem provider?_eq_some_iff : s.provider? column = some r ↔
    s.declaring column = [r] ∨ s.declaring column = [] ∧
      (s.relations = [r] ∨ (∀ only, s.relations ≠ [only]) ∧ s.openRelations = [r]) := by
  rw [provider?]
  split
  · next hone => simp [hone]
  · next only hnone hrelations => simp [hnone, hrelations]
  · next one hnone hopen hmany =>
    have hnot : ∀ only, ¬ s.relations = [only] := fun only => hmany only
    simp [hnone, hopen, hnot]
  · next hone honly hmany =>
    refine iff_of_false (by simp) ?_
    rintro (hr | ⟨hnone, hr | ⟨-, hr⟩⟩)
    · exact hone r hr
    · exact honly r hnone hr
    · exact hmany r hnone hr

/-- The rule takes no notice of the order of the relations. -/
theorem provider?_reordered (h : s.Reordered s') : s'.provider? column = s.provider? column := by
  apply Option.ext
  intro r
  have hnil : s'.declaring column = [] ↔ s.declaring column = [] := by
    constructor
    · intro heq
      exact List.perm_nil.mp (heq ▸ h.declaring column)
    · intro heq
      exact List.nil_perm.mp (heq ▸ h.declaring column)
  simp only [provider?_eq_some_iff, hnil, ne_eq,
    eq_singleton_iff_of_perm (h.declaring column), eq_singleton_iff_of_perm h.relations,
    eq_singleton_iff_of_perm h.openRelations]

/-! ### Lineage and the rule -/

/-- Lineage takes the first relation that declares a column. -/
theorem unqualified_of_declaring (hmerged : Text.lower column ∉ s.merged)
    (h : s.declaring column = r :: rest) : s.unqualified column = r.lookup column := by
  have hfirst : s.relations.find? (·.declares column) = some r := by
    rw [← List.head?_filter, ← declaring, h, List.head?_cons]
  rw [unqualified, if_neg (by simpa using hmerged), hfirst]

/-- Where no relation declares a column, lineage follows the rule. -/
theorem unqualified_of_declaring_nil (hmerged : Text.lower column ∉ s.merged)
    (h : s.declaring column = []) : s.unqualified column = s.ruled column := by
  have hnone : s.relations.find? (·.declares column) = none := by
    rw [← List.head?_filter, ← declaring, h, List.head?_nil]
  rw [unqualified, if_neg (by simpa using hmerged), hnone]
  dsimp only
  cases hprovider : s.provider? column with
  | some r =>
    have hruled : s.ruled column = r.lookup column := by rw [ruled, hprovider]; rfl
    rw [hruled]
    rcases provider?_eq_some_iff.mp hprovider with hone | ⟨-, honly | ⟨hmany, hopen⟩⟩
    · cases h.symm.trans hone
    · rw [honly]
    · rw [openRelations] at hopen
      split
      · next only heq => exact absurd heq (hmany only)
      · rw [hopen]
  | none =>
    have hruled : s.ruled column = [] := by rw [ruled, hprovider]; rfl
    have hnot : ∀ r, ¬ s.provider? column = some r := by simp [hprovider]
    simp only [provider?_eq_some_iff, h, true_and, not_or, not_and] at hnot
    rw [hruled]
    split
    · next only heq => exact absurd heq (hnot only).2.1
    · next hmany =>
      split
      · next single heq => exact absurd heq ((hnot single).2.2 hmany)
      · rfl

/-- By the rule, a column that several relations declare has no sources. -/
theorem ruled_of_declaring {r' : Relation} (h : s.declaring column = r :: r' :: rest) :
    s.ruled column = [] := by
  have hnone : s.provider? column = none := by
    rw [provider?, h]
  rw [ruled, hnone]
  rfl

theorem ruled_of_declaring_singleton (h : s.declaring column = [r]) :
    s.ruled column = r.lookup column := by
  rw [ruled, provider?_eq_some_iff.mpr (.inl h)]
  rfl

/-- Lineage follows the rule, unless several relations declare the column and the first one has
sources for it. -/
theorem unqualified_eq_ruled_iff (hmerged : Text.lower column ∉ s.merged) :
    s.unqualified column = s.ruled column ↔
      ∀ r r' rest, s.declaring column = r :: r' :: rest → r.lookup column = [] := by
  match h : s.declaring column with
  | [] => simp [unqualified_of_declaring_nil hmerged h]
  | [r] => simp [unqualified_of_declaring hmerged h, ruled_of_declaring_singleton h]
  | r :: r' :: rest =>
    rw [unqualified_of_declaring hmerged h, ruled_of_declaring h]
    constructor
    · rintro hnil _ _ _ heq
      obtain ⟨rfl, -⟩ := List.cons.inj heq
      exact hnil
    · intro hnil
      exact hnil r r' rest rfl

/-- If all relations that declare a column have it from the same sources, the order of the relations
makes no difference. -/
theorem unqualified_reordered (hmerged : Text.lower column ∉ s.merged) (h : s.Reordered s')
    (hsame : ∀ r ∈ s.declaring column, ∀ r' ∈ s.declaring column,
      r.lookup column = r'.lookup column) :
    s'.unqualified column = s.unqualified column := by
  have hmerged' : Text.lower column ∉ s'.merged := fun hmem => hmerged ((h.merged _).mpr hmem)
  have hperm := h.declaring column
  match hs : s.declaring column, hs' : s'.declaring column with
  | [], [] =>
    rw [unqualified_of_declaring_nil hmerged hs, unqualified_of_declaring_nil hmerged' hs', ruled,
      ruled, provider?_reordered h]
  | [], r' :: _ =>
    rw [hs, hs'] at hperm
    cases List.nil_perm.mp hperm
  | r :: _, [] =>
    rw [hs, hs'] at hperm
    cases List.perm_nil.mp hperm
  | r :: _, r' :: _ =>
    have hr : r ∈ s.declaring column := hs ▸ List.mem_cons_self ..
    have hr' : r' ∈ s.declaring column := hperm.mem_iff.mpr (hs' ▸ List.mem_cons_self ..)
    rw [unqualified_of_declaring hmerged hs, unqualified_of_declaring hmerged' hs']
    exact hsame r' hr' r hr

/-- Any relation that declares a column can come first, and is read from then. -/
theorem exists_reordered_of_declaring (hmerged : Text.lower column ∉ s.merged)
    (hr : r ∈ s.declaring column) :
    ∃ s', s.Reordered s' ∧ s'.unqualified column = r.lookup column := by
  obtain ⟨hmem, hdeclares⟩ := mem_declaring.mp hr
  have hfirst : (⟨r :: s.relations.erase r, s.merged⟩ : Scope).declaring column =
      r :: (s.relations.erase r).filter (·.declares column) :=
    List.filter_cons_of_pos hdeclares
  exact ⟨⟨r :: s.relations.erase r, s.merged⟩, ⟨List.perm_cons_erase hmem, fun _ => Iff.rfl⟩,
    unqualified_of_declaring hmerged hfirst⟩

end Scope

/-! ### Clauses -/

theorem relations_sourceScope (s : Scope) (ts : List TableWithJoins) :
    (sourceScope schema ctes s ts).relations =
      s.relations ++ ts.flatMap fun t => (t.addTo schema ctes {}).relations := by
  induction ts generalizing s with
  | nil => exact (List.append_nil _).symm
  | cons t rest ih =>
    have hscope : t.addTo schema ctes (s.append {}) = s.append (t.addTo schema ctes {}) :=
      t.addTo_append s {}
    rw [Scope.append_empty] at hscope
    rw [sourceScope, ih, hscope, Scope.append, List.flatMap_cons, List.append_assoc]

theorem merged_sourceScope (s : Scope) (ts : List TableWithJoins) :
    (sourceScope schema ctes s ts).merged =
      s.merged ++ ts.flatMap fun t => (t.addTo schema ctes {}).merged := by
  induction ts generalizing s with
  | nil => exact (List.append_nil _).symm
  | cons t rest ih =>
    have hscope : t.addTo schema ctes (s.append {}) = s.append (t.addTo schema ctes {}) :=
      t.addTo_append s {}
    rw [Scope.append_empty] at hscope
    rw [sourceScope, ih, hscope, Scope.append, List.flatMap_cons, List.append_assoc]

/-- A `FROM` clause in another order has the same relations in another order. -/
theorem reordered_of_perm (h : ts.Perm ts') :
    (sourceScope schema ctes {} ts).Reordered (sourceScope schema ctes {} ts') where
  relations := by
    rw [relations_sourceScope, relations_sourceScope]
    exact (h.flatMap_right _).append_left _
  merged n := by
    rw [merged_sourceScope, merged_sourceScope]
    exact ((h.flatMap_right _).append_left _).mem_iff

/-- **Columns without a qualifier.** Lineage follows the rule for a column that no join merges, just
if no two relations declare it, or the first that does has no sources for it: then it is read from
this one, where the rule finds none. The rule does not depend on the order of the relations. Lineage
does not either, just if the relations that declare the column have it from the same sources; and
then the order of a `FROM` clause makes no difference. -/
theorem Scope.unqualified_by_rule (s : Scope) (column : String)
    (hmerged : Text.lower column ∉ s.merged) :
    (s.unqualified column = s.ruled column ↔
      ∀ r r' rest, s.declaring column = r :: r' :: rest → r.lookup column = []) ∧
    (∀ r r' rest, s.declaring column = r :: r' :: rest →
      s.ruled column = [] ∧ s.unqualified column = r.lookup column) ∧
    (∀ s', s.Reordered s' → s'.ruled column = s.ruled column) ∧
    ((∀ s', s.Reordered s' → s'.unqualified column = s.unqualified column) ↔
      ∀ r ∈ s.declaring column, ∀ r' ∈ s.declaring column,
        r.lookup column = r'.lookup column) ∧
    ∀ schema ctes ts ts', s = sourceScope schema ctes {} ts → ts.Perm ts' →
      (∀ r ∈ s.declaring column, ∀ r' ∈ s.declaring column,
        r.lookup column = r'.lookup column) →
      (sourceScope schema ctes {} ts').unqualified column = s.unqualified column := by
  refine ⟨unqualified_eq_ruled_iff hmerged, ?_, ?_, ⟨?_, ?_⟩, ?_⟩
  · intro r r' rest h
    exact ⟨ruled_of_declaring h, unqualified_of_declaring hmerged h⟩
  · intro s' h
    rw [ruled, ruled, provider?_reordered h]
  · intro hall r hr r' hr'
    obtain ⟨s₁, h₁, hfirst₁⟩ := exists_reordered_of_declaring hmerged hr
    obtain ⟨s₂, h₂, hfirst₂⟩ := exists_reordered_of_declaring hmerged hr'
    rw [← hfirst₁, ← hfirst₂, hall s₁ h₁, hall s₂ h₂]
  · intro hsame s' h
    exact unqualified_reordered hmerged h hsame
  · rintro schema ctes ts ts' rfl hperm hsame
    exact unqualified_reordered hmerged (reordered_of_perm hperm) hsame

/-- A select of the column `id` from some tables. -/
def selectIdFrom (names : List String) : Select :=
  ⟨false, [], [.unnamed (.column [⟨"id", none⟩])], [], names.map fun n => ⟨plainTable n, []⟩, []⟩

/-- One table declares the column beside one of which nothing is known, so that the order of the two
makes no difference. -/
theorem id_of_single_table :
    Text.lower "id" ∉ ((selectIdFrom ["t", "a"]).scope idSchema []).merged ∧
    ((selectIdFrom ["t", "a"]).scope idSchema []).unqualified "id" = [⟨"a", "id"⟩] ∧
    ((selectIdFrom ["a", "t"]).scope idSchema []).unqualified "id" = [⟨"a", "id"⟩] := by
  have hmerged : Text.lower "id" ∉ ((selectIdFrom ["t", "a"]).scope idSchema []).merged :=
    List.not_mem_nil
  obtain ⟨hrule, -, -, -, hclause⟩ := Scope.unqualified_by_rule _ "id" hmerged
  have hone : ((selectIdFrom ["t", "a"]).scope idSchema []).declaring "id" =
      [⟨"a", some "a", some [⟨"id", [⟨"a", "id"⟩]⟩]⟩] := by decide +kernel
  have hid : ((selectIdFrom ["t", "a"]).scope idSchema []).unqualified "id" = [⟨"a", "id"⟩] := by
    rw [hrule.mpr fun r r' rest h => by rw [hone] at h; cases h]
    decide +kernel
  refine ⟨hmerged, hid, ?_⟩
  rw [← hid]
  refine hclause idSchema [] _ (selectIdFrom ["a", "t"]).sources rfl (List.Perm.swap ..) ?_
  rw [hone]
  decide +kernel

/-- Two tables declare the column: by the rule it has no sources, and lineage takes the first
table, whichever that is. -/
theorem first_id_read :
    (Body.select (selectIdFrom ["a", "b"])).render = "SELECT id FROM a, b" ∧
    ((selectIdFrom ["a", "b"]).scope idSchema []).ruled "id" = [] ∧
    (selectIdFrom ["a", "b"]).outputs idSchema [] = [⟨"id", [⟨"a", "id"⟩]⟩] ∧
    (selectIdFrom ["b", "a"]).outputs idSchema [] = [⟨"id", [⟨"b", "id"⟩]⟩] :=
  ⟨by decide +kernel, by decide +kernel, by decide +kernel, by decide +kernel⟩

end AssetFlow.Sql
