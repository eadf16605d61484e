import AssetFlow.Sql.Schema
import Mathlib.Data.List.Find
import Mathlib.Tactic.Common

/-!
# Looking known tables up

A table is put under its name in place of the table that had it, so that the last one of a name
stands. If no two names are equal up to case, a table is found under the one name that is equal to
the given one up to case (`Schema.find?_eq_tableNamed?`), so that it is enough to know what stands
under each name.

## Main definitions

- `Schema.tableNamed?`: the table of exactly this name
- `Schema.Alike`: names stand for tables of the same name and with the same columns
- `DistinctIgnoringCase`: no two names are equal up to case

## Main statements

- `Schema.tableNamed?_overlay`, `Schema.tableNamed?_insert`: what stands under each name
- `Schema.alike_of_tableNamed?`: schemas are alike if the same stands under each name
-/

namespace AssetFlow

namespace Text

/-- Texts are equal up to case if they have the same small letters. -/
theorem equalsIgnoringAsciiCase_iff {s t : String} :
    equalsIgnoringAsciiCase s t = true ↔ s.map Char.toLower = t.map Char.toLower :=
  beq_iff_eq

theorem equalsIgnoringAsciiCase_iff_toList {s t : String} :
    equalsIgnoringAsciiCase s t = true ↔
      s.toList.map Char.toLower = t.toList.map Char.toLower := by
  rw [equalsIgnoringAsciiCase_iff, ← String.toList_inj, String.toList_map, String.toList_map]

theorem equalsIgnoringAsciiCase_refl (s : String) : equalsIgnoringAsciiCase s s = true :=
  equalsIgnoringAsciiCase_iff.mpr rfl

end Text

/-- No two of the names are equal up to the case of ASCII letters. -/
def DistinctIgnoringCase (names : List String) : Prop :=
  ∀ n ∈ names, ∀ m ∈ names, Text.equalsIgnoringAsciiCase n m = true → n = m

instance (names : List String) : Decidable (DistinctIgnoringCase names) :=
  inferInstanceAs (Decidable (∀ n ∈ names, ∀ m ∈ names, _ → n = m))

namespace Sql

namespace Schema

variable {s s' o : Schema} {t : SchemaTable} {n w table : String} {columns : List SchemaColumn}
  {names : List String}

/-- The known table of exactly this name. -/
def tableNamed? (s : Schema) (n : String) : Option SchemaTable :=
  s.tables.find? (·.name == n)

/-- No two known tables have the same name. -/
def Unique (s : Schema) : Prop :=
  (s.tables.map SchemaTable.name).Nodup

/-- All known tables have one of these names. -/
def Within (s : Schema) (names : List String) : Prop :=
  ∀ t ∈ s.tables, t.name ∈ names

/-- The columns that are kept of a table. -/
def named (columns : List SchemaColumn) : List SchemaColumn :=
  columns.filter (!·.name.isEmpty)

/-- The table of a name has this name. -/
theorem name_of_tableNamed? (h : s.tableNamed? n = some t) : t.name = n := by
  simpa using List.find?_some h

/-- Nothing stands under a name that no table has. -/
theorem tableNamed?_eq_none_iff : s.tableNamed? n = none ↔ ∀ t ∈ s.tables, t.name ≠ n := by
  simp [tableNamed?]

/-! ### Registering tables -/

/-- A table that is put in stands under its name, and all else stands as before. -/
theorem tableNamed?_put :
    (s.put t).tableNamed? n = if t.name = n then some t else s.tableNamed? n := by
  rw [put]
  split
  · next hany =>
    have hsame : (fun u : SchemaTable => (if u.name == t.name then t else u).name == n) =
        (·.name == n) := by
      funext u
      by_cases hu : u.name = t.name
      · simp [hu]
      · simp [hu]
    rw [tableNamed?, List.find?_map]
    simp only [Function.comp_def, hsame]
    split
    · next hn =>
      subst hn
      obtain ⟨u, hu, hname⟩ := List.any_eq_true.mp hany
      cases hfind : s.tables.find? (·.name == t.name) with
      | none => exact absurd hname (List.find?_eq_none.mp hfind u hu)
      | some old =>
        have hold : old.name = t.name := by simpa using List.find?_some hfind
        simp [hold]
    · next hn =>
      rw [← tableNamed?]
      cases hfind : s.tableNamed? n with
      | none => rfl
      | some old =>
        have hold : old.name ≠ t.name := fun heq => hn (heq.symm.trans (name_of_tableNamed? hfind))
        simp [hold]
  · next hany =>
    rw [tableNamed?, List.find?_append, ← tableNamed?]
    split
    · next hn =>
      have hnone : s.tableNamed? n = none := by
        refine tableNamed?_eq_none_iff.mpr fun u hu hname => hany ?_
        exact List.any_eq_true.mpr ⟨u, hu, beq_iff_eq.mpr (hname.trans hn.symm)⟩
      simp [hnone, hn]
    · next hn => simp [hn]

/-- Putting a table in leaves no two tables with one name. -/
theorem Unique.put (h : s.Unique) : (s.put t).Unique := by
  rw [Schema.put]
  split
  · have hsame : (SchemaTable.name ∘ fun u : SchemaTable => if u.name == t.name then t else u) =
        SchemaTable.name := by
      funext u
      by_cases hu : u.name = t.name
      · simp [hu]
      · simp [hu]
    rwa [Unique, List.map_map, hsame]
  · next hany =>
    rw [Unique, List.map_append, List.nodup_append]
    refine ⟨h, by simp, fun m hm k hk heq => hany ?_⟩
    obtain ⟨u, hu, rfl⟩ := List.mem_map.mp hm
    exact List.any_eq_true.mpr ⟨u, hu, beq_iff_eq.mpr (heq.trans (List.mem_singleton.mp hk))⟩

/-- Putting a table in brings only its name. -/
theorem Within.put (h : s.Within names) (ht : t.name ∈ names) : (s.put t).Within names := by
  rw [Schema.put]
  split
  · intro u hu
    obtain ⟨old, hold, rfl⟩ := List.mem_map.mp hu
    split
    · exact ht
    · exact h old hold
  · exact List.forall_mem_append.mpr ⟨h, List.forall_mem_singleton.mpr ht⟩

/-- A table that is registered with columns stands under its name; one without is not registered. -/
theorem tableNamed?_insert : (s.insert table columns).tableNamed? n =
    if table = n ∧ named columns ≠ [] then some ⟨table, named columns⟩ else s.tableNamed? n := by
  rw [insert, ← named]
  by_cases hnamed : named columns = []
  · simp [hnamed]
  · simp [hnamed, tableNamed?_put]

theorem Unique.insert (h : s.Unique) : (s.insert table columns).Unique := by
  rw [Schema.insert]
  split
  · exact h
  · exact h.put

theorem Within.insert (h : s.Within names) (ht : table ∈ names) :
    (s.insert table columns).Within names := by
  rw [Schema.insert]
  split
  · exact h
  · exact h.put ht

/-- Under each name stands what lies over it, or else what lay there before. -/
theorem tableNamed?_overlay (ho : o.Unique) :
    (s.overlay o).tableNamed? n = (o.tableNamed? n).or (s.tableNamed? n) := by
  obtain ⟨tables⟩ := o
  rw [overlay, tableNamed?.eq_def ⟨tables⟩]
  induction tables generalizing s with
  | nil => rfl
  | cons t ts ih =>
    rw [Unique, List.map_cons, List.nodup_cons] at ho
    rw [List.foldl_cons, ih ho.2, tableNamed?_put]
    by_cases hn : t.name = n
    · have hnone : ts.find? (·.name == n) = none := by
        refine List.find?_eq_none.mpr fun u hu hname => ho.1 ?_
        exact List.mem_map.mpr ⟨u, hu, (beq_iff_eq.mp hname).trans hn.symm⟩
      simp [hn, hnone]
    · simp [hn]

/-- A schema over another one has the names of both. -/
theorem Within.overlay (h : s.Within names) (ho : o.Within names) :
    (s.overlay o).Within names := by
  obtain ⟨tables⟩ := o
  rw [Schema.overlay]
  induction tables generalizing s with
  | nil => exact h
  | cons t ts ih =>
    obtain ⟨ht, hts⟩ := List.forall_mem_cons.mp ho
    exact ih (h.put ht) hts

/-! ### Looking tables up -/

/-- What is found is a known table of the name up to case. -/
theorem find?_eq_some (h : s.find? w = some t) :
    t ∈ s.tables ∧ Text.equalsIgnoringAsciiCase t.name w = true := by
  rw [find?] at h
  split at h
  · next u hu =>
    obtain rfl := Option.some.inj h
    have hname : u.name = w := by simpa using List.find?_some hu
    exact ⟨List.mem_of_find?_eq_some hu, hname ▸ Text.equalsIgnoringAsciiCase_refl _⟩
  · exact ⟨List.mem_of_find?_eq_some h, by simpa using List.find?_some h⟩

/-- If names differ by more than case, a table is known under the name that is equal to the given
one up to case. -/
theorem find?_eq_tableNamed? (hs : s.Within names) (hnames : DistinctIgnoringCase names) :
    s.find? w = (names.find? (Text.equalsIgnoringAsciiCase · w)).bind s.tableNamed? := by
  cases hfind : names.find? (Text.equalsIgnoringAsciiCase · w) with
  | none =>
    cases ht : s.find? w with
    | none => rfl
    | some t =>
      obtain ⟨hmem, hcase⟩ := find?_eq_some ht
      exact absurd hcase (List.find?_eq_none.mp hfind _ (hs t hmem))
  | some n =>
    have hn : Text.equalsIgnoringAsciiCase n w = true := by simpa using List.find?_some hfind
    have hsame : ∀ t ∈ s.tables, Text.equalsIgnoringAsciiCase t.name w = (t.name == n) := by
      intro t ht
      rw [Bool.eq_iff_iff, beq_iff_eq]
      constructor
      · intro hcase
        refine hnames _ (hs t ht) n (List.mem_of_find?_eq_some hfind) ?_
        rw [Text.equalsIgnoringAsciiCase_iff] at hcase hn ⊢
        exact hcase.trans hn.symm
      · rintro rfl
        exact hn
    rw [Option.bind_some, find?]
    split
    · next t ht =>
      have hname : t.name = w := by simpa using List.find?_some ht
      have heq : t.name = n := by
        have hcase := hsame t (List.mem_of_find?_eq_some ht)
        rw [hname, Text.equalsIgnoringAsciiCase_refl] at hcase
        exact hname.trans (beq_iff_eq.mp hcase.symm)
      rw [tableNamed?, ← heq, hname, ht]
    · exact List.find?_congr hsame

end Schema

/-- The name of a table and the names of its columns. -/
def SchemaTable.shape (t : SchemaTable) : String × List String :=
  (t.name, t.columns.map SchemaColumn.name)

/-- Names stand for tables of the same name and with columns of the same names. -/
def Schema.Alike (s s' : Schema) : Prop :=
  ∀ w, (s.find? w).map SchemaTable.shape = (s'.find? w).map SchemaTable.shape

theorem Schema.Alike.rfl {s : Schema} : s.Alike s := fun _ => Eq.refl _

/-- **Schemas are alike** if tables with the same columns stand under each name. -/
theorem Schema.alike_of_tableNamed? {s s' : Schema} {names : List String}
    (hnames : DistinctIgnoringCase names) (hs : s.Within names) (hs' : s'.Within names)
    (h : ∀ n ∈ names, (s.tableNamed? n).map SchemaTable.shape =
      (s'.tableNamed? n).map SchemaTable.shape) :
    s.Alike s' := by
  intro w
  rw [find?_eq_tableNamed? hs hnames, find?_eq_tableNamed? hs' hnames]
  cases hfind : names.find? (Text.equalsIgnoringAsciiCase · w) with
  | none => rfl
  | some n => exact h n (List.mem_of_find?_eq_some hfind)

end Sql

end AssetFlow
