import AssetFlow.Proofs.Run.Plan
import AssetFlow.Proofs.Sql.ReadTables
import AssetFlow.Lineage.Merge
import Mathlib.Data.List.Forall2

/-!
# What is merged into the columns of an asset

Merging lineage amounts to a row of contributions, each of which makes a column or adds to it
(`Pipeline.mergeLineage_eq`). A column of an asset leaves an edge whatever was there before. A
column of a table that is no asset leaves one only if it makes the column, that is, if nothing
contributed to the column before: so the edges depend on what comes first, and on nothing else of
the order.

## Main definitions

- `Contribution`: what one reference adds to a column
- `Pipeline.contributions`: what all references of a lineage add, in their order

## Main statements

- `Pipeline.edges_of_merged`: which edges the columns have that lineage is merged into
-/

namespace AssetFlow

open Sql (ColumnRef Output)

/-- The edges after one more was pushed. -/
theorem Provenance.has_push {p : Provenance} {e : ColumnEdge} {asset column : String} :
    (p.push e).has asset column = true ↔
      p.has asset column = true ∨ (e.asset = asset ∧ e.column = column) := by
  rw [push]
  split
  · next hold =>
    refine ⟨.inl, fun h => h.elim id ?_⟩
    rintro ⟨rfl, rfl⟩
    exact hold
  · simp [has]

/-- What one reference adds to the column `name`: a column of the asset `upstream`, or of a table
that is no asset. -/
structure Contribution where
  name : String
  upstream : Option String
  source : Column

namespace Contribution

variable {x : Contribution} {old c : Column} {u k : String}

/-- The column that a contribution makes of the one that is there. -/
def extend (x : Contribution) : Option Column → Column
  | some old => match x.upstream with
    | some u => { old with provenance := old.provenance.push ⟨u, x.source.name, u⟩ }
    | none => old
  | none => match x.upstream with
    | some u => Asset.inheritedColumn x.name u x.source
    | none => { x.source with name := x.name }

/-- The edge that a contribution leaves in every case: one to the column of an asset. -/
def Links (x : Contribution) (u k : String) : Prop :=
  x.upstream = some u ∧ x.source.name = k

/-- The edges that a contribution has only if it makes the column: those of a table that is no
asset. -/
def Adopts (x : Contribution) (u k : String) : Prop :=
  x.upstream = none ∧ x.source.provenance.has u k = true

/-- The edges of an extended column: the old ones and the link of the contribution. -/
theorem has_extend_some : (x.extend (some old)).provenance.has u k = true ↔
    old.provenance.has u k = true ∨ x.Links u k := by
  rw [extend, Links]
  cases x.upstream with
  | none => simp
  | some u' => simp [Provenance.has_push]

/-- The edges of a new column: the link of the contribution and those that it adopts. -/
theorem has_extend_none : (x.extend none).provenance.has u k = true ↔
    x.Links u k ∨ x.Adopts u k := by
  rw [extend, Links, Adopts]
  cases x.upstream with
  | none => simp
  | some u' => simp [Asset.inheritedColumn, Provenance.has]

/-- The column that a row of contributions to it makes. -/
def extendAll (xs : List Contribution) (c : Option Column) : Option Column :=
  xs.foldl (fun c x => some (x.extend c)) c

/-- A row of contributions leaves the links of all of them on a column that was there. -/
theorem exists_extendAll_some {xs : List Contribution} :
    ∃ c, extendAll xs (some old) = some c ∧ ∀ u k, c.provenance.has u k = true ↔
      old.provenance.has u k = true ∨ ∃ x ∈ xs, x.Links u k := by
  induction xs generalizing old with
  | nil => exact ⟨old, rfl, by simp⟩
  | cons x xs ih =>
    obtain ⟨c, hc, hhas⟩ := @ih (x.extend (some old))
    refine ⟨c, hc, fun u k => ?_⟩
    simp only [hhas, has_extend_some, or_assoc, List.mem_cons, exists_eq_or_imp]

/-- A column that is made from nothing has the edges that each contribution leaves, and those that
the first one adopts. -/
theorem exists_extendAll_none {xs : List Contribution} :
    ∃ c, extendAll (x :: xs) none = some c ∧ ∀ u k, c.provenance.has u k = true ↔
      (∃ y ∈ x :: xs, y.Links u k) ∨ x.Adopts u k := by
  obtain ⟨c, hc, hhas⟩ := @exists_extendAll_some (x.extend none) xs
  refine ⟨c, hc, fun u k => ?_⟩
  simp only [hhas, has_extend_none, List.mem_cons, exists_eq_or_imp, or_right_comm]

end Contribution

namespace Asset

variable {a b : Asset} {x : Contribution} {xs : List Contribution} {c name : String}

/-- The asset after a contribution was merged into its columns. -/
def merge (a : Asset) (x : Contribution) : Except LineageError Asset :=
  a.addDerived x.name x.upstream x.source

theorem go_id (cs : List Column) : updateColumn.go name id cs = cs := by
  induction cs with
  | nil => rfl
  | cons d cs ih =>
    rw [updateColumn.go, ih]
    split <;> rfl

/-- The column of a name after columns of a name were updated. -/
theorem find?_go {f : Column → Column} (hf : ∀ c, (f c).name = c.name) (cs : List Column) :
    (updateColumn.go name f cs).find? (·.name == c) =
      if name = c then (cs.find? (·.name == c)).map f else cs.find? (·.name == c) := by
  induction cs with
  | nil => simp [updateColumn.go]
  | cons d cs ih =>
    rw [updateColumn.go]
    by_cases hd : d.name = name
    · subst hd
      by_cases hc : d.name = c
      · simp [hf, hc]
      · simp [hf, hc]
    · by_cases hc : d.name = c
      · subst hc
        simp [hd, Ne.symm hd]
      · simp [hd, hc, ih]

/-- A contribution is put into the column of its name, or makes one at the end. -/
theorem merge_eq : a.merge x =
    if x.name = "" then .error (.invalidArguments s!"empty column name for asset '{a.name}'")
    else if x.name = "*" then .ok a
    else if (a.column? x.name).isSome then .ok (a.updateColumn x.name fun c => x.extend (some c))
    else .ok (a.addColumn (x.extend none)) := by
  simp only [merge, addDerived, String.isEmpty_iff, beq_iff_eq]
  cases hup : x.upstream with
  | none =>
    have hkeep : (fun c => x.extend (some c)) = id := by
      funext c
      simp [Contribution.extend, hup]
    have hsame : a.updateColumn x.name id = a := by rw [updateColumn, go_id]
    rw [hkeep, hsame, Contribution.extend, hup]
  | some u => simp only [Contribution.extend, hup]

theorem name_extend_some {old : Column} : (x.extend (some old)).name = old.name := by
  rw [Contribution.extend]
  split <;> rfl

theorem name_extend_none : (x.extend none).name = x.name := by
  rw [Contribution.extend]
  split <;> rfl

/-- What a contribution that is merged does to the columns. -/
theorem merge_eq_ok (h : a.merge x = .ok b) : b.name = a.name ∧ ∀ c, c ≠ "*" →
    b.column? c = if x.name = c then some (x.extend (a.column? c)) else a.column? c := by
  rw [merge_eq] at h
  split at h
  · cases h
  split at h
  · next hstar =>
    obtain rfl := Except.ok.inj h
    exact ⟨rfl, fun c hc => (if_neg fun heq => hc (heq.symm.trans hstar)).symm⟩
  split at h
  · next hold =>
    obtain ⟨old, hold⟩ := Option.isSome_iff_exists.mp hold
    obtain rfl := Except.ok.inj h
    refine ⟨rfl, fun c _ => ?_⟩
    rw [column?, updateColumn, find?_go fun c => name_extend_some]
    split
    · next heq =>
      subst heq
      rw [hold, show a.columns.find? (·.name == x.name) = some old from hold]
      rfl
    · rfl
  · next hnew =>
    have hnone : a.columns.find? (·.name == x.name) = none := by simpa [column?] using hnew
    obtain rfl := Except.ok.inj h
    refine ⟨rfl, fun c _ => ?_⟩
    rw [column?, addColumn, List.find?_append]
    split
    · next heq =>
      subst heq
      simp [hnone, column?, name_extend_none]
    · next hne => simp [column?, name_extend_none, hne]

theorem name_of_foldlM_merge (h : xs.foldlM merge a = .ok b) : b.name = a.name := by
  induction xs generalizing a with
  | nil =>
    obtain rfl := Except.ok.inj h
    rfl
  | cons x xs ih =>
    rw [List.foldlM_cons] at h
    obtain ⟨a', hx, hxs⟩ := exists_of_bind_eq_ok h
    exact (ih hxs).trans (merge_eq_ok hx).1

/-- The contributions to a column make what becomes of it. -/
theorem column?_of_foldlM_merge (h : xs.foldlM merge a = .ok b) (hc : c ≠ "*") :
    b.column? c = Contribution.extendAll (xs.filter (·.name == c)) (a.column? c) := by
  induction xs generalizing a with
  | nil =>
    obtain rfl := Except.ok.inj h
    rfl
  | cons x xs ih =>
    rw [List.foldlM_cons] at h
    obtain ⟨a', hx, hxs⟩ := exists_of_bind_eq_ok h
    rw [ih hxs, (merge_eq_ok hx).2 c hc]
    by_cases hname : x.name = c
    · rw [if_pos hname, List.filter_cons_of_pos (by simpa using hname)]
      rfl
    · rw [if_neg hname, List.filter_cons_of_neg (by simpa using hname)]

/-- Only a contribution without a name cannot be merged. -/
theorem exists_foldlM_merge_iff :
    (∃ b, xs.foldlM merge a = .ok b) ↔ ∀ x ∈ xs, x.name ≠ "" := by
  induction xs generalizing a with
  | nil => simp [pure, Except.pure]
  | cons x xs ih =>
    rw [List.foldlM_cons, List.forall_mem_cons]
    by_cases hx : x.name = ""
    · have herror : a.merge x = .error _ := merge_eq.trans (if_pos hx)
      rw [herror]
      constructor
      · rintro ⟨b, hb⟩
        cases hb
      · exact fun h => absurd hx h.1
    · have hok : ∃ a', a.merge x = .ok a' := by
        rw [merge_eq, if_neg hx]
        split
        · exact ⟨_, rfl⟩
        · split <;> exact ⟨_, rfl⟩
      obtain ⟨a', ha'⟩ := hok
      rw [ha']
      exact ih.trans ⟨fun h => ⟨hx, h⟩, fun h => h.2⟩

/-- Steps that merge rows of contributions merge all of them in turn. -/
theorem foldlM_merge_flatMap {β : Type} {name : AssetName}
    {f : Asset → β → Except LineageError Asset} {g : β → List Contribution}
    (hstep : ∀ a y, a.name = name → f a y = (g y).foldlM merge a) (ha : a.name = name)
    (ys : List β) : ys.foldlM f a = (ys.flatMap g).foldlM merge a := by
  induction ys generalizing a with
  | nil => rfl
  | cons y ys ih =>
    rw [List.foldlM_cons, List.flatMap_cons, List.foldlM_append, hstep a y ha]
    cases hy : (g y).foldlM merge a with
    | error e => rfl
    | ok a' => exact ih ((name_of_foldlM_merge hy).trans ha)

/-- A column of the asset has an edge. -/
def HasEdge (a : Asset) (column upstream source : String) : Prop :=
  ∃ c, a.column? column = some c ∧ c.provenance.has upstream source = true

instance (a : Asset) (column upstream source : String) :
    Decidable (a.HasEdge column upstream source) :=
  decidable_of_iff ((a.column? column).any (·.provenance.has upstream source))
    (Option.any_eq_true ..)

end Asset

namespace Pipeline

variable {p : Pipeline} {a b up : Asset} {r : ColumnRef} {o : Output}
  {lineage lineage' : List Output} {self name c u k : String} {x : Contribution}

/-- What a reference to unknown columns adds: all columns of the asset that it means. -/
def wildcardContributions (p : Pipeline) (r : ColumnRef) : List Contribution :=
  if r.column != "*" then []
  else match p.asset? r.table with
    | none => []
    | some up => up.columns.map fun c => ⟨c.name, some up.name.text, c⟩

/-- What a reference adds to the column `name` of the asset `self`. -/
def referenceContributions (p : Pipeline) (self name : String) (r : ColumnRef) :
    List Contribution :=
  if r.column == "*" || r.table == self then []
  else match p.asset? r.table with
    | none => [⟨name, none, externalColumn r⟩]
    | some up => [⟨name, some up.name.text, p.sourceColumn up r⟩]

/-- What an output adds to the columns of the asset `self`. -/
def outputContributions (p : Pipeline) (self : String) (o : Output) : List Contribution :=
  if o.isWildcard then o.sources.flatMap p.wildcardContributions
  else o.sources.flatMap (p.referenceContributions self o.name)

/-- What a lineage adds to the columns of the asset `self`. -/
def contributions (p : Pipeline) (self : String) (lineage : List Output) : List Contribution :=
  lineage.flatMap (p.outputContributions self)

/-- What a lineage adds to one column. -/
def contributionsTo (p : Pipeline) (self : String) (lineage : List Output) (c : String) :
    List Contribution :=
  (p.contributions self lineage).filter (·.name == c)

/-- Merging a wildcard is merging its contributions. -/
theorem mergeWildcard_eq :
    p.mergeWildcard a r = (p.wildcardContributions r).foldlM Asset.merge a := by
  rw [mergeWildcard, wildcardContributions]
  split
  · rfl
  · cases p.asset? r.table with
    | none => rfl
    | some up =>
      rw [List.foldlM_map]
      rfl

/-- Merging a reference is merging its contributions. -/
theorem mergeReference_eq : p.mergeReference name a r =
    (p.referenceContributions a.name.text name r).foldlM Asset.merge a := by
  rw [mergeReference, referenceContributions]
  split
  · rfl
  · cases p.asset? r.table with
    | none => exact (bind_pure _).symm
    | some up => exact (bind_pure _).symm

/-- Merging a lineage merges its contributions in turn. -/
theorem mergeLineage_eq : p.mergeLineage a lineage =
    (p.contributions a.name.text lineage).foldlM Asset.merge a := by
  refine Asset.foldlM_merge_flatMap (fun a' o ha' => ?_) rfl lineage
  rw [mergeOutput, outputContributions]
  split
  · exact Asset.foldlM_merge_flatMap (fun _ r _ => mergeWildcard_eq (r := r)) ha' o.sources
  · refine Asset.foldlM_merge_flatMap (fun a'' r ha'' => ?_) ha' o.sources
    rw [← ha'']
    exact mergeReference_eq

theorem name_sourceColumn : (p.sourceColumn up r).name = r.column := by
  rw [sourceColumn]
  split
  · next c hc => simpa [Asset.column?] using List.find?_some hc
  · rfl

/-- The column of a table that is no asset has one edge, to this table. -/
theorem has_externalColumn :
    (externalColumn r).provenance.has u k = true ↔ Text.lower r.table = u ∧ r.column = k := by
  simp [externalColumn, Provenance.has]

theorem mem_contributionsTo (ho : o ∈ lineage) (hname : o.name ≠ "*") (hr : r ∈ o.sources)
    (hcolumn : r.column ≠ "*") (hself : r.table ≠ self) :
    (match p.asset? r.table with
      | none => ⟨o.name, none, externalColumn r⟩
      | some up => ⟨o.name, some up.name.text, p.sourceColumn up r⟩) ∈
      p.contributionsTo self lineage o.name := by
  have hmem : ∀ x ∈ p.referenceContributions self o.name r, x.name = o.name →
      x ∈ p.contributionsTo self lineage o.name := by
    intro x hx hxname
    refine List.mem_filter.mpr ⟨List.mem_flatMap.mpr ⟨o, ho, ?_⟩, beq_iff_eq.mpr hxname⟩
    rw [outputContributions, Output.isWildcard, if_neg (mt beq_iff_eq.mp hname)]
    exact List.mem_flatMap.mpr ⟨r, hr, hx⟩
  rw [referenceContributions, if_neg (by simp [hcolumn, hself])] at hmem
  split
  · next hnone => exact hmem _ (by simp [hnone]) rfl
  · next up hup => exact hmem _ (by simp [hup]) rfl

/-- Which edges a column has that a lineage is merged into: those to columns of assets, and those of
the first contribution. -/
theorem hasEdge_iff_of_merged (ha : a.columns = []) (h : p.mergeLineage a lineage = .ok b)
    (hc : c ≠ "*") : b.HasEdge c u k ↔
      (∃ x ∈ p.contributionsTo a.name.text lineage c, x.Links u k) ∨
      ∃ x, (p.contributionsTo a.name.text lineage c).head? = some x ∧ x.Adopts u k := by
  rw [mergeLineage_eq] at h
  have hcolumn := Asset.column?_of_foldlM_merge h hc
  have hnone : a.column? c = none := by rw [Asset.column?, ha, List.find?_nil]
  rw [hnone] at hcolumn
  rw [Asset.HasEdge, contributionsTo]
  cases hxs : (p.contributions a.name.text lineage).filter (·.name == c) with
  | nil =>
    rw [hxs] at hcolumn
    simp [hcolumn, Contribution.extendAll]
  | cons x xs =>
    obtain ⟨col, hcol, hhas⟩ := @Contribution.exists_extendAll_none x xs
    rw [hcolumn, hxs, hcol]
    simp [hhas]

/-- Two lineages have the same references up to their order in each output. -/
def Reordered : List Output → List Output → Prop :=
  List.Forall₂ fun o o' => o.name = o'.name ∧ o.sources.Perm o'.sources

/-- Lineages in another order make the same contributions in another order. -/
theorem Reordered.contributions_perm (h : Reordered lineage lineage') :
    (p.contributions self lineage).Perm (p.contributions self lineage') := by
  rw [contributions, contributions]
  induction h with
  | nil => exact .nil
  | cons ho _ ih =>
    refine .append ?_ ih
    rw [outputContributions, outputContributions, Output.isWildcard, Output.isWildcard, ho.1]
    split
    · exact ho.2.flatMap_right _
    · exact ho.2.flatMap_right _

/-- Whether a lineage can be merged does not depend on its order. -/
theorem Reordered.exists_merged (h : Reordered lineage lineage')
    (hb : p.mergeLineage a lineage = .ok b) : ∃ b', p.mergeLineage a lineage' = .ok b' := by
  rw [mergeLineage_eq] at hb ⊢
  have hnames := Asset.exists_foldlM_merge_iff.mp ⟨b, hb⟩
  exact Asset.exists_foldlM_merge_iff.mpr fun x hx => hnames x (h.contributions_perm.mem_iff.mpr hx)

/-- The reference that comes first for a column is the same in two lineages, or one to an asset in
both. -/
def LedAlike (p : Pipeline) (self : String) (lineage lineage' : List Output) (c : String) : Prop :=
  ∀ x x', (p.contributionsTo self lineage c).head? = some x →
    (p.contributionsTo self lineage' c).head? = some x' →
      x = x' ∨ (x.upstream.isSome ∧ x'.upstream.isSome)

theorem LedAlike.exists_adopts (hlead : LedAlike p self lineage lineage' c)
    (h : Reordered lineage lineage')
    (hx : ∃ x, (p.contributionsTo self lineage c).head? = some x ∧ x.Adopts u k) :
    ∃ x, (p.contributionsTo self lineage' c).head? = some x ∧ x.Adopts u k := by
  obtain ⟨x, hx, hadopts⟩ := hx
  have hmem : x ∈ p.contributionsTo self lineage' c :=
    (h.contributions_perm.filter _).mem_iff.mp (List.mem_of_mem_head? hx)
  obtain ⟨x', hx'⟩ := Option.isSome_iff_exists.mp (List.isSome_head?.mpr (List.ne_nil_of_mem hmem))
  rcases hlead x x' hx hx' with rfl | ⟨hsome, -⟩
  · exact ⟨x, hx', hadopts⟩
  · rw [hadopts.1] at hsome
    cases hsome

theorem LedAlike.symm (h : LedAlike p self lineage lineage' c) :
    LedAlike p self lineage' lineage c :=
  fun x x' hx hx' => (h x' x hx' hx).imp Eq.symm And.symm

theorem Reordered.symm (h : Reordered lineage lineage') : Reordered lineage' lineage :=
  (List.Forall₂.flip h).imp fun _ _ ho => ⟨ho.1.symm, ho.2.symm⟩

/-- The edges of a column do not depend on the order of the lineage when the references that come
first are alike. -/
theorem hasEdge_reordered (ha : a.columns = []) {b' : Asset} (h : Reordered lineage lineage')
    (hb : p.mergeLineage a lineage = .ok b) (hb' : p.mergeLineage a lineage' = .ok b')
    (hc : c ≠ "*") (hlead : LedAlike p a.name.text lineage lineage' c) :
    b.HasEdge c u k ↔ b'.HasEdge c u k := by
  have hmem : (p.contributionsTo a.name.text lineage c).Perm
      (p.contributionsTo a.name.text lineage' c) := h.contributions_perm.filter _
  rw [hasEdge_iff_of_merged ha hb hc, hasEdge_iff_of_merged ha hb' hc]
  refine or_congr (exists_congr fun x => and_congr_left' hmem.mem_iff) ⟨?_, ?_⟩
  · exact hlead.exists_adopts h
  · exact hlead.symm.exists_adopts h.symm

/-- **Which edges a merge leaves** in an asset without columns: a reference to a column of an asset
always leaves its edge, and a reference to a table that is no asset does if nothing contributes to
the column before it; there are no other edges. So the edges do not depend on the order of the
references as long as the column is led alike. -/
theorem edges_of_merged (ha : a.columns = []) (h : p.mergeLineage a lineage = .ok b) :
    (∀ o ∈ lineage, o.name ≠ "*" → ∀ r ∈ o.sources, r.column ≠ "*" → r.table ≠ a.name.text →
      (b.column? o.name).isSome ∧
      (∀ up, p.asset? r.table = some up → b.HasEdge o.name up.name.text r.column) ∧
      (p.asset? r.table = none →
        (p.contributionsTo a.name.text lineage o.name).head? =
          some ⟨o.name, none, externalColumn r⟩ →
        b.HasEdge o.name (Text.lower r.table) r.column)) ∧
    (∀ c, c ≠ "*" → ∀ u k, b.HasEdge c u k ↔
      (∃ x ∈ p.contributionsTo a.name.text lineage c, x.Links u k) ∨
      ∃ x, (p.contributionsTo a.name.text lineage c).head? = some x ∧ x.Adopts u k) ∧
    (∀ lineage', Reordered lineage lineage' → ∃ b', p.mergeLineage a lineage' = .ok b' ∧
      ∀ c, c ≠ "*" → LedAlike p a.name.text lineage lineage' c →
        ∀ u k, b.HasEdge c u k ↔ b'.HasEdge c u k) := by
  refine ⟨?_, fun c hc u k => hasEdge_iff_of_merged ha h hc, fun lineage' hreordered => ?_⟩
  · intro o ho hname r hr hcolumn hself
    have hmem := mem_contributionsTo (p := p) ho hname hr hcolumn hself
    refine ⟨?_, fun up hup => ?_, fun _ hfirst => ?_⟩
    · rw [mergeLineage_eq] at h
      rw [Asset.column?_of_foldlM_merge h hname, Asset.column?, ha, List.find?_nil]
      obtain ⟨x, xs, hxs⟩ := List.exists_cons_of_ne_nil (List.ne_nil_of_mem hmem)
      obtain ⟨c, hc, -⟩ := @Contribution.exists_extendAll_none x xs
      rw [contributionsTo] at hxs
      rw [hxs, hc]
      rfl
    · rw [hup] at hmem
      exact (hasEdge_iff_of_merged ha h hname).mpr (.inl ⟨_, hmem, rfl, name_sourceColumn⟩)
    · exact (hasEdge_iff_of_merged ha h hname).mpr
        (.inr ⟨_, hfirst, rfl, has_externalColumn.mpr ⟨rfl, rfl⟩⟩)
  · obtain ⟨b', hb'⟩ := hreordered.exists_merged h
    exact ⟨b', hb', fun c hc hlead u k => hasEdge_reordered ha hreordered h hb' hc hlead⟩

/-- Orders with a declared column, and totals without columns. -/
def ordersWithAmount : Asset :=
  { name := RunPlan.orders, type := "duckdb.sql", columns := [{ name := "amount" }] }

def totals : Asset :=
  { name := ⟨"totals", by decide⟩, type := "duckdb.sql" }

def orderTotals : Pipeline where
  config := { name := "shop" }
  root := "."
  assets := [ordersWithAmount, totals]
  unique := by decide

/-- A column that is computed from an asset and from a table that is no asset. -/
def totalOf (references : List ColumnRef) : List Output :=
  [⟨"total", references⟩]

/-- The reference to the table comes first, and both leave an edge. -/
theorem rate_adopted : totals.columns = [] ∧ ∃ b,
    orderTotals.mergeLineage totals (totalOf [⟨"fx.rates", "rate"⟩, ⟨"orders", "amount"⟩]) = .ok b ∧
    b.HasEdge "total" "orders" "amount" ∧ b.HasEdge "total" "fx.rates" "rate" := by
  obtain ⟨b, hb, -⟩ := Sql.exists_ok_of_any (f := fun _ => true)
    (x := orderTotals.mergeLineage totals (totalOf [⟨"fx.rates", "rate"⟩, ⟨"orders", "amount"⟩]))
    (by decide +kernel)
  have hedges := (edges_of_merged (a := totals) rfl hb).1 _ (List.mem_singleton_self _) (by decide)
  refine ⟨rfl, b, hb, ?_, ?_⟩
  · exact (hedges ⟨"orders", "amount"⟩ (by simp) (by decide) (by decide)).2.1
      ordersWithAmount rfl
  · have hlower : Text.lower "fx.rates" = "fx.rates" := by decide +kernel
    exact hlower ▸ (hedges ⟨"fx.rates", "rate"⟩ (by simp) (by decide) (by decide)).2.2 rfl rfl

/-- **A reference without an edge**: the reference to the table comes second and adds nothing to the
column that the other one has made. -/
theorem rate_left_out : totals.columns = [] ∧ orderTotals.asset? "fx.rates" = none ∧ ∃ b,
    orderTotals.mergeLineage totals (totalOf [⟨"orders", "amount"⟩, ⟨"fx.rates", "rate"⟩]) = .ok b ∧
    b.HasEdge "total" "orders" "amount" ∧
    ¬ b.HasEdge "total" (Text.lower "fx.rates") "rate" := by
  obtain ⟨b, hb, hedges⟩ := Sql.exists_ok_of_any (f := fun b => decide
      (b.HasEdge "total" "orders" "amount" ∧ ¬ b.HasEdge "total" (Text.lower "fx.rates") "rate"))
    (x := orderTotals.mergeLineage totals (totalOf [⟨"orders", "amount"⟩, ⟨"fx.rates", "rate"⟩]))
    (by decide +kernel)
  exact ⟨rfl, rfl, b, hb, of_decide_eq_true hedges⟩

end Pipeline

end AssetFlow
