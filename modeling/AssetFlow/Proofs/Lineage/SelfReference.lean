import AssetFlow.Proofs.Lineage.Growth

/-!
# Assets that are their own source

A column that is computed from another column of the same asset gets no edge to it: `mergeReference`
leaves out references to the asset itself. There are two ways around this. A reference to all
columns of the asset itself goes through `mergeWildcard`, which leaves out nothing; and a table that
is no asset may have the name of the asset once it is in lower case. An asset becomes its own source
in these ways only (`Pipeline.drawsOn_self_of_merged`), and stays so.

Resolving an asset together with what it is read from never takes the first way, because it analyzes
assets without columns only.

## Main definitions

- `Asset.DrawsOn`: an asset has a column with an edge to another asset
- `Pipeline.SelfFree`: no asset is its own source
- `Analysis.SelfSourced`: analyzing an asset makes it its own source
- `Call.applyAll`: the pipeline after a row of calls

## Main statements

- `Call.selfFree_applyAll`: when assets are never their own source
-/

namespace AssetFlow

open Sql (Output)

/-! ### Which assets the edges lead to -/

namespace Asset

variable {a b : Asset} {x : Contribution} {xs : List Contribution} {u c : String}

/-- A column of the asset has an edge to a column of `u`. -/
def DrawsOn (a : Asset) (u : String) : Prop :=
  ∃ c ∈ a.columns, ∃ e ∈ c.provenance, e.asset = u

instance (a : Asset) (u : String) : Decidable (a.DrawsOn u) :=
  inferInstanceAs (Decidable (∃ c ∈ a.columns, _))

theorem drawsOn_iff : a.DrawsOn u ↔ ∃ c ∈ a.columns, ∃ k, c.provenance.has u k = true := by
  simp [DrawsOn, Provenance.has]

/-- A change of the column of a name makes it have what the others may have had before. -/
theorem exists_mem_go_iff {P : Column → Prop} {Q : Prop} {f : Column → Column}
    (hf : ∀ c, P (f c) ↔ P c ∨ Q) {cs : List Column} (hc : ∃ d ∈ cs, d.name = c) :
    (∃ d ∈ updateColumn.go c f cs, P d) ↔ (∃ d ∈ cs, P d) ∨ Q := by
  induction cs with
  | nil => simp at hc
  | cons d cs ih =>
    rw [updateColumn.go]
    by_cases hd : d.name = c
    · simp only [hd, beq_self_eq_true, if_true, List.exists_mem_cons_iff, hf, or_right_comm]
    · rw [if_neg (mt beq_iff_eq.mp hd), List.exists_mem_cons_iff, List.exists_mem_cons_iff,
        ih (by simpa [hd] using hc), or_assoc]

/-- What a contribution adds to the assets that the edges lead to: its own one, and those of the
column that it makes. -/
theorem drawsOn_merge (h : a.merge x = .ok b) : b.DrawsOn u ↔ a.DrawsOn u ∨ x.name ≠ "*" ∧
    (x.upstream = some u ∨ a.column? x.name = none ∧ ∃ k, x.Adopts u k) := by
  rw [merge_eq] at h
  split at h
  · cases h
  split at h
  · next hstar =>
    obtain rfl := Except.ok.inj h
    simp [hstar]
  · next hstar =>
    split at h
    · next hold =>
      obtain rfl := Except.ok.inj h
      obtain ⟨d, hd⟩ := Option.isSome_iff_exists.mp hold
      have hlinks : ∀ d : Column, (∃ k, (x.extend (some d)).provenance.has u k = true) ↔
          (∃ k, d.provenance.has u k = true) ∨ x.upstream = some u := by
        intro d
        simp [Contribution.has_extend_some, exists_or, Contribution.Links]
      have hmem : ∃ d ∈ a.columns, d.name = x.name :=
        ⟨d, List.mem_of_find?_eq_some hd, by simpa using List.find?_some hd⟩
      rw [drawsOn_iff, drawsOn_iff, updateColumn, exists_mem_go_iff (f := fun c => x.extend (some c))
        (P := fun c => ∃ k, c.provenance.has u k = true) hlinks hmem]
      simp [hstar, hd]
    · next hnew =>
      obtain rfl := Except.ok.inj h
      have hnone : a.column? x.name = none := by simpa using hnew
      simp [drawsOn_iff, addColumn, or_and_right, exists_or, Contribution.has_extend_none,
        Contribution.Links, hstar, hnone]

/-- The assets that the edges lead to after a row of contributions: those of the contributions, and
those of the columns that are made of the first contribution to them. -/
theorem drawsOn_foldlM_merge (h : xs.foldlM merge a = .ok b) : b.DrawsOn u ↔ a.DrawsOn u ∨
    (∃ x ∈ xs, x.name ≠ "*" ∧ x.upstream = some u) ∨
    ∃ c, c ≠ "*" ∧ a.column? c = none ∧
      ∃ x, (xs.filter (·.name == c)).head? = some x ∧ ∃ k, x.Adopts u k := by
  simp only [List.head?_filter]
  induction xs generalizing a with
  | nil =>
    obtain rfl := Except.ok.inj h
    simp
  | cons x xs ih =>
    rw [List.foldlM_cons] at h
    obtain ⟨a', hx, hxs⟩ := exists_of_bind_eq_ok h
    have hcolumn := (merge_eq_ok hx).2
    have hfirst : (∃ c, c ≠ "*" ∧ a.column? c = none ∧
        ∃ y, (x :: xs).find? (·.name == c) = some y ∧ ∃ k, y.Adopts u k) ↔
        (x.name ≠ "*" ∧ a.column? x.name = none ∧ ∃ k, x.Adopts u k) ∨
        ∃ c, c ≠ "*" ∧ a'.column? c = none ∧
          ∃ y, xs.find? (·.name == c) = some y ∧ ∃ k, y.Adopts u k := by
      constructor
      · rintro ⟨c, hc, hnone, y, hy, hadopts⟩
        by_cases hname : x.name = c
        · subst hname
          obtain rfl : x = y := by simpa using hy
          exact .inl ⟨hc, hnone, hadopts⟩
        · refine .inr ⟨c, hc, ?_, y, ?_, hadopts⟩
          · rw [hcolumn c hc, if_neg hname, hnone]
          · rwa [List.find?_cons_of_neg (by simpa using hname)] at hy
      · rintro (⟨hc, hnone, hadopts⟩ | ⟨c, hc, hnone, y, hy, hadopts⟩)
        · exact ⟨x.name, hc, hnone, x, by simp, hadopts⟩
        · rw [hcolumn c hc] at hnone
          split at hnone
          · cases hnone
          · next hname =>
            refine ⟨c, hc, hnone, y, ?_, hadopts⟩
            rwa [List.find?_cons_of_neg (by simpa using hname)]
    rw [ih hxs, drawsOn_merge hx, hfirst, List.exists_mem_cons_iff, and_or_left]
    simp only [or_assoc, or_left_comm]

/-- Columns of the asset are taken over from itself. -/
def TakesOverItself (a : Asset) (lineage : List Output) : Prop :=
  (∃ o ∈ lineage, o.name = "*" ∧ ∃ r ∈ o.sources, r.column = "*" ∧ r.table = a.name.text) ∧
    ∃ c ∈ a.columns, c.name ≠ "*"

/-- A column is made from a table that is no asset of the pipeline, but has the name of the asset
once it is in lower case. -/
def MakesFromItself (p : Pipeline) (a : Asset) (lineage : List Output) : Prop :=
  ∃ c, c ≠ "*" ∧ a.column? c = none ∧ ∃ r : Sql.ColumnRef, Text.lower r.table = a.name.text ∧
    (p.contributionsTo a.name.text lineage c).head? = some ⟨c, none, Pipeline.externalColumn r⟩

end Asset

namespace Pipeline

variable {p : Pipeline} {a b : Asset} {lineage : List Output} {n : String}

/-- No asset has a column with an edge to the asset itself. -/
def SelfFree (p : Pipeline) : Prop :=
  ∀ a ∈ p.assets, ¬ a.DrawsOn a.name.text

instance (p : Pipeline) : Decidable p.SelfFree :=
  inferInstanceAs (Decidable (∀ a ∈ p.assets, _))

/-- Only a reference to all columns leads an asset to itself by its name. -/
theorem exists_links_self_iff (ha : p.asset? a.name.text = some a) :
    (∃ x ∈ p.contributions a.name.text lineage, x.name ≠ "*" ∧ x.upstream = some a.name.text) ↔
      a.TakesOverItself lineage := by
  constructor
  · rintro ⟨x, hx, hname, hself⟩
    obtain ⟨o, ho, hadds⟩ := mem_contributions_iff.mp hx
    cases hadds with
    | external => cases hself
    | @passed r up c hwildcard hr hstar hup hc =>
      obtain ⟨-, htable⟩ := asset?_eq_some hup
      have hhere : r.table = a.name.text := htable.symm.trans (Option.some.inj hself)
      obtain rfl := Option.some.inj (ha.symm.trans (hhere ▸ hup))
      exact ⟨⟨o, ho, hwildcard, r, hr, hstar, hhere⟩, c, hc, hname⟩
    | @derived r up hnamed hr hcolumn hother hup =>
      exact absurd ((asset?_eq_some hup).2.symm.trans (Option.some.inj hself)) hother
  · rintro ⟨⟨o, ho, hwildcard, r, hr, hstar, hself⟩, c, hc, hname⟩
    have hadds : p.Adds a.name.text o ⟨c.name, some a.name.text, c⟩ :=
      Adds.passed hwildcard hr hstar (hself ▸ ha) hc
    exact ⟨_, mem_contributions_iff.mpr ⟨o, ho, hadds⟩, hname, rfl⟩

theorem exists_adopts_self_iff :
    (∃ c, c ≠ "*" ∧ a.column? c = none ∧ ∃ x,
      (p.contributionsTo a.name.text lineage c).head? = some x ∧ ∃ k, x.Adopts a.name.text k) ↔
      a.MakesFromItself p lineage := by
  refine exists_congr fun c => and_congr_right fun _ => and_congr_right fun _ => ⟨?_, ?_⟩
  · rintro ⟨x, hx, k, hup, hhas⟩
    obtain ⟨hmem, hname⟩ := List.mem_filter.mp (List.mem_of_mem_head? hx)
    obtain rfl := beq_iff_eq.mp hname
    obtain ⟨o, -, hadds⟩ := mem_contributions_iff.mp hmem
    cases hadds with
    | passed => cases hup
    | @external r => exact ⟨r, (has_externalColumn.mp hhas).1, hx⟩
    | derived => cases hup
  · rintro ⟨r, hlower, hx⟩
    exact ⟨_, hx, r.column, rfl, has_externalColumn.mpr ⟨hlower, rfl⟩⟩

theorem exists_reference_of_external {self name : String} {r : Sql.ColumnRef}
    (h : ⟨name, none, externalColumn r⟩ ∈ p.contributions self lineage) :
    ∃ o ∈ lineage, ∃ r' ∈ o.sources, Text.lower r'.table = Text.lower r.table := by
  obtain ⟨o, ho, hadds⟩ := mem_contributions_iff.mp h
  generalize hx : (⟨name, none, externalColumn r⟩ : Contribution) = x at hadds
  cases hadds with
  | passed => cases hx
  | @external r' _ hr => exact ⟨o, ho, r', hr, (congrArg (fun x => x.source.type) hx).symm⟩
  | derived => cases hx

/-- The ways in which merging lineage makes an asset its own source. -/
theorem drawsOn_self_of_merged (ha : p.asset? a.name.text = some a)
    (hfree : ¬ a.DrawsOn a.name.text) (h : p.mergeLineage a lineage = .ok b) :
    b.DrawsOn a.name.text ↔ a.TakesOverItself lineage ∨ a.MakesFromItself p lineage := by
  rw [mergeLineage_eq] at h
  rw [Asset.drawsOn_foldlM_merge h, exists_links_self_iff ha]
  exact (or_iff_right hfree).trans (or_congr_right exists_adopts_self_iff)

theorem mem_updateAsset_iff {columns : List Column} (ha : p.asset? n = some a) :
    b ∈ (p.updateAsset n fun a => { a with columns }).assets ↔
      b = { a with columns } ∨ b ∈ p.assets ∧ b.name.text ≠ n := by
  obtain ⟨hmem, rfl⟩ := asset?_eq_some ha
  simp only [updateAsset, mapAssets, List.mem_map]
  constructor
  · rintro ⟨c, hc, rfl⟩
    by_cases hname : c.name.text = a.name.text
    · obtain rfl := eq_of_name_eq hc hmem hname
      simp
    · simp [hname, hc]
  · rintro (rfl | ⟨hb, hname⟩)
    · exact ⟨a, hmem, by simp⟩
    · exact ⟨b, hb, by simp [hname]⟩

/-- If one asset gets other columns, all is as before but for this asset. -/
theorem selfFree_updateAsset {columns : List Column} (h : p.SelfFree) (ha : p.asset? n = some a) :
    (p.updateAsset n fun a => { a with columns }).SelfFree ↔
      ¬ { a with columns : Asset }.DrawsOn n := by
  obtain ⟨-, rfl⟩ := asset?_eq_some ha
  constructor
  · exact fun hfree => hfree _ ((mem_updateAsset_iff ha).mpr (.inl rfl))
  · intro hfree b hb
    rcases (mem_updateAsset_iff ha).mp hb with rfl | ⟨hb, -⟩
    · exact hfree
    · exact h b hb

end Pipeline

/-! ### Rows of calls -/

/-- The moment when an asset of a pipeline is analyzed. -/
structure Analysis where
  resolver : Resolver
  pipeline : Pipeline
  asset : String

namespace Analysis

/-- What the analysis merges into its asset. -/
structure Merges (x : Analysis) (a : Asset) (lineage : List Output) : Prop where
  asset_eq : x.pipeline.asset? x.asset = some a
  analyzed : ∃ d, Sql.Dialect.ofAssetType? a.type = some d ∧
    x.resolver.analyze d (x.resolver.schemaFor x.pipeline a) a.sql = .ok lineage
  named : ∀ y ∈ x.pipeline.contributions a.name.text lineage, y.name ≠ ""

/-- The asset becomes its own source. -/
def SelfSourced (x : Analysis) : Prop :=
  ∃ a lineage, x.Merges a lineage ∧
    (a.TakesOverItself lineage ∨ a.MakesFromItself x.pipeline lineage)

variable {x : Analysis} {a b : Asset} {lineage lineage' : List Output}

theorem Merges.unique (h : x.Merges a lineage) (h' : x.Merges b lineage') :
    a = b ∧ lineage = lineage' := by
  obtain rfl := Option.some.inj (h.asset_eq.symm.trans h'.asset_eq)
  obtain ⟨d, hd, hl⟩ := h.analyzed
  obtain ⟨d', hd', hl'⟩ := h'.analyzed
  obtain rfl := Option.some.inj (hd.symm.trans hd')
  exact ⟨rfl, Except.ok.inj (hl.symm.trans hl')⟩

/-- An asset that becomes its own source refers to a table that is known under its name, or is in
lower case. -/
theorem Merges.exists_freeTable (h : x.Merges a lineage)
    (hanalyze : x.resolver.analyze = Sql.columnLineage)
    (hself : a.TakesOverItself lineage ∨ a.MakesFromItself x.pipeline lineage) :
    ∃ w ∈ a.freeTables, (x.resolver.schemaFor x.pipeline a).registered w = a.name.text ∨
      Text.lower ((x.resolver.schemaFor x.pipeline a).registered w) = a.name.text := by
  obtain ⟨d, hd, hl⟩ := h.analyzed
  rw [hanalyze] at hl
  rcases hself with ⟨⟨o, ho, -, r, hr, -, htable⟩, -⟩ | ⟨c, -, -, r, hlower, hfirst⟩
  · obtain ⟨w, hw, hregistered⟩ := Asset.exists_freeTable hd hl ho hr
    exact ⟨w, hw, .inl (hregistered.trans htable)⟩
  · obtain ⟨hmem, -⟩ := List.mem_filter.mp (List.mem_of_mem_head? hfirst)
    obtain ⟨o, ho, r', hr, hsame⟩ := Pipeline.exists_reference_of_external hmem
    obtain ⟨w, hw, hregistered⟩ := Asset.exists_freeTable hd hl ho hr
    exact ⟨w, hw, .inr (by rw [hregistered, hsame, hlower])⟩

end Analysis

namespace Resolver

variable {r : Resolver} {p q : Pipeline} {a b : Asset} {n : String} {roots order : List String}
  {lineage : List Output} {x : Analysis}

theorem attempt_of_derive_eq_ok (ha : p.asset? n = some a) (h : r.derive p a = .ok b) :
    r.attempt p n = p.updateAsset n fun a => { a with columns := b.columns } := by
  rw [attempt, parseLineage_of_asset? ha, h]
  rfl

theorem attempt_eq_self (h : ∀ a b, p.asset? n = some a → r.derive p a ≠ .ok b) :
    r.attempt p n = p := by
  rw [attempt]
  cases ha : p.asset? n with
  | none =>
    rw [parseLineage, ha]
    rfl
  | some a =>
    rw [parseLineage_of_asset? ha]
    cases hb : r.derive p a with
    | error e => rfl
    | ok b => exact absurd hb (h a b ha)

/-- What an asset gets is what its analysis merges. -/
theorem derive_eq_ok_iff (ha : p.asset? n = some a) : r.derive p a = .ok b ↔
    ∃ lineage, Analysis.Merges ⟨r, p, n⟩ a lineage ∧ p.mergeLineage a lineage = .ok b := by
  constructor
  · intro hb
    obtain ⟨d, lineage, hd, hl, hmerge⟩ := derive_eq_ok hb
    refine ⟨lineage, ⟨ha, ⟨d, hd, hl⟩, ?_⟩, hmerge⟩
    rw [Pipeline.mergeLineage_eq] at hmerge
    exact Asset.exists_foldlM_merge_iff.mp ⟨b, hmerge⟩
  · rintro ⟨lineage, hmerges, hmerge⟩
    obtain ⟨d, hd, hl⟩ : ∃ d, Sql.Dialect.ofAssetType? a.type = some d ∧
      r.analyze d (r.schemaFor p a) a.sql = .ok lineage := hmerges.analyzed
    simp only [derive_eq, hd, hl]
    exact Pipeline.mergeLineage_eq.symm.trans hmerge

/-- An analysis keeps assets free of themselves just if its asset does not become its own source. -/
theorem selfFree_attempt (h : p.SelfFree) :
    (r.attempt p n).SelfFree ↔ ¬ Analysis.SelfSourced ⟨r, p, n⟩ := by
  by_cases hfound : ∃ a b, p.asset? n = some a ∧ r.derive p a = .ok b
  · obtain ⟨a, b, ha, hb⟩ := hfound
    obtain ⟨lineage, hmerges, hmerge⟩ := (derive_eq_ok_iff ha).mp hb
    obtain ⟨hmem, rfl⟩ := Pipeline.asset?_eq_some ha
    rw [attempt_of_derive_eq_ok ha hb, Pipeline.selfFree_updateAsset h ha]
    refine not_congr ((Pipeline.drawsOn_self_of_merged ha (h a hmem) hmerge).trans ⟨?_, ?_⟩)
    · exact fun hself => ⟨a, lineage, hmerges, hself⟩
    · rintro ⟨a', lineage', hmerges', hself⟩
      obtain ⟨rfl, rfl⟩ := hmerges.unique hmerges'
      exact hself
  · rw [attempt_eq_self fun a b ha hb => hfound ⟨a, b, ha, hb⟩]
    refine iff_of_true h ?_
    rintro ⟨a, lineage, hmerges, -⟩
    obtain ⟨b, hb⟩ := Asset.exists_foldlM_merge_iff.mpr hmerges.named
    have hmerge : p.mergeLineage a lineage = .ok b := Pipeline.mergeLineage_eq.trans hb
    have ha : p.asset? n = some a := hmerges.asset_eq
    exact hfound ⟨a, b, ha, (derive_eq_ok_iff ha).mpr ⟨lineage, hmerges, hmerge⟩⟩

/-- What is its own source stays so. -/
theorem selfFree_of_attempt (h : (r.attempt p n).SelfFree) : p.SelfFree := by
  by_cases hfound : ∃ a b, p.asset? n = some a ∧ r.derive p a = .ok b
  · obtain ⟨a, b, ha, hb⟩ := hfound
    obtain ⟨hmem, rfl⟩ := Pipeline.asset?_eq_some ha
    obtain ⟨lineage, -, hmerge⟩ := (derive_eq_ok_iff ha).mp hb
    rw [attempt_of_derive_eq_ok ha hb] at h
    rw [Pipeline.mergeLineage_eq] at hmerge
    intro c hc hself
    by_cases hname : c.name.text = a.name.text
    · obtain rfl := Pipeline.eq_of_name_eq hc hmem hname
      refine h _ ((Pipeline.mem_updateAsset_iff ha).mpr (.inl rfl)) ?_
      exact (Asset.drawsOn_foldlM_merge hmerge).mpr (.inl hself)
    · exact h c ((Pipeline.mem_updateAsset_iff ha).mpr (.inr ⟨hc, hname⟩)) hself
  · rwa [attempt_eq_self fun a b ha hb => hfound ⟨a, b, ha, hb⟩] at h

theorem selfFree_of_attemptAll (h : (r.attemptAll p order).SelfFree) : p.SelfFree := by
  induction order generalizing p with
  | nil => exact h
  | cons n order ih => exact selfFree_of_attempt (ih h)

/-- The analyses that analyzing a row of assets comes to. -/
def analyses (r : Resolver) (p : Pipeline) : List String → List Analysis
  | [] => []
  | n :: order => ⟨r, p, n⟩ :: r.analyses (r.attempt p n) order

theorem selfFree_attemptAll (h : p.SelfFree) :
    (r.attemptAll p order).SelfFree ↔ ∀ x ∈ r.analyses p order, ¬ x.SelfSourced := by
  induction order generalizing p with
  | nil => simpa [analyses, attemptAll] using h
  | cons n order ih =>
    rw [attemptAll_cons, analyses, List.forall_mem_cons, ← selfFree_attempt h]
    constructor
    · intro hfree
      have hfirst := selfFree_of_attemptAll hfree
      exact ⟨hfirst, (ih hfirst).mp hfree⟩
    · rintro ⟨hfirst, hrest⟩
      exact (ih hfirst).mpr hrest

theorem mem_analyses (hx : x ∈ r.analyses p order) : ∃ before after,
    order = before ++ x.asset :: after ∧ x.pipeline = r.attemptAll p before := by
  induction order generalizing p with
  | nil => cases hx
  | cons n order ih =>
    rcases List.mem_cons.mp hx with rfl | hx
    · exact ⟨[], order, rfl, rfl⟩
    · obtain ⟨before, after, rfl, hpipeline⟩ := ih hx
      exact ⟨n :: before, after, rfl, hpipeline⟩

/-- Resolving assets with all that they are read from analyzes assets without columns only. -/
theorem Analyzes.not_takesOverItself (h : Analyzes p roots order) (hx : x ∈ r.analyses p order)
    (hmerges : x.Merges a lineage) : ¬ a.TakesOverItself lineage := by
  rintro ⟨-, c, hc, -⟩
  obtain ⟨before, after, rfl, hpipeline⟩ := mem_analyses hx
  obtain ⟨⟨b, hb, hcolumns⟩, -⟩ := h.reached x.asset (by simp)
  have ha := hmerges.asset_eq
  rw [hpipeline, h.asset?_fresh, hb] at ha
  obtain rfl := Option.some.inj ha
  rw [hcolumns] at hc
  cases hc

end Resolver

/-- A call that resolves assets. -/
inductive Call
  | columnLineage (r : Resolver) (name : String)
  | resolveAll (r : Resolver)
  | parseLineage (r : Resolver) (name : String)

namespace Call

open Resolver

variable {p : Pipeline} {c : Call} {calls : List Call}

/-- The pipeline after a call. It keeps what was found also if the call fails. -/
def apply (p : Pipeline) : Call → Pipeline
  | columnLineage r n => (r.columnLineage p n).2
  | resolveAll r => (r.resolveAll p).2
  | parseLineage r n => ((r.parseInPlace n).run.run p).2

/-- The analyses that a call comes to. -/
def analyses (p : Pipeline) : Call → List Analysis
  | columnLineage r n =>
    r.analyses p (analyzedBy p (r.resolve (p.assets.length + 1) [] n))
  | resolveAll r =>
    r.analyses p (analyzedBy p (p.names.forM fun n => r.resolve (p.assets.length + 1) [] n.text))
  | parseLineage r n => r.analyses p [n]

/-- The pipeline after a row of calls. -/
def applyAll (p : Pipeline) (calls : List Call) : Pipeline :=
  calls.foldl apply p

/-- The analyses that a row of calls comes to. -/
def analysesAll (p : Pipeline) : List Call → List Analysis
  | [] => []
  | c :: calls => c.analyses p ++ analysesAll (c.apply p) calls

/-- A call amounts to analyzing some assets one after another. -/
theorem exists_apply_eq (p : Pipeline) (c : Call) : ∃ (r : Resolver) (order : List String),
    c.apply p = r.attemptAll p order ∧ c.analyses p = r.analyses p order := by
  cases c with
  | columnLineage r n => exact ⟨r, _, (ordered_columnLineage r p n).2.1, rfl⟩
  | resolveAll r => exact ⟨r, _, (ordered_resolveAll r p).2.1, rfl⟩
  | parseLineage r n =>
    refine ⟨r, [n], ?_, rfl⟩
    rw [apply, run_parseInPlace]
    show _ = r.attempt p n
    rw [attempt]
    cases r.parseLineage p n <;> rfl

theorem selfFree_of_applyAll (h : (applyAll p calls).SelfFree) : p.SelfFree := by
  induction calls generalizing p with
  | nil => exact h
  | cons c calls ih =>
    obtain ⟨r, order, happly, -⟩ := exists_apply_eq p c
    have hfirst : (c.apply p).SelfFree := ih h
    exact selfFree_of_attemptAll (happly ▸ hfirst)

theorem selfFree_apply (h : p.SelfFree) :
    (c.apply p).SelfFree ↔ ∀ x ∈ c.analyses p, ¬ x.SelfSourced := by
  obtain ⟨r, order, happly, hanalyses⟩ := exists_apply_eq p c
  rw [happly, hanalyses, selfFree_attemptAll h]

theorem selfFree_applyAll_iff (h : p.SelfFree) :
    (applyAll p calls).SelfFree ↔ ∀ x ∈ analysesAll p calls, ¬ x.SelfSourced := by
  induction calls generalizing p with
  | nil => simpa [analysesAll, applyAll] using h
  | cons c calls ih =>
    rw [analysesAll, List.forall_mem_append, ← selfFree_apply h]
    constructor
    · intro hfree
      have hfirst := selfFree_of_applyAll (p := c.apply p) hfree
      exact ⟨hfirst, (ih hfirst).mp hfree⟩
    · rintro ⟨hfirst, hrest⟩
      exact (ih hfirst).mpr hrest

/-- **When assets are never their own source**: after a row of calls, no asset has an edge to itself
just if none became its own source in one of the analyses on the way. To become so, it must take
over columns of itself, or make a column from a table of its name in other case, and its SQL must
refer to such a table. Only an asset with columns can take over its own, and only if it is resolved
alone. -/
theorem selfFree_applyAll (p : Pipeline) (h : p.SelfFree) (calls : List Call) :
    ((applyAll p calls).SelfFree ↔ ∀ x ∈ analysesAll p calls, ¬ x.SelfSourced) ∧
    (∀ x : Analysis, x.SelfSourced → x.resolver.analyze = Sql.columnLineage →
      ∃ a, x.pipeline.asset? x.asset = some a ∧ ∃ w ∈ a.freeTables,
        (x.resolver.schemaFor x.pipeline a).registered w = a.name.text ∨
        Text.lower ((x.resolver.schemaFor x.pipeline a).registered w) = a.name.text) ∧
    (∀ q, ∀ c : Call, (∀ r n, c ≠ parseLineage r n) → ∀ x ∈ c.analyses q, ∀ a lineage,
      x.Merges a lineage → ¬ a.TakesOverItself lineage) := by
  refine ⟨selfFree_applyAll_iff h, ?_, ?_⟩
  · rintro x ⟨a, lineage, hmerges, hself⟩ hanalyze
    exact ⟨a, hmerges.asset_eq, hmerges.exists_freeTable hanalyze hself⟩
  · intro q c hc x hx a lineage hmerges
    cases c with
    | columnLineage r n => exact (ordered_columnLineage r q n).1.not_takesOverItself hx hmerges
    | resolveAll r => exact (ordered_resolveAll r q).1.not_takesOverItself hx hmerges
    | parseLineage r n => exact absurd rfl (hc r n)

/-- Events with a declared column, which are read from themselves. -/
def eventLog : Pipeline where
  config := { name := "shop" }
  root := "."
  assets := [
    { name := ⟨"events", by decide⟩, type := "duckdb.sql", sql := "select * from events",
      columns := [{ name := "id", type := "integer" }] }]
  unique := List.nodup_singleton _

/-- The events are known beforehand, so that each of their columns is referred to by its name. -/
theorem events_known_beforehand : eventLog.SelfFree ∧
    ∀ x ∈ analysesAll eventLog
      [resolveAll {}, parseLineage (({} : Resolver).addColumns eventLog) "events"],
      ¬ x.SelfSourced := by
  have hfree : eventLog.SelfFree := by decide +kernel
  have hafter : (applyAll eventLog
      [resolveAll {}, parseLineage (({} : Resolver).addColumns eventLog) "events"]).SelfFree := by
    decide +kernel
  exact ⟨hfree, (selfFree_applyAll eventLog hfree _).1.mp hafter⟩

/-- **An asset that becomes its own source**: if nothing is known beforehand, the events take over
all columns of themselves. -/
theorem events_from_themselves : eventLog.SelfFree ∧
    ¬ (applyAll eventLog [parseLineage {} "events"]).SelfFree := by
  constructor
  · decide +kernel
  · decide +kernel

end Call

end AssetFlow
