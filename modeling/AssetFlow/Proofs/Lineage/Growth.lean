import AssetFlow.Proofs.Lineage.Known
import AssetFlow.Proofs.Lineage.Merge

/-!
# Resolving one asset only adds

Each contribution to the columns of an asset adds edges to a column that is there or a column at the
end (`Column.Grown.merge`), and so does a lineage. An asset is resolved on a copy of it, so that the
pipeline stays as it is if one of the contributions has no name.

## Main definitions

- `Column.Extends`: a column has got edges behind those that it had
- `Column.Grown`: a row of columns has got edges, and new columns behind those that were there
- `Pipeline.Adds`: what an output adds to the columns of an asset
- `Resolver.Refuses`: why an asset cannot be resolved

## Main statements

- `Resolver.parseInPlace_adds_only`: what becomes of a pipeline when one of its assets is resolved
-/

namespace AssetFlow

open Sql (Output)

/-! ### Edges -/

namespace Provenance

variable {p : Provenance} {e : ColumnEdge}

/-- No two edges go to the same column. -/
def Distinct (p : Provenance) : Prop :=
  (p.map fun e => (e.asset, e.column)).Nodup

/-- An edge is appended or was there. -/
theorem push_eq_append (p : Provenance) (e : ColumnEdge) :
    ∃ added, p.push e = p ++ added ∧ (p.Distinct → Distinct (p ++ added)) := by
  rw [push]
  split
  · exact ⟨[], (List.append_nil p).symm, fun h => by rwa [List.append_nil]⟩
  · next hnew =>
    refine ⟨[e], rfl, fun h => ?_⟩
    rw [Distinct, List.map_append]
    refine List.nodup_append.mpr ⟨h, List.nodup_singleton _, fun x hx y hy => ?_⟩
    obtain ⟨e', he', rfl⟩ := List.mem_map.mp hx
    obtain rfl : y = (e.asset, e.column) := by simpa using hy
    rintro heq
    obtain ⟨hasset, hcolumn⟩ := Prod.mk.inj heq
    exact hnew (List.any_eq_true.mpr ⟨e', he', by simp [hasset, hcolumn]⟩)

end Provenance

theorem Asset.isSome_column?_iff {a : Asset} {n : String} :
    (a.column? n).isSome ↔ n ∈ a.columns.map Column.name := by
  rw [Asset.column?, List.find?_isSome, List.mem_map]
  simp only [beq_iff_eq]

namespace Column

variable {c c' c'' : Column} {old grown added now : List Column} {a b : Asset} {x : Contribution}

/-- A column has got edges behind those that it had, and is the same otherwise. If its edges went to
different columns, they still do. -/
def Extends (c c' : Column) : Prop :=
  ∃ added, c' = { c with provenance := c.provenance ++ added } ∧
    (c.provenance.Distinct → c'.provenance.Distinct)

theorem Extends.refl (c : Column) : c.Extends c :=
  ⟨[], by rw [List.append_nil], id⟩

/-- Extending twice is extending. -/
theorem Extends.trans (h : c.Extends c') (h' : c'.Extends c'') : c.Extends c'' := by
  obtain ⟨added, rfl, hdistinct⟩ := h
  obtain ⟨added', rfl, hdistinct'⟩ := h'
  exact ⟨added ++ added', by rw [List.append_assoc], hdistinct' ∘ hdistinct⟩

/-- A column that is extended keeps its name. -/
theorem Extends.name_eq (h : c.Extends c') : c'.name = c.name := by
  obtain ⟨added, rfl, -⟩ := h
  rfl

/-- A contribution adds at most an edge to a column that is there. -/
theorem extends_extend (x : Contribution) (c : Column) : c.Extends (x.extend (some c)) := by
  rw [Contribution.extend]
  cases x.upstream with
  | none => exact Extends.refl c
  | some u =>
    obtain ⟨added, hpush, hdistinct⟩ := c.provenance.push_eq_append ⟨u, x.source.name, u⟩
    refine ⟨added, ?_, fun h => ?_⟩
    · dsimp only
      rw [hpush]
    · dsimp only
      exact hpush ▸ hdistinct h

/-- Updating the columns of a name extends each column of the row. -/
theorem forall₂_extends_go {name : String} {f : Column → Column} (hf : ∀ c, Extends c (f c))
    (cs : List Column) : List.Forall₂ Extends cs (Asset.updateColumn.go name f cs) := by
  induction cs with
  | nil => exact .nil
  | cons c cs ih =>
    rw [Asset.updateColumn.go]
    split
    · exact .cons (hf c) (List.forall₂_same.mpr fun c _ => Extends.refl c)
    · exact .cons (Extends.refl c) ih

theorem forall₂_extends_trans (h : List.Forall₂ Extends old grown)
    (h' : List.Forall₂ Extends grown now) : List.Forall₂ Extends old now := by
  induction h generalizing now with
  | nil => exact h'
  | cons hc _ ih =>
    cases h' with
    | cons hc' h' => exact .cons (hc.trans hc') (ih h')

/-- Columns that are extended keep their names, in order. -/
theorem map_name_of_forall₂ (h : List.Forall₂ Extends old grown) :
    grown.map name = old.map name := by
  induction h with
  | nil => rfl
  | cons hc _ ih => rw [List.map_cons, List.map_cons, ih, hc.name_eq]

/-- Every column of an extended row extends one that was there. -/
theorem exists_extends_of_mem (h : List.Forall₂ Extends old grown) (hc : c' ∈ grown) :
    ∃ c ∈ old, c.Extends c' := by
  induction h with
  | nil => cases hc
  | cons hd _ ih =>
    rcases List.mem_cons.mp hc with rfl | hc
    · exact ⟨_, List.mem_cons_self .., hd⟩
    · obtain ⟨c, hc, hextends⟩ := ih hc
      exact ⟨c, List.mem_cons_of_mem _ hc, hextends⟩

/-! ### Columns -/

/-- What `grown ++ added` has that has come about by adding to `old`: first stand the columns that
were there, with edges behind those that they had, then new columns, each of a name of its own. -/
structure GrownBy (old grown added : List Column) : Prop where
  kept : List.Forall₂ Extends old grown
  named : ∀ c ∈ added, c.name ≠ "" ∧ c.name ≠ "*"
  fresh : ∀ c ∈ added, c.name ∉ old.map name
  once : (added.map name).Nodup
  distinct : ∀ c ∈ added, c.provenance.Distinct

/-- A row of columns has come about by adding edges and columns to another one. -/
def Grown (old now : List Column) : Prop :=
  ∃ grown added, now = grown ++ added ∧ GrownBy old grown added

theorem Grown.refl (old : List Column) : Grown old old := by
  refine ⟨old, [], (List.append_nil old).symm, ?_⟩
  constructor
  case kept => exact List.forall₂_same.mpr fun c _ => Extends.refl c
  all_goals simp

/-- Edges are added to any of the columns. -/
theorem Grown.extend (h : Grown old now) {later : List Column}
    (hlater : List.Forall₂ Extends now later) : Grown old later := by
  obtain ⟨grown, added, rfl, hgrown⟩ := h
  have hkept := (List.forall₂_take_append _ _ _ hlater.flip).flip
  have hadded := (List.forall₂_drop_append _ _ _ hlater.flip).flip
  refine ⟨later.take grown.length, later.drop grown.length, (List.take_append_drop ..).symm, ?_⟩
  constructor
  case kept => exact forall₂_extends_trans hgrown.kept hkept
  case once => exact map_name_of_forall₂ hadded ▸ hgrown.once
  case named =>
    intro c hc
    obtain ⟨c', hc', hextends⟩ := exists_extends_of_mem hadded hc
    exact hextends.name_eq ▸ hgrown.named c' hc'
  case fresh =>
    intro c hc
    obtain ⟨c', hc', hextends⟩ := exists_extends_of_mem hadded hc
    exact hextends.name_eq ▸ hgrown.fresh c' hc'
  case distinct =>
    intro c hc
    obtain ⟨c', hc', added, rfl, hdistinct⟩ := exists_extends_of_mem hadded hc
    exact hdistinct (hgrown.distinct c' hc')

/-- A column of a new name is added at the end. -/
theorem Grown.concat (h : Grown old now) (hempty : c.name ≠ "") (hstar : c.name ≠ "*")
    (hfresh : c.name ∉ now.map name) (hdistinct : c.provenance.Distinct) :
    Grown old (now ++ [c]) := by
  obtain ⟨grown, added, rfl, hgrown⟩ := h
  rw [List.map_append, map_name_of_forall₂ hgrown.kept, List.mem_append, not_or] at hfresh
  have hadded : ∀ {P : Column → Prop}, (∀ d ∈ added, P d) → P c → ∀ d ∈ added ++ [c], P d :=
    fun hP hc => List.forall_mem_append.mpr ⟨hP, List.forall_mem_singleton.mpr hc⟩
  refine ⟨grown, added ++ [c], List.append_assoc .., ?_⟩
  constructor
  case kept => exact hgrown.kept
  case named => exact hadded hgrown.named ⟨hempty, hstar⟩
  case fresh => exact hadded hgrown.fresh hfresh.1
  case distinct => exact hadded hgrown.distinct hdistinct
  case once =>
    rw [List.map_append]
    refine List.nodup_append.mpr ⟨hgrown.once, List.nodup_singleton _, fun n hn m hm => ?_⟩
    obtain rfl : m = c.name := by simpa using hm
    rintro rfl
    exact hfresh.2 hn

/-! ### Contributions -/

/-- A new column has no edge twice if its source has none. -/
theorem distinct_extend_none (hsource : x.upstream = none → x.source.provenance.Distinct) :
    (x.extend none).provenance.Distinct := by
  rw [Contribution.extend]
  cases hup : x.upstream with
  | none => exact hsource hup
  | some u => exact List.nodup_singleton _

/-- A contribution adds edges to a column, or a column. -/
theorem Grown.merge (h : Grown old a.columns) (hb : a.merge x = .ok b)
    (hsource : x.upstream = none → x.source.provenance.Distinct) : Grown old b.columns := by
  rw [Asset.merge_eq] at hb
  split at hb
  · cases hb
  · next hempty =>
    split at hb
    · obtain rfl := Except.ok.inj hb
      exact h
    · next hstar =>
      split at hb
      · obtain rfl := Except.ok.inj hb
        exact h.extend (forall₂_extends_go (extends_extend x) _)
      · next hnew =>
        obtain rfl := Except.ok.inj hb
        have hname : (x.extend none).name = x.name := Asset.name_extend_none
        refine h.concat (hname ▸ hempty) (hname ▸ hstar) ?_ (distinct_extend_none hsource)
        exact hname ▸ mt Asset.isSome_column?_iff.mpr hnew

/-- Merging contributions adds edges and columns and takes nothing away. -/
theorem Grown.foldlM_merge {xs : List Contribution} (h : Grown old a.columns)
    (hb : xs.foldlM Asset.merge a = .ok b)
    (hsource : ∀ x ∈ xs, x.upstream = none → x.source.provenance.Distinct) :
    Grown old b.columns := by
  induction xs generalizing a with
  | nil =>
    obtain rfl := Except.ok.inj hb
    exact h
  | cons x xs ih =>
    rw [List.foldlM_cons] at hb
    obtain ⟨a', hx, hxs⟩ := exists_of_bind_eq_ok hb
    obtain ⟨hsource, hrest⟩ := List.forall_mem_cons.mp hsource
    exact ih (h.merge hx hsource) hxs hrest

end Column

namespace Asset

variable {a : Asset} {x : Contribution} {xs : List Contribution} {e : LineageError}

/-- A contribution is refused exactly if it has no name. -/
theorem merge_eq_error_iff : a.merge x = .error e ↔
    e = .invalidArguments s!"empty column name for asset '{a.name}'" ∧ x.name = "" := by
  rw [merge_eq]
  split
  · next hx => simp [hx, eq_comm]
  · next hx =>
    refine iff_of_false ?_ fun h => hx h.2
    split
    · nofun
    · split <;> nofun

/-- The only fault of merging is a contribution without a name. -/
theorem foldlM_merge_eq_error_iff : xs.foldlM merge a = .error e ↔
    e = .invalidArguments s!"empty column name for asset '{a.name}'" ∧ ∃ x ∈ xs, x.name = "" := by
  induction xs generalizing a with
  | nil => simp [pure, Except.pure]
  | cons x xs ih =>
    rw [List.foldlM_cons, List.exists_mem_cons_iff]
    cases hx : a.merge x with
    | error e' =>
      obtain ⟨rfl, hname⟩ := merge_eq_error_iff.mp hx
      simp only [hname, true_or, and_true, bind, Except.bind, Except.error.injEq, eq_comm]
    | ok a' =>
      have hname : x.name ≠ "" := fun hname => by
        rw [merge_eq_error_iff.mpr ⟨rfl, hname⟩] at hx
        cases hx
      refine ih.trans ?_
      rw [(merge_eq_ok hx).1]
      simp [hname]

end Asset

/-! ### One asset of a pipeline -/

namespace Pipeline

variable {p : Pipeline} {self : String} {o : Output} {lineage : List Output} {x : Contribution}

/-- What an output adds to the columns of the asset `self`: all columns of an asset, a column
that is computed from a table that is no asset, or one that is computed from a column of another
asset. -/
inductive Adds (p : Pipeline) (self : String) (o : Output) : Contribution → Prop
  | passed {r : Sql.ColumnRef} {up : Asset} {c : Column} (hwildcard : o.name = "*")
      (hr : r ∈ o.sources) (hstar : r.column = "*") (hup : p.asset? r.table = some up)
      (hc : c ∈ up.columns) : Adds p self o ⟨c.name, some up.name.text, c⟩
  | external {r : Sql.ColumnRef} (hnamed : o.name ≠ "*") (hr : r ∈ o.sources)
      (hcolumn : r.column ≠ "*") (hother : r.table ≠ self) (hnone : p.asset? r.table = none) :
      Adds p self o ⟨o.name, none, externalColumn r⟩
  | derived {r : Sql.ColumnRef} {up : Asset} (hnamed : o.name ≠ "*") (hr : r ∈ o.sources)
      (hcolumn : r.column ≠ "*") (hother : r.table ≠ self) (hup : p.asset? r.table = some up) :
      Adds p self o ⟨o.name, some up.name.text, p.sourceColumn up r⟩

/-- The contributions of an output are those that it adds. -/
theorem mem_outputContributions_iff : x ∈ p.outputContributions self o ↔ p.Adds self o x := by
  rw [outputContributions, Output.isWildcard]
  constructor
  · intro hx
    split at hx
    · next hwildcard =>
      obtain ⟨r, hr, hx⟩ := List.mem_flatMap.mp hx
      rw [wildcardContributions] at hx
      split at hx
      · cases hx
      · next hstar =>
        split at hx
        · cases hx
        · next up hup =>
          obtain ⟨c, hc, rfl⟩ := List.mem_map.mp hx
          exact .passed (beq_iff_eq.mp hwildcard) hr (by simpa using hstar) hup hc
    · next hnamed =>
      obtain ⟨r, hr, hx⟩ := List.mem_flatMap.mp hx
      rw [referenceContributions] at hx
      split at hx
      · cases hx
      · next hcolumn =>
        obtain ⟨hcolumn, hother⟩ : r.column ≠ "*" ∧ r.table ≠ self := by simpa using hcolumn
        split at hx
        · next hnone =>
          obtain rfl := List.mem_singleton.mp hx
          exact .external (mt beq_iff_eq.mpr hnamed) hr hcolumn hother hnone
        · next up hup =>
          obtain rfl := List.mem_singleton.mp hx
          exact .derived (mt beq_iff_eq.mpr hnamed) hr hcolumn hother hup
  · rintro (⟨hwildcard, hr, hstar, hup, hc⟩ | ⟨hnamed, hr, hcolumn, hother, hnone⟩ |
      ⟨hnamed, hr, hcolumn, hother, hup⟩)
    · rw [if_pos (beq_iff_eq.mpr hwildcard)]
      refine List.mem_flatMap.mpr ⟨_, hr, ?_⟩
      rw [wildcardContributions, hstar, hup]
      exact List.mem_map_of_mem hc
    · rw [if_neg (mt beq_iff_eq.mp hnamed)]
      refine List.mem_flatMap.mpr ⟨_, hr, ?_⟩
      simp [referenceContributions, hcolumn, hother, hnone]
    · rw [if_neg (mt beq_iff_eq.mp hnamed)]
      refine List.mem_flatMap.mpr ⟨_, hr, ?_⟩
      simp [referenceContributions, hcolumn, hother, hup]

/-- Each contribution of a lineage is added by one of its outputs. -/
theorem mem_contributions_iff :
    x ∈ p.contributions self lineage ↔ ∃ o ∈ lineage, p.Adds self o x := by
  simp only [contributions, List.mem_flatMap, mem_outputContributions_iff]

/-- The columns of tables that are no assets, which columns may be made from, have one edge. -/
theorem distinct_of_mem_contributions (hx : x ∈ p.contributions self lineage)
    (hup : x.upstream = none) : x.source.provenance.Distinct := by
  obtain ⟨o, -, hadds⟩ := mem_contributions_iff.mp hx
  cases hadds with
  | passed => cases hup
  | external => exact List.nodup_singleton _
  | derived => cases hup

end Pipeline

namespace Resolver

variable {r : Resolver} {p : Pipeline} {a b : Asset} {n : String} {e : LineageError}
  {lineage : List Output} {xs : List Contribution}

/-- Why an asset cannot be resolved: there is no such asset, its type has no dialect, its SQL cannot
be analyzed, or something is computed from it for a column without a name. -/
inductive Refuses (r : Resolver) (p : Pipeline) (n : String) : LineageError → Prop
  | unknownAsset (hasset : p.asset? n = none) : Refuses r p n (.assetNotFound n)
  | unknownDialect {a : Asset} (hasset : p.asset? n = some a)
      (hdialect : Sql.Dialect.ofAssetType? a.type = none) :
      Refuses r p n (.parse n (.unknownDialect a.type))
  | analysis {a : Asset} {d : Sql.Dialect} {e : Sql.SqlError} (hasset : p.asset? n = some a)
      (hdialect : Sql.Dialect.ofAssetType? a.type = some d)
      (hlineage : r.analyze d (r.schemaFor p a) a.sql = .error e) : Refuses r p n (.parse n e)
  | emptyName {a : Asset} {d : Sql.Dialect} {lineage : List Output} {x : Contribution}
      (hasset : p.asset? n = some a) (hdialect : Sql.Dialect.ofAssetType? a.type = some d)
      (hlineage : r.analyze d (r.schemaFor p a) a.sql = .ok lineage)
      (hx : x ∈ p.contributions n lineage) (hname : x.name = "") :
      Refuses r p n (.invalidArguments s!"empty column name for asset '{n}'")

theorem run_parseInPlace : (r.parseInPlace n).run.run p = match r.parseLineage p n with
    | .ok q => (.ok (), q)
    | .error e => (.error e, p) := by
  have hget : (get : ExceptT LineageError (StateM Pipeline) Pipeline).run.run p = (.ok p, p) := rfl
  rw [parseInPlace, run_bind, hget, parseLineage]
  dsimp only
  cases p.asset? n with
  | none => rfl
  | some a =>
    refine (run_bind _ _ p).trans ?_
    dsimp only
    cases r.derive p a <;> rfl

theorem derive_eq : r.derive p a = match Sql.Dialect.ofAssetType? a.type with
    | none => .error (.parse a.name.text (.unknownDialect a.type))
    | some d => match r.analyze d (r.schemaFor p a) a.sql with
      | .error e => .error (.parse a.name.text e)
      | .ok lineage => (p.contributions a.name.text lineage).foldlM Asset.merge a := by
  rw [derive]
  cases Sql.Dialect.ofAssetType? a.type with
  | none => rfl
  | some d =>
    dsimp only
    cases r.analyze d (r.schemaFor p a) a.sql with
    | error e => rfl
    | ok lineage => exact Pipeline.mergeLineage_eq

/-- Columns cannot be derived exactly if the asset is refused, with the same error. -/
theorem derive_eq_error_iff (ha : p.asset? n = some a) :
    r.derive p a = .error e ↔ r.Refuses p n e := by
  obtain ⟨-, rfl⟩ := Pipeline.asset?_eq_some ha
  rw [derive_eq]
  constructor
  · intro h
    split at h
    · next hd =>
      obtain rfl := Except.error.inj h
      exact .unknownDialect ha hd
    · next d hd =>
      split at h
      · next hl =>
        obtain rfl := Except.error.inj h
        exact .analysis ha hd hl
      · next lineage hl =>
        obtain ⟨rfl, x, hx, hname⟩ := Asset.foldlM_merge_eq_error_iff.mp h
        exact .emptyName ha hd hl hx hname
  · rintro (hnone | ⟨ha', hd⟩ | ⟨ha', hd, hl⟩ | ⟨ha', hd, hl, hx, hname⟩)
    · rw [ha] at hnone
      cases hnone
    all_goals obtain rfl := Option.some.inj (ha.symm.trans ha')
    · simp only [hd]
    · simp only [hd, hl]
    · simp only [hd, hl]
      exact Asset.foldlM_merge_eq_error_iff.mpr ⟨rfl, _, hx, hname⟩

/-- An analysis fails exactly if the asset is refused, with the same error. -/
theorem parseLineage_eq_error_iff : r.parseLineage p n = .error e ↔ r.Refuses p n e := by
  cases ha : p.asset? n with
  | none =>
    rw [parseLineage, ha]
    constructor
    · intro h
      obtain rfl := Except.error.inj h
      exact .unknownAsset ha
    · rintro (_ | ⟨ha', -⟩ | ⟨ha', -⟩ | ⟨ha', -⟩)
      · rfl
      all_goals simp [ha] at ha'
  | some a =>
    rw [parseLineage_of_asset? ha, ← derive_eq_error_iff ha]
    cases r.derive p a <;> simp [Except.map]

/-- The columns that an asset is given are its own, with what the SQL adds. -/
theorem exists_grown_of_parseLineage {q : Pipeline} (h : r.parseLineage p n = .ok q) :
    ∃ a columns, p.asset? n = some a ∧ Column.Grown a.columns columns ∧
      q = p.updateAsset n fun b => { b with columns } := by
  cases ha : p.asset? n with
  | none =>
    rw [parseLineage, ha] at h
    cases h
  | some a =>
    rw [parseLineage_of_asset? ha] at h
    cases hb : r.derive p a with
    | error e =>
      rw [hb] at h
      cases h
    | ok b =>
      rw [hb] at h
      obtain ⟨d, lineage, -, -, hmerge⟩ := derive_eq_ok hb
      rw [Pipeline.mergeLineage_eq] at hmerge
      refine ⟨a, b.columns, rfl, ?_, (Except.ok.inj h).symm⟩
      exact (Column.Grown.refl _).foldlM_merge hmerge fun x hx hup =>
        Pipeline.distinct_of_mem_contributions hx hup

/-- **Resolving an asset of a pipeline only adds, or does nothing**: if it fails, the pipeline is as
it was. Otherwise one asset has got other columns: behind the edges of its columns stand new edges,
and behind its columns stand new columns. -/
theorem parseInPlace_adds_only (r : Resolver) (p : Pipeline) (n : String) :
    let found := (r.parseInPlace n).run.run p
    (∀ e, found.1 = .error e ↔ r.Refuses p n e) ∧
    (∀ e, found.1 = .error e → found.2 = p) ∧
    (found.1 = .ok () → ∃ a columns, p.asset? n = some a ∧ Column.Grown a.columns columns ∧
      found.2.config = p.config ∧ found.2.root = p.root ∧
      found.2.assets = p.assets.map fun b => if b.name.text = n then { b with columns } else b) := by
  simp only [run_parseInPlace, ← parseLineage_eq_error_iff]
  cases hfound : r.parseLineage p n with
  | error e => simp
  | ok q =>
    obtain ⟨a, columns, ha, hgrown, rfl⟩ := exists_grown_of_parseLineage hfound
    refine ⟨by simp, nofun, fun _ => ⟨a, columns, ha, hgrown, rfl, rfl, ?_⟩⟩
    refine List.map_congr_left fun b _ => ?_
    by_cases hname : b.name.text = n <;> simp [hname]

end Resolver

end AssetFlow
