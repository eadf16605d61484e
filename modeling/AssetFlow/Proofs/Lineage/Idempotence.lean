import AssetFlow.Proofs.Lineage.LoadOrder

/-!
# Resolving twice

Resolving a pipeline that is resolved changes nothing. The assets that have got columns are left
alone; those that have not are analyzed again, and what they are analyzed with is what it was the
first time (`Resolver.Analyzes.derived_again`): their upstreams do not change after them, and they
read nothing else. Only types that are searched for along further upstreams may be found now that
were not found before, and these make no column of their own.

## Main definitions

- `Resolver.namedTables`: the tables that the analyzer names for the SQL of an asset
- `Resolver.ListsNamed`: each asset lists the other assets that the analyzer names for its SQL

## Main statements

- `Resolver.resolveAll_resolved`: resolving a resolved pipeline leaves it as it is
-/

namespace AssetFlow

open Relation

namespace Pipeline

variable {p : Pipeline} {a : Asset} {n : String}

/-- Giving an asset the columns that it has changes nothing. -/
theorem updateAsset_columns (ha : p.asset? n = some a) :
    (p.updateAsset n fun b => { b with columns := a.columns }) = p := by
  refine mapAssets_of_fixed fun b hb => ?_
  by_cases hname : b.name.text = n
  · subst hname
    obtain rfl := Option.some.inj (ha.symm.trans (asset?_of_mem hb))
    simp
  · simp [hname]

end Pipeline

namespace Resolver

variable {r : Resolver} {p q : Pipeline} {a : Asset} {n m : String}
  {roots order before after : List String}

/-- The tables that the analyzer names for the SQL of an asset, with what is known of its
upstreams. -/
def namedTables (r : Resolver) (p : Pipeline) (a : Asset) : List String :=
  match Sql.Dialect.ofAssetType? a.type with
  | none => []
  | some d =>
    match r.analyze d (r.schemaFor p a) a.sql with
    | .error _ => []
    | .ok lineage => lineage.flatMap fun o => o.sources.map (·.table)

/-- Each asset lists the other assets among its upstreams that the analyzer names for its SQL, with
what is known of its upstreams in `q`. -/
def ListsNamed (r : Resolver) (p q : Pipeline) : Prop :=
  ∀ a ∈ p.assets, ∀ n ∈ p.names, n.text ∈ r.namedTables q a → n ≠ a.name → n ∈ a.upstreams

instance (r : Resolver) (p q : Pipeline) : Decidable (r.ListsNamed p q) :=
  inferInstanceAs (Decidable (∀ a ∈ p.assets, ∀ n ∈ p.names, _))

theorem mem_namedTables {d : Sql.Dialect} {lineage : List Sql.Output} {o : Sql.Output}
    {c : Sql.ColumnRef} (hd : Sql.Dialect.ofAssetType? a.type = some d)
    (hlineage : r.analyze d (r.schemaFor p a) a.sql = .ok lineage) (ho : o ∈ lineage)
    (hc : c ∈ o.sources) : c.table ∈ r.namedTables p a := by
  simp only [namedTables, hd, hlineage]
  exact List.mem_flatMap.mpr ⟨o, ho, List.mem_map_of_mem hc⟩

/-- An asset stays as it is if it is left with the columns that it has. -/
theorem attempt_of_derived (ha : p.asset? n = some a) (h : r.derived p a = a.columns) :
    r.attempt p n = p := by
  rw [attempt, parseLineage_of_asset? ha]
  rw [derived] at h
  cases hfound : r.derive p a with
  | error e => rfl
  | ok found =>
    rw [hfound] at h
    dsimp only [Except.map] at h ⊢
    rw [h, Pipeline.updateAsset_columns ha]

theorem attemptAll_of_fixed (h : ∀ n ∈ order, r.attempt p n = p) : r.attemptAll p order = p := by
  induction order with
  | nil => rfl
  | cons n order ih =>
    obtain ⟨hn, horder⟩ := List.forall_mem_cons.mp h
    rw [attemptAll_cons, hn, ih horder]

namespace Analyzes

/-- What has no columns after all had none before. -/
theorem unresolved_of_result (h : Analyzes p roots order)
    (hn : (r.attemptAll p order).Unresolved n) : p.Unresolved n := by
  by_cases hmem : n ∈ order
  · exact (h.reached n hmem).1
  · obtain ⟨a, ha, hcolumns⟩ := hn
    exact ⟨a, asset?_attemptAll_of_not_mem hmem ▸ ha, hcolumns⟩

theorem awaits_of_result (h : Analyzes p roots order)
    (hn : (r.attemptAll p order).Awaits n m) : p.Awaits n m := by
  obtain ⟨b, hb, hcolumns, hm, hopen⟩ := hn
  obtain ⟨a, ha, houtline⟩ := asset?_outline hb
  obtain ⟨a', ha', hempty⟩ := h.unresolved_of_result ⟨b, hb, hcolumns⟩
  obtain rfl := Option.some.inj (ha.symm.trans ha')
  have hups : a.upstreams = b.upstreams := (congrArg Asset.upstreams houtline :)
  exact ⟨a, ha, hempty, hups ▸ hm, h.unresolved_of_result hopen⟩

theorem reachesCycle_of_result (h : Analyzes p roots order)
    (hn : (r.attemptAll p order).ReachesCycle n) : p.ReachesCycle n := by
  obtain ⟨m, hreach, hcycle⟩ := hn
  exact ⟨m, ReflTransGen.mono (fun _ _ => h.awaits_of_result) _ _ hreach,
    TransGen.mono (fun _ _ => h.awaits_of_result) _ _ hcycle⟩

/-- What an asset reads is the same when it is analyzed and after all, if it is left without
columns. -/
theorem meansAlike_again (h : Analyzes p roots (before ++ a.name.text :: after))
    (ha : p.asset? a.name.text = some a)
    (hlists : r.ListsNamed p (r.attemptAll p (before ++ a.name.text :: after)))
    (hempty : r.derived (r.attemptAll p before) a = a.columns) {x : Sql.ColumnRef}
    (hx : x.table ∈ r.namedTables (r.attemptAll p (before ++ a.name.text :: after)) a) :
    Pipeline.MeansAlike (fun _ => "") (r.attemptAll p before)
      (r.attemptAll p (before ++ a.name.text :: after)) a.name.text x := by
  have hasset : (r.attemptAll p before).asset? x.table =
      (r.attemptAll p (before ++ a.name.text :: after)).asset? x.table := by
    by_cases hself : x.table = a.name.text
    · rw [hself, h.asset?_fresh, h.asset?_result ha, ha, hempty]
    · refine asset?_before fun hlate => ?_
      obtain ⟨hopen, -⟩ := h.reached _ (List.mem_append_right _ hlate)
      obtain ⟨b, hb, -⟩ := hopen
      obtain ⟨n, hn, hname⟩ := List.mem_map.mp (Pipeline.text_mem_names_of_asset? hb)
      have hother : n ≠ a.name := fun heq => hself (heq ▸ hname.symm)
      have hup := hlists a (Pipeline.asset?_eq_some ha).1 n hn (hname ▸ hx) hother
      exact h.settled ha (hname ▸ List.mem_map_of_mem hup) hlate
  constructor
  case asset => rw [hasset]
  case source =>
    intro _ up up' hup hup'
    obtain rfl := Option.some.inj (hup.symm.trans (hasset.trans hup'))
    exact Pipeline.sourceColumn_congr rfl (.inl fun _ _ => rfl)

/-- An asset that is left without columns gets none when it is analyzed again. -/
theorem derived_again (h : Analyzes p roots order) (hlists : r.ListsNamed p (r.attemptAll p order))
    (ha : (r.attemptAll p order).asset? n = some a) (hempty : a.columns = []) (hn : n ∈ order) :
    r.derived (r.attemptAll p order) a = [] := by
  obtain ⟨⟨b, hb, hcolumns⟩, -⟩ := h.reached n hn
  obtain ⟨-, rfl⟩ := Pipeline.asset?_eq_some hb
  obtain ⟨before, after, rfl⟩ := List.append_of_mem hn
  have hresult := Option.some.inj ((h.asset?_result hb).symm.trans ha)
  have hderived : r.derived (r.attemptAll p before) b = b.columns := by
    rw [hcolumns, ← hempty, ← hresult]
  obtain rfl : b = a := by rw [← hresult, hderived]
  have hagain : (r.derived (r.attemptAll p before) b).map (Column.retype fun _ => "") =
      (r.derived (r.attemptAll p (before ++ b.name.text :: after)) b).map
        (Column.retype fun _ => "") :=
    derived_congr (fun d => by rw [h.schemaFor_eq hb]) fun d lineage hd hlineage o ho x hx =>
      h.meansAlike_again hb hlists hderived
        (mem_namedTables hd (h.schemaFor_eq (r := r) hb ▸ hlineage) ho hx)
  rw [hderived, hcolumns, List.map_nil] at hagain
  exact List.map_eq_nil_iff.mp hagain.symm

end Analyzes

/-- **Resolving twice is resolving once**: if all assets are resolved, resolving them again comes to
an end as well and leaves the pipeline exactly as it is, whatever the analyzer and the columns known
beforehand are. Each asset must list the other assets that the analyzer names for its SQL. -/
theorem resolveAll_resolved (r : Resolver) (p : Pipeline)
    (hlists : r.ListsNamed p (r.resolveAll p).2) (hok : (r.resolveAll p).1 = .ok ()) :
    r.resolveAll (r.resolveAll p).2 = (.ok (), (r.resolveAll p).2) := by
  obtain ⟨ho, hresult, hall⟩ := ordered_resolveAll r p
  generalize analyzedBy p _ = order at ho hresult hall
  rw [hresult] at hlists ⊢
  obtain ⟨ho', hresult', -⟩ := ordered_resolveAll r (r.attemptAll p order)
  generalize analyzedBy (r.attemptAll p order) _ = order' at ho' hresult'
  refine Prod.ext ?_ ?_
  · refine (failsOnCycles_resolveAll r _).ok_iff.mpr fun n hn hcycle => ?_
    rw [names_attemptAll] at hn
    exact (failsOnCycles_resolveAll r p).ok_iff.mp hok n hn (ho.reachesCycle_of_result hcycle)
  · rw [hresult']
    refine attemptAll_of_fixed fun n hn => ?_
    obtain ⟨⟨a, ha, hempty⟩, -⟩ := ho'.reached n hn
    have hmem := hall hok n (ho.unresolved_of_result ⟨a, ha, hempty⟩)
    exact attempt_of_derived ha ((ho.derived_again hlists ha hempty hmem).trans hempty.symm)

open SameAssets (reportFirst)

/-- The report and the feed get columns, the orders, which a script makes, do not and are analyzed
again. -/
theorem orders_unresolved_twice : ({} : Resolver).ListsNamed (reportFirst [])
      (({} : Resolver).resolveAll (reportFirst [])).2 ∧
    (({} : Resolver).resolveAll (reportFirst [])).1 = .ok () ∧
    (({} : Resolver).resolveAll (reportFirst [])).2.assets.map (·.columns.length) = [1, 0, 1] ∧
    ({} : Resolver).resolveAll (({} : Resolver).resolveAll (reportFirst [])).2 =
      (.ok (), (({} : Resolver).resolveAll (reportFirst [])).2) := by
  have hfirst : ({} : Resolver).ListsNamed (reportFirst [])
        (({} : Resolver).resolveAll (reportFirst [])).2 ∧
      (({} : Resolver).resolveAll (reportFirst [])).1 = .ok () ∧
      (({} : Resolver).resolveAll (reportFirst [])).2.assets.map (·.columns.length) = [1, 0, 1] := by
    decide +kernel
  obtain ⟨hlists, hok, hcolumns⟩ := hfirst
  exact ⟨hlists, hok, hcolumns, resolveAll_resolved {} (reportFirst []) hlists hok⟩

end Resolver

end AssetFlow
