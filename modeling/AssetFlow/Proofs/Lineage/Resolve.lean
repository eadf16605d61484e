import AssetFlow.Lineage.Resolve
import AssetFlow.Proofs.Lineage.Infer
import AssetFlow.Proofs.Run.Plan
import Mathlib.Data.List.Perm.Subperm

/-!
# How assets are resolved

`Resolver.Resolves` says what resolving a row of assets comes to, without any bound on how deep it
goes: each asset that needs it is resolved after its upstreams, and an asset that is met again on
the way to itself is a fault. `Resolver.resolve` keeps to it (`Resolver.resolves_forM`), because no
asset is on the way twice and its bound is never reached.

## Main definitions

- `Resolver.Resolves`: what resolving a row of assets comes to
- `Resolver.Progress.Tracks`: what a pipeline keeps while it is resolved

## Main statements

- `Resolver.Resolves.unique`: resolving comes to one result only
- `Resolver.resolves_forM`: the functions that resolve assets keep to it
- `Resolver.Resolves.tracks`: only the columns of assets without columns change
-/

namespace AssetFlow

/-- All of an asset but its columns. -/
def Asset.outline (a : Asset) : Asset :=
  { a with columns := [] }

namespace Pipeline

variable {p : Pipeline} {name n : String} {columns : List Column}

theorem asset?_mapAssets {f : Asset → Asset} :
    (p.mapAssets f).asset? n = (p.asset? n).map fun a => { f a with name := a.name } := by
  simp only [asset?, mapAssets, List.find?_map]
  rfl

/-- Updating an asset leaves those of other names alone. -/
theorem asset?_updateAsset_of_ne (hne : n ≠ name) :
    (p.updateAsset name fun a => { a with columns }).asset? n = p.asset? n := by
  rw [updateAsset, asset?_mapAssets]
  cases h : p.asset? n with
  | none => rfl
  | some a => simp [(asset?_eq_some h).2, hne]

/-- New columns do not show in the outline of an asset. -/
theorem outline_updateAsset : (p.updateAsset n fun a => { a with columns }).assets.map Asset.outline =
    p.assets.map Asset.outline := by
  simp only [updateAsset, mapAssets, List.map_map]
  refine List.map_congr_left fun a _ => ?_
  simp only [Function.comp_apply]
  split <;> rfl

/-- The asset of this name has no columns. -/
def Unresolved (p : Pipeline) (n : String) : Prop :=
  ∃ a, p.asset? n = some a ∧ a.columns = []

end Pipeline

namespace Resolver

variable {r : Resolver} {p : Pipeline} {s s' : Progress} {path names : List String} {n : String}
  {x : Except LineageError Unit}

/-- The asset of this name, if there is one, need not be resolved. -/
def Progress.Settled (s : Progress) (n : String) : Prop :=
  ∀ a, s.pipeline.asset? n = some a → a.columns ≠ [] ∨ n ∈ s.done

/-- The state after an asset was resolved, if that was possible. -/
def settle (r : Resolver) (n : String) (s : Progress) : Progress where
  pipeline := match r.parseLineage s.pipeline n with
    | .ok p => p
    | .error _ => s.pipeline
  done := n :: s.done

/-- What resolving a row of assets comes to, if `path` are the assets on the way to them. -/
inductive Resolves (r : Resolver) :
    List String → List String → Progress → Except LineageError Unit → Progress → Prop
  | nil {path : List String} {s : Progress} : Resolves r path [] s (.ok ()) s
  | skip {path rest : List String} {n : String} {s s' : Progress} {x : Except LineageError Unit}
      (hsettled : s.Settled n) (hrest : Resolves r path rest s x s') :
      Resolves r path (n :: rest) s x s'
  | closes {path rest : List String} {n : String} {s : Progress} (hopen : ¬ s.Settled n)
      (hpath : n ∈ path) :
      Resolves r path (n :: rest) s (.error (.cycle (closedCycle path n))) s
  | fails {path rest : List String} {n : String} {s s' : Progress} {a : Asset} {e : LineageError}
      (hopen : ¬ s.Settled n) (hpath : n ∉ path) (hasset : s.pipeline.asset? n = some a)
      (hup : Resolves r (path ++ [n]) (a.upstreams.map AssetName.text) s (.error e) s') :
      Resolves r path (n :: rest) s (.error e) s'
  | visits {path rest : List String} {n : String} {s s' s'' : Progress} {a : Asset}
      {x : Except LineageError Unit} (hopen : ¬ s.Settled n) (hpath : n ∉ path)
      (hasset : s.pipeline.asset? n = some a)
      (hup : Resolves r (path ++ [n]) (a.upstreams.map AssetName.text) s (.ok ()) s')
      (hrest : Resolves r path rest (r.settle n s') x s'') :
      Resolves r path (n :: rest) s x s''

/-- Resolving a row of assets has one result. -/
theorem Resolves.unique {y : Except LineageError Unit} {t : Progress}
    (h : Resolves r path names s x s') (h' : Resolves r path names s y t) : x = y ∧ s' = t := by
  induction h generalizing y t with
  | nil =>
    cases h'
    exact ⟨rfl, rfl⟩
  | skip hsettled _ ih =>
    cases h' with
    | skip _ hrest' => exact ih hrest'
    | closes hopen => exact absurd hsettled hopen
    | fails hopen => exact absurd hsettled hopen
    | visits hopen => exact absurd hsettled hopen
  | closes hopen hpath =>
    cases h' with
    | skip hsettled => exact absurd hsettled hopen
    | closes => exact ⟨rfl, rfl⟩
    | fails _ hno => exact absurd hpath hno
    | visits _ hno => exact absurd hpath hno
  | fails hopen hpath hasset _ ih =>
    cases h' with
    | skip hsettled => exact absurd hsettled hopen
    | closes _ hmem => exact absurd hmem hpath
    | fails _ _ hasset' hup' =>
      obtain rfl := Option.some.inj (hasset.symm.trans hasset')
      exact ih hup'
    | visits _ _ hasset' hup' =>
      obtain rfl := Option.some.inj (hasset.symm.trans hasset')
      cases (ih hup').1
  | visits hopen hpath hasset _ _ ihup ihrest =>
    cases h' with
    | skip hsettled => exact absurd hsettled hopen
    | closes _ hmem => exact absurd hmem hpath
    | fails _ _ hasset' hup' =>
      obtain rfl := Option.some.inj (hasset.symm.trans hasset')
      cases (ihup hup').1
    | visits _ _ hasset' hup' hrest' =>
      obtain rfl := Option.some.inj (hasset.symm.trans hasset')
      obtain ⟨-, rfl⟩ := ihup hup'
      exact ihrest hrest'

/-! ### The steps of resolving -/

theorem run_bind {σ α β : Type} (step : ExceptT LineageError (StateM σ) α)
    (next : α → ExceptT LineageError (StateM σ) β) (s : σ) :
    (step >>= next).run.run s = match step.run.run s with
      | (.ok a, s') => (next a).run.run s'
      | (.error e, s') => (.error e, s') := by
  rw [ExceptT.run_bind, StateT.run_bind]
  rcases step.run.run s with ⟨e | a, s'⟩ <;> rfl

theorem run_forM_cons {α : Type} (f : α → Resolving Unit) (a : α) (as : List α) (s : Progress) :
    ((a :: as).forM f).run.run s = match (f a).run.run s with
      | (.ok _, s') => (as.forM f).run.run s'
      | (.error e, s') => (.error e, s') := by
  refine (run_bind (f a) (fun _ => as.forM f) s).trans ?_
  rcases (f a).run.run s with ⟨e | u, s'⟩ <;> rfl

theorem forM_map {α β : Type} (f : β → Resolving Unit) (g : α → β) (as : List α) :
    (as.map g).forM f = as.forM fun a => f (g a) := by
  induction as with
  | nil => rfl
  | cons a as ih =>
    have hstep : ((a :: as).map g).forM f = (f (g a) >>= fun _ => (as.map g).forM f) := rfl
    rw [hstep, ih]
    rfl

/-- One step of the recursion: an asset that is settled is left alone, one on the path closes a
cycle, and any other is analyzed after its upstreams. -/
theorem run_resolve (fuel : Nat) (path : List String) (n : String) (s : Progress) :
    (r.resolve (fuel + 1) path n).run.run s = match s.pipeline.asset? n with
      | none => (.ok (), s)
      | some a =>
        if !a.columns.isEmpty || s.done.contains n then (.ok (), s)
        else if path.contains n then (.error (.cycle (closedCycle path n)), s)
        else match (a.upstreams.forM fun u => r.resolve fuel (path ++ [n]) u.text).run.run s with
          | (.ok _, s') => (.ok (), r.settle n s')
          | (.error e, s') => (.error e, s') := by
  have hget : (get : Resolving Progress).run.run s = (.ok s, s) := rfl
  rw [resolve, run_bind, hget]
  dsimp only
  cases s.pipeline.asset? n with
  | none => rfl
  | some a =>
    dsimp only
    split
    · rfl
    · split
      · rfl
      · refine (run_bind _ (fun _ => r.resolveHere n) s).trans ?_
        rcases (a.upstreams.forM fun u => r.resolve fuel (path ++ [n]) u.text).run.run s with
          ⟨e | u, s'⟩ <;> rfl

/-- An asset is settled if there is none of the name, if it has columns, or if it was analyzed. -/
theorem settled_iff : s.Settled n ↔ s.pipeline.asset? n = none ∨
    ∃ a, s.pipeline.asset? n = some a ∧ (!a.columns.isEmpty || s.done.contains n) = true := by
  simp only [Progress.Settled, Bool.or_eq_true, Bool.not_eq_true', List.isEmpty_eq_false_iff,
    List.contains_iff_mem]
  cases s.pipeline.asset? n <;> simp

/-- Resolving a settled asset changes nothing. -/
theorem run_resolve_of_settled {fuel : Nat} (h : s.Settled n) :
    (r.resolve (fuel + 1) path n).run.run s = (.ok (), s) := by
  rw [run_resolve]
  rcases settled_iff.mp h with hnone | ⟨a, ha, hsettled⟩
  · rw [hnone]
  · rw [ha]
    exact if_pos hsettled

/-- Resolving an open asset resolves its upstreams first. -/
theorem run_resolve_of_open {fuel : Nat} {a : Asset} (h : ¬ s.Settled n)
    (ha : s.pipeline.asset? n = some a) : (r.resolve (fuel + 1) path n).run.run s =
      if path.contains n then (.error (.cycle (closedCycle path n)), s)
      else match (a.upstreams.forM fun u => r.resolve fuel (path ++ [n]) u.text).run.run s with
        | (.ok _, s') => (.ok (), r.settle n s')
        | (.error e, s') => (.error e, s') := by
  rw [run_resolve, ha]
  exact if_neg fun hsettled => h (settled_iff.mpr (.inr ⟨a, ha, hsettled⟩))

/-! ### What resolving leaves alone -/

/-- Analyzing an asset changes nothing but its columns. -/
theorem exists_columns_of_parseLineage {p' : Pipeline} (h : r.parseLineage p n = .ok p') :
    ∃ columns, p' = p.updateAsset n fun a => { a with columns } := by
  rw [parseLineage] at h
  split at h
  · obtain ⟨found, -, h⟩ := exists_of_bind_eq_ok h
    exact ⟨found.columns, (Except.ok.inj h).symm⟩
  · cases h

/-- Resolving an asset gives it columns or leaves it alone. -/
theorem settle_pipeline : (r.settle n s).pipeline = s.pipeline ∨
    ∃ columns, (r.settle n s).pipeline = s.pipeline.updateAsset n fun a => { a with columns } := by
  rw [settle]
  cases h : r.parseLineage s.pipeline n with
  | error e => exact .inl rfl
  | ok p' => exact .inr (exists_columns_of_parseLineage h)

/-- What a pipeline keeps while it is resolved: all but the columns of its assets stays the same,
and so does each asset that is not done with. Only assets without columns are worked on. -/
structure Progress.Tracks (p : Pipeline) (s : Progress) : Prop where
  outline_eq : s.pipeline.assets.map Asset.outline = p.assets.map Asset.outline
  untouched : ∀ n, n ∉ s.done → s.pipeline.asset? n = p.asset? n
  unresolved : ∀ n ∈ s.done, p.Unresolved n

/-- A pipeline on which nothing was done is tracked. -/
theorem tracks_start (p : Pipeline) : ({ pipeline := p } : Progress).Tracks p := by
  constructor <;> simp

/-- Only assets of the pipeline are open. -/
theorem Progress.exists_asset_of_open (hopen : ¬ s.Settled n) :
    ∃ a, s.pipeline.asset? n = some a := by
  by_contra hnone
  exact hopen fun a ha => absurd ⟨a, ha⟩ hnone

/-- An open asset is as it was, without columns. -/
theorem Progress.Tracks.unresolved_of_open {a : Asset} (h : s.Tracks p) (hopen : ¬ s.Settled n)
    (ha : s.pipeline.asset? n = some a) : n ∉ s.done ∧ p.asset? n = some a ∧ a.columns = [] := by
  simp only [Progress.Settled, not_forall, not_or, not_not] at hopen
  obtain ⟨b, hb, hcolumns, hdone⟩ := hopen
  obtain rfl := Option.some.inj (ha.symm.trans hb)
  exact ⟨hdone, (h.untouched n hdone).symm.trans ha, hcolumns⟩

/-- Settling an unresolved asset keeps the progress tracked. -/
theorem Progress.Tracks.settle (h : s.Tracks p) (hn : p.Unresolved n) :
    (r.settle n s).Tracks p := by
  constructor
  case outline_eq =>
    rcases settle_pipeline (r := r) (n := n) (s := s) with heq | ⟨columns, heq⟩
    · rw [heq, h.outline_eq]
    · rw [heq, Pipeline.outline_updateAsset, h.outline_eq]
  case untouched =>
    intro m hm
    obtain ⟨hne, hm⟩ : m ≠ n ∧ m ∉ s.done := by simpa [Resolver.settle] using hm
    rcases settle_pipeline (r := r) (n := n) (s := s) with heq | ⟨columns, heq⟩
    · rw [heq, h.untouched m hm]
    · rw [heq, Pipeline.asset?_updateAsset_of_ne hne, h.untouched m hm]
  case unresolved =>
    intro m hm
    rcases List.mem_cons.mp hm with rfl | hm
    · exact hn
    · exact h.unresolved m hm

/-- Resolving changes only the columns of assets without columns. -/
theorem Resolves.tracks (h : Resolves r path names s x s') (hs : s.Tracks p) : s'.Tracks p := by
  induction h with
  | nil => exact hs
  | skip _ _ ih => exact ih hs
  | closes => exact hs
  | fails _ _ _ _ ih => exact ih hs
  | visits hopen _ hasset _ _ ihup ihrest =>
    obtain ⟨-, ha, hcolumns⟩ := hs.unresolved_of_open hopen hasset
    exact ihrest ((ihup hs).settle ⟨_, ha, hcolumns⟩)

/-! ### The bound on the depth is never reached -/

theorem nodup_append_of_not_mem (hpath : path.Nodup) (hn : n ∉ path) : (path ++ [n]).Nodup :=
  (List.perm_append_singleton n path).nodup_iff.mpr (List.nodup_cons.mpr ⟨hn, hpath⟩)

/-- Resolving a row of assets comes to what it would without a bound on its depth, since no asset is
twice on the way to another one. -/
theorem resolves_forM {fuel : Nat} (hs : s.Tracks p) (hpath : path.Nodup)
    (hsub : path ⊆ p.names.map AssetName.text) (hfuel : p.names.length < fuel + path.length) :
    ∃ x s', (names.forM (r.resolve fuel path)).run.run s = (x, s') ∧
      Resolves r path names s x s' := by
  induction fuel generalizing path names s with
  | zero =>
    have hle := (hpath.subperm hsub).length_le
    rw [List.length_map] at hle
    omega
  | succ fuel ihfuel =>
    induction names generalizing s with
    | nil => exact ⟨_, _, rfl, .nil⟩
    | cons n rest ihrest =>
      rw [run_forM_cons]
      by_cases hsettled : s.Settled n
      · obtain ⟨x, s', hrun, hresolves⟩ := ihrest hs
        rw [run_resolve_of_settled hsettled]
        exact ⟨x, s', hrun, .skip hsettled hresolves⟩
      · obtain ⟨a, ha⟩ := Progress.exists_asset_of_open hsettled
        obtain ⟨-, hpa, hcolumns⟩ := hs.unresolved_of_open hsettled ha
        rw [run_resolve_of_open hsettled ha]
        by_cases hmem : n ∈ path
        · rw [if_pos (List.contains_iff_mem.mpr hmem)]
          exact ⟨_, _, rfl, .closes hsettled hmem⟩
        · rw [if_neg fun hc => hmem (List.contains_iff_mem.mp hc)]
          obtain ⟨haMem, hname⟩ := Pipeline.asset?_eq_some hpa
          have hn : n ∈ p.names.map AssetName.text :=
            hname ▸ List.mem_map_of_mem (List.mem_map_of_mem haMem)
          obtain ⟨x, s', hrun, hresolves⟩ := @ihfuel s (path ++ [n])
            (a.upstreams.map AssetName.text) hs (nodup_append_of_not_mem hpath hmem)
            (List.append_subset.mpr ⟨hsub, by simpa using hn⟩)
            (by rw [List.length_append, List.length_singleton]; omega)
          rw [forM_map] at hrun
          rw [hrun]
          cases x with
          | error e => exact ⟨_, _, rfl, .fails hsettled hmem ha hresolves⟩
          | ok u =>
            have hs' := (hresolves.tracks hs).settle (r := r) ⟨a, hpa, hcolumns⟩
            obtain ⟨y, s'', hrun', hresolves'⟩ := ihrest hs'
            exact ⟨y, s'', hrun', .visits hsettled hmem ha hresolves hresolves'⟩

end Resolver

end AssetFlow
