import AssetFlow.Proofs.Graph.Acyclic
import AssetFlow.Proofs.Lineage.Resolve
import Mathlib.Data.List.Chain
import Mathlib.Data.List.TakeWhile

/-!
# Resolving fails on cycles only

An asset waits for those of its upstreams that have no columns either. A way along such assets may
come back to where it was, and this is the only fault that resolving reports: it fails just if such
a cycle is reached, and names it.

The assets that are done with do not reach a cycle (`Resolves.not_reachesCycle`), although some of
them have columns by then and are not followed any more. The assets on the way to the one at hand
wait for each other in turn (`Resolves.closedWay`), so that meeting one of them again closes a
cycle.

## Main definitions

- `Pipeline.Awaits`, `Pipeline.ReachesCycle`: assets without columns that wait for each other
- `Resolver.FailsOnCycles`: what is said of resolving a row of assets

## Main statements

- `Resolver.lineage_fails_on_cycles`: resolving ends, and fails just on cycles
-/

namespace AssetFlow

open Relation

namespace Pipeline

variable {p : Pipeline} {n m : String}

/-- An asset without columns has an upstream without columns. -/
def Awaits (p : Pipeline) (n m : String) : Prop :=
  ∃ a, p.asset? n = some a ∧ a.columns = [] ∧ m ∈ a.upstreams.map AssetName.text ∧ p.Unresolved m

/-- Following upstreams without columns leads to an asset that waits for itself. -/
def ReachesCycle (p : Pipeline) (n : String) : Prop :=
  ∃ m, ReflTransGen p.Awaits n m ∧ TransGen p.Awaits m m

theorem Awaits.reachesCycle (h : p.Awaits n m) (hm : p.ReachesCycle m) : p.ReachesCycle n := by
  obtain ⟨k, hreach, hcycle⟩ := hm
  exact ⟨k, .head h hreach, hcycle⟩

theorem ReachesCycle.exists_awaits (h : p.ReachesCycle n) :
    ∃ m, p.Awaits n m ∧ p.ReachesCycle m := by
  obtain ⟨k, hreach, hcycle⟩ := h
  rcases ReflTransGen.cases_head hreach with rfl | ⟨m, hstep, hreach⟩
  · obtain ⟨m, hstep, hback⟩ := TransGen.head'_iff.mp hcycle
    exact ⟨m, hstep, n, hback, hcycle⟩
  · exact ⟨m, hstep, k, hreach, hcycle⟩

theorem ReachesCycle.unresolved (h : p.ReachesCycle n) : p.Unresolved n := by
  obtain ⟨m, ⟨a, ha, hcolumns, -⟩, -⟩ := h.exists_awaits
  exact ⟨a, ha, hcolumns⟩

theorem Awaits.reads (h : p.Awaits n m) :
    ∃ a b : AssetName, a.text = n ∧ b.text = m ∧ p.Reads b a := by
  obtain ⟨a, ha, -, hup, b, hb, -⟩ := h
  obtain ⟨haMem, rfl⟩ := asset?_eq_some ha
  obtain ⟨hbMem, rfl⟩ := asset?_eq_some hb
  obtain ⟨u, hu, htext⟩ := List.mem_map.mp hup
  obtain rfl := AssetName.eq_of_text_eq htext
  exact ⟨a.name, b.name, rfl, rfl, List.mem_map_of_mem hbMem, a, haMem, rfl, hu⟩

/-- An asset is read from those that it waits for. -/
theorem ancestor_of_awaits (h : TransGen p.Awaits n m) :
    ∃ a b : AssetName, a.text = n ∧ b.text = m ∧ p.Ancestor b a := by
  induction h with
  | single h =>
    obtain ⟨a, b, hn, hm, hreads⟩ := h.reads
    exact ⟨a, b, hn, hm, .single hreads⟩
  | tail _ h ih =>
    obtain ⟨a, b, hn, hm, hback⟩ := ih
    obtain ⟨b', c, hm', hk, hreads⟩ := h.reads
    obtain rfl := AssetName.eq_of_text_eq (hm.trans hm'.symm)
    exact ⟨a, c, hn, hk, .head hreads hback⟩

/-- In a pipeline that has a graph no asset waits for itself. -/
theorem not_reachesCycle_of_graph {g : AssetGraph} (hg : p.graph = .ok g) : ¬ p.ReachesCycle n := by
  rintro ⟨m, -, hcycle⟩
  obtain ⟨a, b, ha, hb, hback⟩ := ancestor_of_awaits hcycle
  obtain rfl := AssetName.eq_of_text_eq (hb.trans ha.symm)
  exact not_ancestor_self hg b hback

end Pipeline

namespace Resolver

variable {r : Resolver} {p : Pipeline} {s s' : Progress} {path names : List String} {n : String}
  {x : Except LineageError Unit}

/-- An asset that need not be resolved reaches no cycle if those that are done with do not. -/
theorem Progress.Settled.not_reachesCycle (h : s.Settled n) (hs : s.Tracks p)
    (hdone : ∀ m ∈ s.done, ¬ p.ReachesCycle m) : ¬ p.ReachesCycle n := by
  intro hcycle
  have hnew : n ∉ s.done := fun hmem => hdone n hmem hcycle
  obtain ⟨a, ha, hcolumns⟩ := hcycle.unresolved
  rw [← hs.untouched n hnew] at ha
  rcases h a ha with hsome | hmem
  · exact hsome hcolumns
  · exact hnew hmem

/-- The assets that are done with reach no cycle, and neither do those of a row that is resolved. -/
theorem Resolves.not_reachesCycle (h : Resolves r path names s x s') (hs : s.Tracks p)
    (hdone : ∀ m ∈ s.done, ¬ p.ReachesCycle m) :
    (∀ m ∈ s'.done, ¬ p.ReachesCycle m) ∧ (x = .ok () → ∀ m ∈ names, ¬ p.ReachesCycle m) := by
  -- what is done with carries the induction: an asset that has got columns is skipped from then on,
  -- but its upstreams were resolved before it
  induction h with
  | nil => exact ⟨hdone, by simp⟩
  | skip hsettled _ ih =>
    obtain ⟨hdone', hnames⟩ := ih hs hdone
    refine ⟨hdone', fun hx m hm => ?_⟩
    rcases List.mem_cons.mp hm with rfl | hm
    · exact hsettled.not_reachesCycle hs hdone
    · exact hnames hx m hm
  | closes => exact ⟨hdone, fun hx => nomatch hx⟩
  | fails _ _ _ _ ih => exact ⟨(ih hs hdone).1, fun hx => nomatch hx⟩
  | @visits path rest n s s' s'' a x hopen _ hasset hup _ ihup ihrest =>
    obtain ⟨-, ha, hcolumns⟩ := hs.unresolved_of_open hopen hasset
    obtain ⟨hdone', hups⟩ := ihup hs hdone
    have hn : ¬ p.ReachesCycle n := by
      intro hcycle
      obtain ⟨m, ⟨b, hb, -, hm, -⟩, hm'⟩ := hcycle.exists_awaits
      obtain rfl := Option.some.inj (ha.symm.trans hb)
      exact hups rfl m hm hm'
    obtain ⟨hdone'', hnames⟩ := ihrest ((hup.tracks hs).settle ⟨a, ha, hcolumns⟩) fun m hm => by
      rcases List.mem_cons.mp hm with rfl | hm
      · exact hn
      · exact hdone' m hm
    refine ⟨hdone'', fun hx m hm => ?_⟩
    rcases List.mem_cons.mp hm with rfl | hm
    · exact hn
    · exact hnames hx m hm

/-- A way that comes back to one of its assets holds a cycle from there on. -/
theorem closedWay_closedCycle (hnd : path.Nodup) (hn : n ∈ path)
    (hway : (path ++ [n]).IsChain p.Awaits) :
    ClosedWay p.Awaits (closedCycle path n) ∧ TransGen p.Awaits n n := by
  obtain ⟨before, between, rfl, hbefore⟩ := List.eq_append_cons_of_mem hn
  have hcut : closedCycle (before ++ n :: between) n = n :: between ++ [n] := by
    have hdrop : before.dropWhile (· != n) = [] :=
      List.dropWhile_eq_nil_iff.mpr fun m hm => bne_iff_ne.mpr fun heq => hbefore (heq ▸ hm)
    rw [closedCycle, List.dropWhile_append, hdrop]
    simp
  have hchain : (n :: between ++ [n]).IsChain p.Awaits := by
    rw [List.append_assoc] at hway
    exact hway.right_of_append
  rw [hcut]
  exact ⟨⟨n, between, rfl, (List.nodup_append.mp hnd).2.1, hchain⟩, transGen_of_isChain hchain⟩

/-- The assets on the way wait for each other in turn, so that an asset that is met again on the way
to itself closes a cycle. -/
theorem Resolves.closedWay {e : LineageError} (h : Resolves r path names s (.error e) s')
    (hs : s.Tracks p) (hnd : path.Nodup)
    (hway : ∀ n ∈ names, p.Unresolved n → (path ++ [n]).IsChain p.Awaits) :
    ∃ way, e = .cycle way ∧ ClosedWay p.Awaits way ∧ ∃ n ∈ names, p.ReachesCycle n := by
  generalize hx : Except.error e = x at h
  induction h with
  | nil => cases hx
  | @skip path rest n s s' x _ _ ih =>
    obtain ⟨way, hcycle, hclosed, m, hm, hreach⟩ :=
      ih hs hnd (fun m hm => hway m (List.mem_cons_of_mem n hm)) hx
    exact ⟨way, hcycle, hclosed, m, List.mem_cons_of_mem n hm, hreach⟩
  | @closes path rest n s hopen hpath =>
    obtain ⟨a, ha⟩ := Progress.exists_asset_of_open hopen
    obtain ⟨-, ha, hcolumns⟩ := hs.unresolved_of_open hopen ha
    have hchain := hway n (List.mem_cons_self ..) ⟨a, ha, hcolumns⟩
    obtain ⟨hclosed, hcycle⟩ := closedWay_closedCycle hnd hpath hchain
    exact ⟨_, Except.error.inj hx, hclosed, n, List.mem_cons_self .., n, .refl, hcycle⟩
  | @fails path rest n s s' a e' hopen hpath hasset _ ih =>
    obtain ⟨-, ha, hcolumns⟩ := hs.unresolved_of_open hopen hasset
    have hchain := hway n (List.mem_cons_self ..) ⟨a, ha, hcolumns⟩
    have hawaits : ∀ m ∈ a.upstreams.map AssetName.text, p.Unresolved m → p.Awaits n m :=
      fun m hm hopen => ⟨a, ha, hcolumns, hm, hopen⟩
    have hway' : ∀ m ∈ a.upstreams.map AssetName.text, p.Unresolved m →
        (path ++ [n] ++ [m]).IsChain p.Awaits := by
      intro m hm hopen
      rw [List.isChain_append]
      exact ⟨hchain, .singleton m, by simpa using hawaits m hm hopen⟩
    obtain ⟨way, hcycle, hclosed, m, hm, hreach⟩ :=
      ih hs (nodup_append_of_not_mem hnd hpath) hway' hx
    exact ⟨way, hcycle, hclosed, n, List.mem_cons_self ..,
      (hawaits m hm hreach.unresolved).reachesCycle hreach⟩
  | @visits path rest n s s' s'' a x hopen hpath hasset hup _ _ ihrest =>
    obtain ⟨-, ha, hcolumns⟩ := hs.unresolved_of_open hopen hasset
    obtain ⟨way, hcycle, hclosed, m, hm, hreach⟩ :=
      ihrest ((hup.tracks hs).settle ⟨a, ha, hcolumns⟩) hnd
        (fun m hm => hway m (List.mem_cons_of_mem n hm)) hx
    exact ⟨way, hcycle, hclosed, m, List.mem_cons_of_mem n hm, hreach⟩

/-! ### Whole runs -/

/-- What is said of resolving a row of assets: it comes to an end, and fails just if one of them
reaches a cycle. The fault names the assets of a cycle, each of which waits for the next. -/
structure FailsOnCycles (r : Resolver) (p : Pipeline) (names : List String)
    (found : Except LineageError Unit × Pipeline) : Prop where
  ends : ∃ s, Resolves r [] names { pipeline := p } found.1 s ∧ s.pipeline = found.2
  fails_iff : (∃ e, found.1 = .error e) ↔ ∃ n ∈ names, p.ReachesCycle n
  names_cycle : ∀ e, found.1 = .error e → ∃ way, e = .cycle way ∧ ClosedWay p.Awaits way ∧
    ∀ wording, e.message wording =
      "[L003] Cycle detected while resolving lineage: " ++ " -> ".intercalate way
  resolved : ∀ g, p.graph = .ok g → found.1 = .ok ()

theorem failsOnCycles_of_resolves (h : Resolves r [] names { pipeline := p } x s) :
    FailsOnCycles r p names (x, s.pipeline) := by
  have hstart := tracks_start p
  have hfault : ∀ e, x = .error e →
      ∃ way, e = .cycle way ∧ ClosedWay p.Awaits way ∧ ∃ n ∈ names, p.ReachesCycle n := by
    rintro e rfl
    exact h.closedWay hstart .nil fun n _ _ => .singleton n
  have hclean : x = .ok () → ∀ n ∈ names, ¬ p.ReachesCycle n :=
    (h.not_reachesCycle hstart (by simp)).2
  constructor
  case ends => exact ⟨s, h, rfl⟩
  case fails_iff =>
    constructor
    · rintro ⟨e, he⟩
      obtain ⟨-, -, -, hreach⟩ := hfault e he
      exact hreach
    · rintro ⟨n, hn, hreach⟩
      cases x with
      | error e => exact ⟨e, rfl⟩
      | ok u => exact absurd hreach (hclean rfl n hn)
  case names_cycle =>
    intro e he
    obtain ⟨way, rfl, hclosed, -⟩ := hfault e he
    exact ⟨way, rfl, hclosed, fun wording => rfl⟩
  case resolved =>
    intro g hg
    cases x with
    | ok u => rfl
    | error e =>
      obtain ⟨-, -, -, n, -, hreach⟩ := hfault e rfl
      exact absurd hreach (Pipeline.not_reachesCycle_of_graph hg)

/-- Resolving a row of assets does not depend on the bound on its depth, and fails on cycles
only. -/
theorem failsOnCycles_forM {fuel : Nat} (hfuel : p.assets.length < fuel) :
    FailsOnCycles r p names (runOn p (names.forM (r.resolve fuel []))) := by
  have hdeep : p.names.length < fuel + ([] : List String).length := by
    simpa [Pipeline.names] using hfuel
  obtain ⟨x, s, hrun, hresolves⟩ :=
    @resolves_forM r p _ [] names fuel (tracks_start p) .nil (List.nil_subset _) hdeep
  rw [runOn, hrun]
  exact failsOnCycles_of_resolves hresolves

/-- The bound on the depth makes no difference. -/
theorem runOn_forM_of_lt {fuel : Nat} (hfuel : p.assets.length < fuel) :
    runOn p (names.forM (r.resolve fuel [])) =
      runOn p (names.forM (r.resolve (p.assets.length + 1) [])) := by
  obtain ⟨s, hs, hpipeline⟩ := (@failsOnCycles_forM r p names _ hfuel).ends
  obtain ⟨s', hs', hpipeline'⟩ := (@failsOnCycles_forM r p names _ (Nat.lt_succ_self _)).ends
  obtain ⟨hresult, rfl⟩ := hs.unique hs'
  exact Prod.ext hresult (hpipeline.symm.trans hpipeline')

theorem forM_singleton (f : String → Resolving Unit) : [n].forM f = f n := by
  show (f n >>= fun _ => pure ()) = f n
  exact bind_pure_unit

theorem failsOnCycles_columnLineage (r : Resolver) (p : Pipeline) (name : String) :
    FailsOnCycles r p [name] (r.columnLineage p name) := by
  simp only [columnLineage, ← forM_singleton (n := name)]
  exact failsOnCycles_forM (Nat.lt_succ_self _)

theorem failsOnCycles_resolveAll (r : Resolver) (p : Pipeline) :
    FailsOnCycles r p (p.names.map AssetName.text) (r.resolveAll p) := by
  rw [resolveAll, ← forM_map _ AssetName.text]
  exact failsOnCycles_forM (Nat.lt_succ_self _)

theorem FailsOnCycles.ok_iff {found : Except LineageError Unit × Pipeline}
    (h : FailsOnCycles r p names found) :
    found.1 = .ok () ↔ ∀ n ∈ names, ¬ p.ReachesCycle n := by
  have hfails := h.fails_iff
  cases hfound : found.1 with
  | ok u =>
    rw [hfound] at hfails
    refine iff_of_true rfl fun n hn hcycle => ?_
    obtain ⟨e, he⟩ := hfails.mpr ⟨n, hn, hcycle⟩
    cases he
  | error e =>
    obtain ⟨n, hn, hcycle⟩ := hfails.mp ⟨e, hfound⟩
    exact iff_of_false (by simp) fun hnone => hnone n hn hcycle

/-- **Resolving ends, and fails just on cycles**: with an asset and with all assets, the bound on
the depth is never reached; the fault names a cycle of assets without columns, which the asset, or
one of the assets, leads to. Nothing fails in a pipeline that has a graph. -/
theorem lineage_fails_on_cycles (r : Resolver) (p : Pipeline) :
    (∀ name, FailsOnCycles r p [name] (r.columnLineage p name) ∧
      ∀ fuel, p.assets.length < fuel → runOn p (r.resolve fuel [] name) = r.columnLineage p name) ∧
    FailsOnCycles r p (p.names.map AssetName.text) (r.resolveAll p) ∧
      ∀ fuel, p.assets.length < fuel →
        runOn p (p.names.forM fun n => r.resolve fuel [] n.text) = r.resolveAll p := by
  refine ⟨fun name => ?_, ?_⟩
  · simp only [columnLineage, ← forM_singleton (n := name)]
    exact ⟨failsOnCycles_forM (Nat.lt_succ_self _), fun fuel hfuel => runOn_forM_of_lt hfuel⟩
  · simp only [resolveAll, ← forM_map _ AssetName.text]
    exact ⟨failsOnCycles_forM (Nat.lt_succ_self _), fun fuel hfuel => runOn_forM_of_lt hfuel⟩

/-- Three assets, of which the last two read each other. -/
def stockPipeline : Pipeline where
  config := { name := "shop" }
  root := "."
  assets := [
    { name := ⟨"margins", by decide⟩, type := "duckdb.sql", upstreams := [⟨"prices", by decide⟩] },
    { name := ⟨"prices", by decide⟩, type := "duckdb.sql",
      upstreams := [⟨"raw.markets", by decide⟩, ⟨"stock", by decide⟩] },
    { name := ⟨"stock", by decide⟩, type := "duckdb.sql", upstreams := [⟨"prices", by decide⟩] }]
  unique := by decide

/-- The fault names the two assets, not the one that leads to them. -/
theorem margins_reach_cycle : stockPipeline.ReachesCycle "margins" ∧
    (({} : Resolver).columnLineage stockPipeline "margins").1 =
      .error (.cycle ["prices", "stock", "prices"]) := by
  have hfault : (({} : Resolver).columnLineage stockPipeline "margins").1 =
      .error (.cycle ["prices", "stock", "prices"]) := by decide +kernel
  have hfound := ((lineage_fails_on_cycles {} stockPipeline).1 "margins").1
  obtain ⟨n, hn, hcycle⟩ := hfound.fails_iff.mp ⟨_, hfault⟩
  rw [List.mem_singleton] at hn
  exact ⟨hn ▸ hcycle, hfault⟩

end Resolver

end AssetFlow
