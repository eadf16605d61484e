import AssetFlow.Proofs.Lineage.Cycle

/-!
# Which assets are analyzed, and when

Resolving a row of assets amounts to analyzing some assets one after another
(`Resolver.attemptAll`): those without columns that the row leads to, each once, and each after
those of its upstreams that have no columns either. Nothing else of the pipeline changes, whether
resolving fails or not.

The order is that in which assets are done with. It grows at its end only (`Progress.Ordered`), and
an asset is put there when all that it waits for stand there already (`Resolves.settles`). It is put
there once, because what is on the way to an asset is not done with before that asset
(`Resolves.not_mem_done`).

## Main definitions

- `Resolver.attempt`, `Resolver.attemptAll`: what analyzing assets comes to
- `Resolver.Analyzes`: an order in which assets may be analyzed
- `Resolver.TouchesOnly`: what is said of resolving a row of assets

## Main statements

- `Resolver.touches_only`: resolving analyzes assets once and in order, and changes nothing else
-/

namespace AssetFlow

open Relation

namespace Resolver

variable {r : Resolver} {p : Pipeline} {s s' : Progress} {path names roots order : List String}
  {n m : String} {x : Except LineageError Unit}

/-- The pipeline after an asset was analyzed; it stays as it is if that fails. -/
def attempt (r : Resolver) (p : Pipeline) (n : String) : Pipeline :=
  match r.parseLineage p n with
  | .ok q => q
  | .error _ => p

/-- The pipeline after assets were analyzed one after another. -/
def attemptAll (r : Resolver) (p : Pipeline) (order : List String) : Pipeline :=
  order.foldl r.attempt p

theorem attemptAll_append {rest : List String} :
    r.attemptAll p (order ++ rest) = r.attemptAll (r.attemptAll p order) rest :=
  List.foldl_append

theorem attemptAll_cons : r.attemptAll p (n :: order) = r.attemptAll (r.attempt p n) order :=
  rfl

/-- Analyzing an asset gives it columns or leaves it alone. -/
theorem attempt_eq : r.attempt p n = p ∨
    ∃ columns, r.attempt p n = p.updateAsset n fun a => { a with columns } :=
  settle_pipeline (s := { pipeline := p })

/-- Attempting an asset leaves those of other names alone. -/
theorem asset?_attempt_of_ne (hne : m ≠ n) : (r.attempt p n).asset? m = p.asset? m := by
  rcases attempt_eq (r := r) (p := p) (n := n) with heq | ⟨columns, heq⟩
  · rw [heq]
  · rw [heq, Pipeline.asset?_updateAsset_of_ne hne]

/-- Attempting assets leaves those of other names alone. -/
theorem asset?_attemptAll_of_not_mem (hm : m ∉ order) :
    (r.attemptAll p order).asset? m = p.asset? m := by
  induction order generalizing p with
  | nil => rfl
  | cons n order ih =>
    obtain ⟨hne, hm⟩ := List.ne_and_not_mem_of_not_mem_cons hm
    rw [attemptAll_cons, ih hm, asset?_attempt_of_ne hne]

/-- Attempting assets does not change the outline of any. -/
theorem outline_attemptAll :
    (r.attemptAll p order).assets.map Asset.outline = p.assets.map Asset.outline := by
  induction order generalizing p with
  | nil => rfl
  | cons n order ih =>
    rw [attemptAll_cons, ih]
    rcases attempt_eq (r := r) (p := p) (n := n) with heq | ⟨columns, heq⟩
    · rw [heq]
    · rw [heq, Pipeline.outline_updateAsset]

/-- Attempting assets does not change the configuration and the root of the pipeline. -/
theorem frame_attemptAll : (r.attemptAll p order).config = p.config ∧
    (r.attemptAll p order).root = p.root := by
  induction order generalizing p with
  | nil => exact ⟨rfl, rfl⟩
  | cons n order ih =>
    rw [attemptAll_cons]
    rcases attempt_eq (r := r) (p := p) (n := n) with heq | ⟨columns, heq⟩
    · rw [heq]
      exact ih
    · rw [heq]
      exact ih

/-- An order in which assets are analyzed to resolve some others: each asset stands there once,
after all that it waits for. -/
structure Analyzes (p : Pipeline) (roots order : List String) : Prop where
  once : order.Nodup
  reached : ∀ n ∈ order, p.Unresolved n ∧ ∃ m ∈ roots, ReflTransGen p.Awaits m n
  after_awaited : ∀ before n after, order = before ++ n :: after → ∀ m, p.Awaits n m → m ∈ before

theorem Analyzes.nil : Analyzes p roots [] := by
  constructor <;> simp

/-- An order goes on with an unresolved asset when all that it waits for stands in it. -/
theorem Analyzes.concat (h : Analyzes p roots order) (hnew : n ∉ order) (hn : p.Unresolved n)
    (hroot : ∃ m ∈ roots, ReflTransGen p.Awaits m n) (hup : ∀ m, p.Awaits n m → m ∈ order) :
    Analyzes p roots (order ++ [n]) := by
  constructor
  case once => exact nodup_append_of_not_mem h.once hnew
  case reached =>
    intro m hm
    rcases List.mem_append.mp hm with hm | hm
    · exact h.reached m hm
    · obtain rfl := List.mem_singleton.mp hm
      exact ⟨hn, hroot⟩
  case after_awaited =>
    intro before k after hsplit m hm
    rcases List.eq_nil_or_concat after with rfl | ⟨after, l, rfl⟩
    · obtain ⟨rfl, hk⟩ := List.append_inj' hsplit rfl
      obtain rfl := List.singleton_inj.mp hk
      exact hup m hm
    · rw [List.concat_eq_append, ← List.cons_append, ← List.append_assoc] at hsplit
      exact h.after_awaited before k after (List.append_inj' hsplit rfl).1 m hm

/-- An asset that waits for others by several steps is analyzed after them too. -/
theorem Analyzes.after_transGen (h : Analyzes p roots order) {before after : List String}
    (horder : order = before ++ n :: after) (hm : TransGen p.Awaits n m) : m ∈ before := by
  induction hm with
  | single hm => exact h.after_awaited before n after horder _ hm
  | tail _ hm ih =>
    obtain ⟨first, rest, rfl⟩ := List.append_of_mem ih
    refine List.mem_append_left _ (h.after_awaited first _ (rest ++ n :: after) ?_ _ hm)
    rw [horder, List.append_assoc, List.cons_append]

/-! ### The order in which assets are done with -/

/-- What was resolved so far came about by analyzing what is done with, in this order. -/
structure Progress.Ordered (r : Resolver) (p : Pipeline) (roots : List String) (s : Progress) :
    Prop where
  pipeline_eq : s.pipeline = r.attemptAll p s.done.reverse
  analyzes : Analyzes p roots s.done.reverse

theorem ordered_start : Progress.Ordered r p roots { pipeline := p } :=
  ⟨rfl, Analyzes.nil⟩

/-- An unresolved asset is settled only by having been analyzed. -/
theorem Progress.Tracks.mem_done_of_settled (hs : s.Tracks p) (h : s.Settled n)
    (hn : p.Unresolved n) : n ∈ s.done := by
  by_contra hnew
  obtain ⟨a, ha, hcolumns⟩ := hn
  rw [← hs.untouched n hnew] at ha
  exact (h a ha).elim (· hcolumns) hnew

/-- What was analyzed stays so. -/
theorem Resolves.done_subset (h : Resolves r path names s x s') : s.done ⊆ s'.done := by
  induction h with
  | nil => exact List.Subset.refl _
  | skip _ _ ih => exact ih
  | closes => exact List.Subset.refl _
  | fails _ _ _ _ ih => exact ih
  | visits _ _ _ _ _ ihup ihrest =>
    exact fun m hm => ihrest (List.mem_cons_of_mem _ (ihup hm))

/-- What is on the way to a row of assets is not done with while the row is resolved. -/
theorem Resolves.not_mem_done (h : Resolves r path names s x s') (hn : n ∈ path)
    (hnew : n ∉ s.done) : n ∉ s'.done := by
  induction h with
  | nil => exact hnew
  | skip _ _ ih => exact ih hn hnew
  | closes => exact hnew
  | fails _ _ _ _ ih => exact ih (List.mem_append_left _ hn) hnew
  | visits _ hpath _ _ _ ihup ihrest =>
    refine ihrest hn fun hmem => ?_
    rcases List.mem_cons.mp hmem with rfl | hmem
    · exact hpath hn
    · exact ihup (List.mem_append_left _ hn) hnew hmem

/-- A row that is resolved is done with. -/
theorem Resolves.settles (h : Resolves r path names s x s') (hs : s.Tracks p) (hx : x = .ok ()) :
    ∀ n ∈ names, p.Unresolved n → n ∈ s'.done := by
  induction h with
  | nil => simp
  | skip hsettled hrest ih =>
    intro m hm hopen
    rcases List.mem_cons.mp hm with rfl | hm
    · exact hrest.done_subset (hs.mem_done_of_settled hsettled hopen)
    · exact ih hs hx m hm hopen
  | closes => cases hx
  | fails => cases hx
  | visits hopen _ hasset hup hrest _ ihrest =>
    obtain ⟨-, ha, hcolumns⟩ := hs.unresolved_of_open hopen hasset
    intro m hm hopen
    rcases List.mem_cons.mp hm with rfl | hm
    · exact hrest.done_subset (List.mem_cons_self ..)
    · exact ihrest ((hup.tracks hs).settle ⟨_, ha, hcolumns⟩) hx m hm hopen

/-- Settling an asset appends it to the order of the analyses. -/
theorem Progress.Ordered.settle (h : s.Ordered r p roots) (hnew : n ∉ s.done)
    (hn : p.Unresolved n) (hroot : ∃ m ∈ roots, ReflTransGen p.Awaits m n)
    (hup : ∀ m, p.Awaits n m → m ∈ s.done) : (r.settle n s).Ordered r p roots := by
  have hdone : (r.settle n s).done.reverse = s.done.reverse ++ [n] := List.reverse_cons
  constructor
  case pipeline_eq =>
    rw [hdone, attemptAll_append, ← h.pipeline_eq]
    rfl
  case analyzes =>
    rw [hdone]
    refine h.analyzes.concat ?_ hn hroot fun m hm => List.mem_reverse.mpr (hup m hm)
    exact fun hmem => hnew (List.mem_reverse.mp hmem)

/-- Resolving a row of assets analyzes some assets in order. -/
theorem Resolves.ordered (h : Resolves r path names s x s') (hs : s.Tracks p)
    (ho : s.Ordered r p roots)
    (hroots : ∀ n ∈ names, p.Unresolved n → ∃ m ∈ roots, ReflTransGen p.Awaits m n) :
    s'.Ordered r p roots := by
  induction h with
  | nil => exact ho
  | skip _ _ ih => exact ih hs ho fun m hm => hroots m (List.mem_cons_of_mem _ hm)
  | closes => exact ho
  | @fails path rest n s s' a e hopen _ hasset _ ih =>
    obtain ⟨-, ha, hcolumns⟩ := hs.unresolved_of_open hopen hasset
    obtain ⟨k, hk, hreach⟩ := hroots n (List.mem_cons_self ..) ⟨a, ha, hcolumns⟩
    exact ih hs ho fun m hm hm' => ⟨k, hk, hreach.tail ⟨a, ha, hcolumns, hm, hm'⟩⟩
  | @visits path rest n s s' s'' a x hopen hpath hasset hup _ ihup ihrest =>
    obtain ⟨hnew, ha, hcolumns⟩ := hs.unresolved_of_open hopen hasset
    obtain ⟨k, hk, hreach⟩ := hroots n (List.mem_cons_self ..) ⟨a, ha, hcolumns⟩
    have ho' := ihup hs ho fun m hm hm' => ⟨k, hk, hreach.tail ⟨a, ha, hcolumns, hm, hm'⟩⟩
    have hnew' : n ∉ s'.done := hup.not_mem_done (by simp) hnew
    refine ihrest ((hup.tracks hs).settle ⟨a, ha, hcolumns⟩)
      (ho'.settle hnew' ⟨a, ha, hcolumns⟩ ⟨k, hk, hreach⟩ ?_)
      fun m hm => hroots m (List.mem_cons_of_mem _ hm)
    rintro m ⟨b, hb, -, hm, hm'⟩
    obtain rfl := Option.some.inj (ha.symm.trans hb)
    exact hup.settles hs rfl m hm hm'

/-! ### Whole runs -/

/-- The assets that a step of resolving is done with, in this order. -/
def analyzedBy (p : Pipeline) (step : Resolving Unit) : List String :=
  (step.run.run { pipeline := p }).2.done.reverse

/-- Resolving a row of assets analyzes some of them in order. -/
theorem ordered_forM {fuel : Nat} (hfuel : p.assets.length < fuel) :
    let step := names.forM (r.resolve fuel [])
    Analyzes p names (analyzedBy p step) ∧
      (runOn p step).2 = r.attemptAll p (analyzedBy p step) ∧
      ((runOn p step).1 = .ok () → ∀ n ∈ names, p.Unresolved n → n ∈ analyzedBy p step) := by
  have hdeep : p.names.length < fuel + ([] : List String).length := by
    simpa [Pipeline.names] using hfuel
  obtain ⟨x, s, hrun, h⟩ :=
    @resolves_forM r p _ [] names fuel (tracks_start p) .nil (List.nil_subset _) hdeep
  have hs := h.ordered (tracks_start p) ordered_start fun n hn _ => ⟨n, hn, .refl⟩
  simp only [analyzedBy, runOn, hrun]
  refine ⟨hs.analyzes, hs.pipeline_eq, fun hx n hn hopen => ?_⟩
  exact List.mem_reverse.mpr (h.settles (tracks_start p) hx n hn hopen)

/-- Resolving one asset analyzes in order. -/
theorem ordered_columnLineage (r : Resolver) (p : Pipeline) (name : String) :
    let order := analyzedBy p (r.resolve (p.assets.length + 1) [] name)
    Analyzes p [name] order ∧ (r.columnLineage p name).2 = r.attemptAll p order ∧
      ((r.columnLineage p name).1 = .ok () → p.Unresolved name → name ∈ order) := by
  simp only [columnLineage, ← forM_singleton (n := name)]
  obtain ⟨horder, hresult, hall⟩ := @ordered_forM r p [name] _ (Nat.lt_succ_self _)
  exact ⟨horder, hresult, fun hok => hall hok name (List.mem_singleton_self name)⟩

/-- Resolving all assets analyzes in order. -/
theorem ordered_resolveAll (r : Resolver) (p : Pipeline) :
    let order := analyzedBy p (p.names.forM fun n => r.resolve (p.assets.length + 1) [] n.text)
    Analyzes p (p.names.map AssetName.text) order ∧ (r.resolveAll p).2 = r.attemptAll p order ∧
      ((r.resolveAll p).1 = .ok () → ∀ n, p.Unresolved n → n ∈ order) := by
  simp only [resolveAll, ← forM_map _ AssetName.text]
  obtain ⟨horder, hresult, hall⟩ :=
    @ordered_forM r p (p.names.map AssetName.text) _ (Nat.lt_succ_self _)
  refine ⟨horder, hresult, fun hok n hn => hall hok n ?_ hn⟩
  obtain ⟨a, ha, -⟩ := hn
  obtain ⟨hmem, rfl⟩ := Pipeline.asset?_eq_some ha
  exact List.mem_map_of_mem (List.mem_map_of_mem hmem)

/-- What is said of resolving a row of assets, if `order` are the assets that are analyzed and `q`
is what becomes of the pipeline. -/
structure TouchesOnly (r : Resolver) (p : Pipeline) (names order : List String) (q : Pipeline) :
    Prop where
  frame : q.config = p.config ∧ q.root = p.root
  outline_eq : q.assets.map Asset.outline = p.assets.map Asset.outline
  declared : ∀ a ∈ p.assets, a.columns ≠ [] → a ∈ q.assets
  untouched : ∀ n, n ∉ order → q.asset? n = p.asset? n
  reached : ∀ n ∈ order, p.Unresolved n ∧ ∃ m ∈ names, ReflTransGen p.Awaits m n
  analyzed : q = r.attemptAll p order
  once : order.Nodup
  upstreams_first : ∀ before n after, order = before ++ n :: after → ∀ a, p.asset? n = some a →
    ∀ u ∈ a.upstreams, ∀ b, p.asset? u.text = some b → b.columns ≠ [] ∨ u.text ∈ before

/-- Analyzing in an order touches the assets of the order only. -/
theorem Analyzes.touchesOnly (h : Analyzes p names order) :
    TouchesOnly r p names order (r.attemptAll p order) := by
  constructor
  case frame => exact frame_attemptAll
  case outline_eq => exact outline_attemptAll
  case untouched => exact fun n hn => asset?_attemptAll_of_not_mem hn
  case reached => exact h.reached
  case analyzed => rfl
  case once => exact h.once
  case declared =>
    intro a ha hcolumns
    have hfind := Pipeline.asset?_of_mem ha
    have hnew : a.name.text ∉ order := by
      intro hmem
      obtain ⟨⟨b, hb, hempty⟩, -⟩ := h.reached _ hmem
      obtain rfl := Option.some.inj (hfind.symm.trans hb)
      exact hcolumns hempty
    rw [← asset?_attemptAll_of_not_mem (r := r) hnew] at hfind
    exact (Pipeline.asset?_eq_some hfind).1
  case upstreams_first =>
    rintro before n after horder a ha u hu b hb
    obtain ⟨⟨a', ha', hempty⟩, -⟩ := h.reached n (horder ▸ by simp)
    obtain rfl := Option.some.inj (ha.symm.trans ha')
    by_cases hcolumns : b.columns = []
    · have hawaits : p.Awaits n u.text :=
        ⟨a, ha, hempty, List.mem_map_of_mem hu, b, hb, hcolumns⟩
      exact .inr (h.after_awaited before n after horder _ hawaits)
    · exact .inl hcolumns

/-- **Resolving touches only what it may**: with an asset and with all assets, and whether it fails
or not, it amounts to analyzing assets without columns that it is led to by way of such assets, each
once and after those of its upstreams that have no columns. All else stays as it is. -/
theorem touches_only (r : Resolver) (p : Pipeline) :
    (∀ name, TouchesOnly r p [name] (analyzedBy p (r.resolve (p.assets.length + 1) [] name))
      (r.columnLineage p name).2) ∧
    TouchesOnly r p (p.names.map AssetName.text)
      (analyzedBy p (p.names.forM fun n => r.resolve (p.assets.length + 1) [] n.text))
      (r.resolveAll p).2 := by
  refine ⟨fun name => ?_, ?_⟩
  · obtain ⟨horder, hresult, -⟩ := ordered_columnLineage r p name
    rw [hresult]
    exact horder.touchesOnly
  · obtain ⟨horder, hresult, -⟩ := ordered_resolveAll r p
    rw [hresult]
    exact horder.touchesOnly

end Resolver

end AssetFlow
