import AssetFlow.Proofs.Lineage.Lookup
import AssetFlow.Proofs.Lineage.Retyping

/-!
# Resolving and the order of the assets

Two pipelines of the same assets resolve alike, however their assets are ordered, as long as names
differ by more than case and each asset lists what it reads: an asset is analyzed after those that
it waits for, and what it reads is the same by then (`SameAssets.sameAt`). This is so but for the
types of columns that an upstream is not known to have. These are searched for along all upstreams,
also behind an asset with columns, whose own upstreams it need not wait for: they may be resolved by
then or not. So types are the same for an asset behind which there are no such upstreams
(`Pipeline.Unscreened`).

## Main definitions

- `Pipeline.ListsReads`: each asset lists the other assets that its SQL reads
- `SameAssets`: two pipelines with the same assets in any order
- `Pipeline.Unscreened`: no asset with columns stands between an asset and others without

## Main statements

- `SameAssets.resolve_alike`: what does not depend on the order of the assets
- `types_depend_on_order`: a type that does
-/

namespace AssetFlow

open Relation
open Sql (Schema SchemaTable)

namespace Pipeline

variable {p p' q q' : Pipeline} {a up : Asset} {n m k w : String} {g : String → String}
  {known : Schema}

/-- Each asset lists the other assets among its upstreams that its SQL reads. -/
def ListsReads (p : Pipeline) : Prop :=
  ∀ a ∈ p.assets, ∀ w ∈ a.freeTables, ∀ n ∈ p.names, matchAsset p.names w = some n →
    n ≠ a.name → n ∈ a.upstreams

instance (p : Pipeline) : Decidable p.ListsReads :=
  inferInstanceAs (Decidable (∀ a ∈ p.assets, ∀ w ∈ a.freeTables, ∀ n ∈ p.names, _))

/-- An asset has an upstream, whether it is an asset of the pipeline or not. -/
def Cites (p : Pipeline) (n m : String) : Prop :=
  ∃ a, p.asset? n = some a ∧ m ∈ a.upstreams.map AssetName.text

/-- No asset with columns stands between an asset and one without columns that it goes back to. -/
def Unscreened (p : Pipeline) (n : String) : Prop :=
  ∀ m k, ReflTransGen p.Cites n m → p.Cites m k → p.Unresolved k → p.Unresolved m

theorem Unscreened.of_transGen (h : p.Unscreened n) (hm : TransGen p.Cites n m) :
    p.Unscreened m := fun _ _ hk => h _ _ (hm.to_reflTransGen.trans hk)

/-- An asset waits for its upstreams only. -/
theorem Awaits.cites (h : p.Awaits n m) : p.Cites n m := by
  obtain ⟨a, ha, -, hm, -⟩ := h
  exact ⟨a, ha, hm⟩

/-- An asset waits for all assets without columns that it goes back to if nothing stands between. -/
theorem Unscreened.transGen_awaits (h : p.Unscreened n) (hm : TransGen p.Cites n m)
    (hopen : p.Unresolved m) : TransGen p.Awaits n m := by
  have hstep : ∀ {k l}, ReflTransGen p.Cites n k → p.Cites k l → p.Unresolved l → p.Awaits k l := by
    intro k l hk hl hopen
    obtain ⟨a, ha, hl'⟩ := hl
    obtain ⟨b, hb, hcolumns⟩ := h k l hk ⟨a, ha, hl'⟩ hopen
    obtain rfl := Option.some.inj (ha.symm.trans hb)
    exact ⟨a, ha, hcolumns, hl', hopen⟩
  induction hm with
  | single hm => exact .single (hstep .refl hm hopen)
  | tail hk hm ih =>
    have hawaits := hstep hk.to_reflTransGen hm hopen
    obtain ⟨a, ha, hcolumns, -⟩ := hawaits
    exact (ih ⟨a, ha, hcolumns⟩).tail (hstep hk.to_reflTransGen hm hopen)

/-! ### The same assets in another order -/

/-- Which asset has a name does not depend on the order of the list. -/
theorem asset?_perm (h : p.assets.Perm p'.assets) : p'.asset? n = p.asset? n := by
  cases ha : p.asset? n with
  | none =>
    cases ha' : p'.asset? n with
    | none => rfl
    | some a =>
      obtain ⟨hmem, rfl⟩ := asset?_eq_some ha'
      rw [asset?_of_mem (h.mem_iff.mpr hmem)] at ha
      cases ha
  | some a =>
    obtain ⟨hmem, rfl⟩ := asset?_eq_some ha
    exact asset?_of_mem (h.mem_iff.mp hmem)

theorem unresolved_perm (h : p.assets.Perm p'.assets) : p'.Unresolved = p.Unresolved := by
  funext n
  simp only [Unresolved, asset?_perm h]

theorem awaits_perm (h : p.assets.Perm p'.assets) : p'.Awaits = p.Awaits := by
  funext n m
  simp only [Awaits, asset?_perm h, unresolved_perm h]

/-- Which assets go back to a cycle does not depend on the order of the list. -/
theorem reachesCycle_perm (h : p.assets.Perm p'.assets) : p'.ReachesCycle n ↔ p.ReachesCycle n := by
  simp only [ReachesCycle, awaits_perm h]

/-- Two pipelines have the same asset of a name, up to the types of its columns. -/
def SameAt (g : String → String) (q q' : Pipeline) (n : String) : Prop :=
  (q.asset? n).map (Asset.retype g) = (q'.asset? n).map (Asset.retype g)

theorem sameAt_id : SameAt id q q' n ↔ q.asset? n = q'.asset? n := by
  have hid : Asset.retype id = id := funext fun a => Asset.retype_id
  simp [SameAt, hid]

/-- What an asset is known as does not depend on types, but for the types of its columns. -/
theorem shape_table?_retype : (a.retype g).table?.map SchemaTable.shape =
    a.table?.map SchemaTable.shape := by
  have hnames : (Schema.named (a.retype g).schemaColumns).map Sql.SchemaColumn.name =
      (Schema.named a.schemaColumns).map Sql.SchemaColumn.name := by
    simp only [Schema.named, Asset.schemaColumns, Asset.retype, List.map_map, List.filter_map]
    rfl
  have hname : (a.retype g).name = a.name := rfl
  have hnone : Schema.named (a.retype g).schemaColumns = [] ↔
      Schema.named a.schemaColumns = [] := by
    rw [← List.map_eq_nil_iff (f := Sql.SchemaColumn.name), hnames, List.map_eq_nil_iff]
  simp only [Asset.table?, hnone]
  split
  · rfl
  · simp only [Option.map_some, SchemaTable.shape, hnames, hname]

/-- Assets that are the same up to types have the same table up to types. -/
theorem SameAt.shape_table? (h : SameAt g q q' n) :
    ((q.asset? n).bind Asset.table?).map SchemaTable.shape =
      ((q'.asset? n).bind Asset.table?).map SchemaTable.shape := by
  have hretype : ∀ x : Option Asset, (x.bind Asset.table?).map SchemaTable.shape =
      ((x.map (Asset.retype g)).bind Asset.table?).map SchemaTable.shape := by
    intro x
    cases x with
    | none => rfl
    | some a => exact shape_table?_retype.symm
  rw [SameAt] at h
  rw [hretype (q.asset? n), h, ← hretype]

/-- What is known under the name of a table that an asset reads is the asset itself or one of its
upstreams, if it is an asset at all. -/
theorem ListsReads.mem_upstreams (h : p.ListsReads)
    (hnames : DistinctIgnoringCase (p.names.map AssetName.text)) (ha : a ∈ p.assets)
    (hw : w ∈ a.freeTables) (hknown : known.registered w ∈ p.names.map AssetName.text) :
    known.registered w = a.name.text ∨
      known.registered w ∈ a.upstreams.map AssetName.text := by
  have hcase : Text.equalsIgnoringAsciiCase (known.registered w) w = true := by
    rw [Schema.registered]
    split
    · next t ht => exact (Schema.find?_eq_some ht).2
    · exact Text.equalsIgnoringAsciiCase_refl w
  obtain ⟨n, hn, hname⟩ := List.mem_map.mp hknown
  rw [← hname] at hcase ⊢
  obtain ⟨m, hm⟩ := exists_matchAsset hn hcase
  have hsame : m = n := by
    refine AssetName.eq_of_text_eq (hnames _ ?_ _ (List.mem_map_of_mem hn) ?_)
    · exact List.mem_map_of_mem (mem_of_matchAsset hm)
    · have hmcase := equals_of_matchAsset hm
      rw [Text.equalsIgnoringAsciiCase_iff] at hcase hmcase ⊢
      rw [hmcase, hcase]
  subst hsame
  by_cases hself : m = a.name
  · exact .inl (congrArg AssetName.text hself)
  · exact .inr (List.mem_map_of_mem (h a ha w hw m hn hm hself))

end Pipeline

namespace Resolver

variable {r r' : Resolver} {p q q' : Pipeline} {a b : Asset} {n m : String}
  {roots order before after : List String} {g : String → String}

/-- The resolver that knows the columns of a pipeline beforehand. -/
def knowing (p : Pipeline) : Resolver :=
  ({} : Resolver).addColumns p

theorem asset?_outline (hb : (r.attemptAll p order).asset? n = some b) :
    ∃ a, p.asset? n = some a ∧ a.outline = b.outline := by
  have hfind : ∀ as : List Asset, (as.find? (·.name.text == n)).map Asset.outline =
      (as.map Asset.outline).find? (·.name.text == n) := fun as => by
    rw [List.find?_map]
    rfl
  have hsame : (p.asset? n).map Asset.outline =
      ((r.attemptAll p order).asset? n).map Asset.outline := by
    rw [Pipeline.asset?, Pipeline.asset?, hfind, hfind, outline_attemptAll]
  rw [hb] at hsame
  exact Option.map_eq_some_iff.mp hsame

theorem upstreamCounts_attemptAll : (r.attemptAll p order).assets.map (·.upstreams.length) =
    p.assets.map (·.upstreams.length) := by
  have houtline := congrArg (List.map fun a : Asset => a.upstreams.length)
    (@outline_attemptAll r p order)
  rwa [List.map_map, List.map_map] at houtline

/-- What holds of an asset that is analyzed if it holds of all that it waits for holds of each asset
that is analyzed. -/
theorem Analyzes.induction {P : String → Prop} (h : Analyzes p roots order)
    (hstep : ∀ n ∈ order, (∀ m, TransGen p.Awaits n m → P m) → P n) : ∀ n ∈ order, P n := by
  have hprefix : ∀ before after, order = before ++ after → ∀ n ∈ before, P n := by
    intro before
    induction before using List.reverseRecOn with
    | nil => simp
    | append_singleton before n ih =>
      intro after horder m hm
      rw [List.append_assoc, List.singleton_append] at horder
      rcases List.mem_append.mp hm with hm | hm
      · exact ih _ horder m hm
      · obtain rfl := List.mem_singleton.mp hm
        refine hstep m (by simp [horder]) fun k hk => ?_
        exact ih _ horder k (h.after_transGen horder hk)
  exact hprefix order [] (List.append_nil order).symm

/-- What is known of upstreams does not depend on types. -/
theorem schemaFor_alike {names : List String} (hnames : DistinctIgnoringCase names)
    (hwithin : (r.schemaFor q a).Within names) (hwithin' : (r'.schemaFor q' a).Within names)
    (hschema : ∀ n, r.schema.tableNamed? n = r'.schema.tableNamed? n)
    (hup : ∀ n ∈ a.upstreams.map AssetName.text, Pipeline.SameAt g q q' n) :
    (r.schemaFor q a).Alike (r'.schemaFor q' a) := by
  refine Schema.alike_of_tableNamed? hnames hwithin hwithin' fun n _ => ?_
  rw [tableNamed?_schemaFor, tableNamed?_schemaFor, hschema, Option.map_or, Option.map_or]
  split
  · next hn => rw [(hup n hn).shape_table?]
  · rfl

end Resolver

/-- Two pipelines of the same assets, whose names differ by more than case and which list what they
read. -/
structure SameAssets (p p' : Pipeline) : Prop where
  perm : p.assets.Perm p'.assets
  distinct : DistinctIgnoringCase (p.names.map AssetName.text)
  reads : p.ListsReads

namespace SameAssets

open Resolver (knowing Analyzes)
open Pipeline (SameAt)

variable {p p' : Pipeline} {a : Asset} {n m : String}
  {roots roots' order order' before after before' after' : List String} {g : String → String}

/-- The change of types keeps nothing of them, or it keeps them and nothing stands between the asset
and those without columns. -/
def Keeps (g : String → String) (p : Pipeline) (n : String) : Prop :=
  (∀ s t, g s = g t) ∨ (g = id ∧ p.Unscreened n)

theorem Keeps.of_transGen (h : Keeps g p n) (hm : TransGen p.Awaits n m) : Keeps g p m := by
  have hcites : TransGen p.Cites n m := TransGen.mono (fun _ _ => Pipeline.Awaits.cites) _ _ hm
  exact h.imp_right fun ⟨hg, hn⟩ => ⟨hg, hn.of_transGen hcites⟩

theorem tableNamed?_knowing (h : SameAssets p p') :
    (knowing p).schema.tableNamed? n = (knowing p').schema.tableNamed? n := by
  rw [knowing, knowing, Resolver.tableNamed?_addColumns, Resolver.tableNamed?_addColumns,
    Pipeline.asset?_perm h.perm]

theorem mem_names_iff (h : SameAssets p p') :
    n ∈ p'.names.map AssetName.text ↔ n ∈ p.names.map AssetName.text :=
  ((h.perm.map Asset.name).map AssetName.text).mem_iff.symm

/-- An asset in two pipelines that has come to be analyzed: it is as it was, and what it waits for
is the same in both, as well as what it need not wait for. -/
structure Ready (g : String → String) (p q q' : Pipeline) (a : Asset) : Prop where
  here : q.asset? a.name.text = some a
  here' : q'.asset? a.name.text = some a
  settled : ∀ m, (p.Unresolved m → TransGen p.Awaits a.name.text m) → SameAt g q q' m

/-- The upstreams of an asset that is analyzed are the same in both pipelines. -/
theorem Ready.upstream {q q' : Pipeline} (h : Ready g p q q' a)
    (ha : p.asset? a.name.text = some a) (hcolumns : a.columns = [])
    (hm : m ∈ a.upstreams.map AssetName.text) : SameAt g q q' m :=
  h.settled m fun hopen => .single ⟨a, ha, hcolumns, hm, hopen⟩

/-- An asset with columns stays what it is in both pipelines. -/
theorem sameAt_declared (h : SameAssets p p') (ho : ∀ m ∈ order, p.Unresolved m)
    (ho' : ∀ m ∈ order', p'.Unresolved m) (hn : ¬ p.Unresolved n) :
    SameAt g ((knowing p).attemptAll p order) ((knowing p').attemptAll p' order') n := by
  have hn' : ¬ p'.Unresolved n := by rwa [Pipeline.unresolved_perm h.perm]
  rw [SameAt, Resolver.asset?_attemptAll_of_not_mem fun hmem => hn (ho n hmem),
    Resolver.asset?_attemptAll_of_not_mem fun hmem => hn' (ho' n hmem), Pipeline.asset?_perm h.perm]

/-- What an asset waits for is the same when it is analyzed if it is so in the end. -/
theorem ready (h : SameAssets p p') (ha : p.asset? a.name.text = some a)
    (ho : Analyzes p roots (before ++ a.name.text :: after))
    (ho' : Analyzes p' roots' (before' ++ a.name.text :: after'))
    (hdone : ∀ m, TransGen p.Awaits a.name.text m →
      SameAt g ((knowing p).attemptAll p (before ++ a.name.text :: after))
        ((knowing p').attemptAll p' (before' ++ a.name.text :: after')) m) :
    Ready g p ((knowing p).attemptAll p before) ((knowing p').attemptAll p' before') a := by
  constructor
  case here => exact ho.asset?_fresh.trans ha
  case here' => exact ho'.asset?_fresh.trans ((Pipeline.asset?_perm h.perm).trans ha)
  case settled =>
    intro m hm
    by_cases hopen : p.Unresolved m
    · have hawaits := hm hopen
      have hawaits' : TransGen p'.Awaits a.name.text m := Pipeline.awaits_perm h.perm ▸ hawaits
      have hmem := ho.after_transGen rfl hawaits
      have hmem' := ho'.after_transGen rfl hawaits'
      have hsame := hdone m hawaits
      rwa [SameAt, ← Resolver.asset?_before (ho.not_mem_rest hmem),
        ← Resolver.asset?_before (ho'.not_mem_rest hmem')] at hsame
    · refine h.sameAt_declared (fun k hk => ?_) (fun k hk => ?_) hopen
      · exact (ho.reached k (List.mem_append_left _ hk)).1
      · exact (ho'.reached k (List.mem_append_left _ hk)).1

/-- The schemas for an asset are alike when its upstreams are the same. -/
theorem schemaFor_alike (h : SameAssets p p')
    (hup : ∀ m ∈ a.upstreams.map AssetName.text,
      SameAt g ((knowing p).attemptAll p before) ((knowing p').attemptAll p' before') m) :
    ((knowing p).schemaFor ((knowing p).attemptAll p before) a).Alike
      ((knowing p').schemaFor ((knowing p').attemptAll p' before') a) := by
  have hwithin := @Resolver.within_schemaFor_attemptAll (knowing p) p a before
    Resolver.within_addColumns
  have hwithin' := @Resolver.within_schemaFor_attemptAll (knowing p') p' a before'
    Resolver.within_addColumns
  exact Resolver.schemaFor_alike h.distinct hwithin
    (fun t ht => h.mem_names_iff.mp (hwithin' t ht)) (fun _ => h.tableNamed?_knowing) hup

/-- A type that is searched for is the same if nothing stands between the asset and those without
columns. -/
theorem inheritedType_eq (h : SameAssets p p') {up : Asset} {column : String}
    (hsame : ∀ m, TransGen p.Cites n m →
      ((knowing p).attemptAll p before).asset? m = ((knowing p').attemptAll p' before').asset? m)
    (hm : TransGen p.Cites n m) (hup : ((knowing p).attemptAll p before).asset? m = some up) :
    ((knowing p).attemptAll p before).inheritedType up column =
      ((knowing p').attemptAll p' before').inheritedType up column := by
  have hclosed : ∀ k b, TransGen p.Cites n k →
      ((knowing p).attemptAll p before).asset? k = some b →
        ∀ u ∈ b.upstreams, TransGen p.Cites n u.text := by
    intro k b hk hb u hu
    obtain ⟨b', hb', houtline⟩ := Resolver.asset?_outline hb
    have hups : b'.upstreams = b.upstreams := (congrArg Asset.upstreams houtline :)
    exact hk.tail ⟨b', hb', List.mem_map_of_mem (hups ▸ hu)⟩
  refine Pipeline.inheritedType_congr hsame hclosed ?_ (hclosed m up hm hup)
  rw [Resolver.upstreamCounts_attemptAll, Resolver.upstreamCounts_attemptAll]
  exact h.perm.map _

/-- What the SQL of an asset refers to means the same. -/
theorem meansAlike (h : SameAssets p p') (ha : p.asset? a.name.text = some a)
    (hcolumns : a.columns = []) (hkeeps : Keeps g p a.name.text)
    (hready : Ready g p ((knowing p).attemptAll p before) ((knowing p').attemptAll p' before') a)
    {known : Schema} {w : String} {x : Sql.ColumnRef} (hw : w ∈ a.freeTables)
    (htable : known.registered w = x.table) :
    Pipeline.MeansAlike g ((knowing p).attemptAll p before) ((knowing p').attemptAll p' before')
      a.name.text x := by
  have hread : x.table ∈ p.names.map AssetName.text →
      x.table = a.name.text ∨ x.table ∈ a.upstreams.map AssetName.text := by
    rw [← htable]
    exact h.reads.mem_upstreams h.distinct (Pipeline.asset?_eq_some ha).1 hw
  constructor
  case asset =>
    by_cases hmem : x.table ∈ p.names.map AssetName.text
    · rcases hread hmem with hself | hlisted
      · rw [hself, hready.here, hready.here']
      · exact hready.upstream ha hcolumns hlisted
    · refine hready.settled x.table fun hopen => absurd ?_ hmem
      obtain ⟨b, hb, -⟩ := hopen
      exact Pipeline.text_mem_names_of_asset? hb
  case source =>
    intro hother b b' hb hb'
    have hmem : x.table ∈ p.names.map AssetName.text := by
      rw [← Resolver.names_attemptAll]
      exact Pipeline.text_mem_names_of_asset? hb
    have hlisted := (hread hmem).resolve_left hother
    have hsame := hready.upstream ha hcolumns hlisted
    rw [SameAt, hb, hb'] at hsame
    refine Pipeline.sourceColumn_congr (Option.some.inj hsame) (hkeeps.imp_right ?_)
    rintro ⟨rfl, hunscreened⟩
    obtain rfl : b = b' := by simpa [Asset.retype_id] using hsame
    exact h.inheritedType_eq (fun m hm => Pipeline.sameAt_id.mp <|
      hready.settled m (hunscreened.transGen_awaits hm)) (.single ⟨a, ha, hlisted⟩) hb

/-- **An asset that is analyzed in two pipelines of the same assets gets the same columns**, up to
types, and with their types if nothing stands between it and other assets without columns. -/
theorem sameAt (h : SameAssets p p') (ho : Analyzes p roots order)
    (ho' : Analyzes p' roots' order') : ∀ n ∈ order, n ∈ order' → Keeps g p n →
      SameAt g ((knowing p).attemptAll p order) ((knowing p').attemptAll p' order') n := by
  -- the induction is on the order of analysis in the first pipeline; what an asset waits for stands
  -- before it in the second one too
  refine ho.induction fun n hn ih hn' hkeeps => ?_
  obtain ⟨⟨a, ha, hcolumns⟩, -⟩ := ho.reached n hn
  obtain ⟨-, rfl⟩ := Pipeline.asset?_eq_some ha
  obtain ⟨before, after, rfl⟩ := List.append_of_mem hn
  obtain ⟨before', after', rfl⟩ := List.append_of_mem hn'
  have hready := h.ready (g := g) ha ho ho' fun m hm => by
    have hawaits' : TransGen p'.Awaits a.name.text m := Pipeline.awaits_perm h.perm ▸ hm
    exact ih m hm (List.mem_append_left _ (ho'.after_transGen rfl hawaits')) (hkeeps.of_transGen hm)
  have halike := h.schemaFor_alike fun m hm => hready.upstream ha hcolumns hm
  have hderived : ((knowing p).derived ((knowing p).attemptAll p before) a).map (Column.retype g) =
      ((knowing p').derived ((knowing p').attemptAll p' before') a).map (Column.retype g) := by
    refine Resolver.derived_congr (fun d => Sql.columnLineage_congr halike d a.sql) ?_
    intro d lineage hd hlineage o ho x hx
    obtain ⟨w, hw, htable⟩ := Asset.exists_freeTable hd hlineage ho hx
    exact h.meansAlike ha hcolumns hkeeps hready hw htable
  rw [SameAt, ho.asset?_result ha, ho'.asset?_result ((Pipeline.asset?_perm h.perm).trans ha)]
  simp only [Option.map_some, Asset.retype, hderived]

/-- The asset is the same in two pipelines but for the types of its columns, and these are the same
too if nothing stands between the asset and others without columns. -/
def ResolvedAlike (p q q' : Pipeline) (n : String) : Prop :=
  SameAt (fun _ => "") q q' n ∧ (p.Unscreened n → q.asset? n = q'.asset? n)

/-- Orders of analysis that hold what is unresolved come to the same assets. -/
theorem resolvedAlike (h : SameAssets p p') (ho : Analyzes p roots order)
    (ho' : Analyzes p' roots' order') (hn : p.Unresolved n → n ∈ order)
    (hn' : p'.Unresolved n → n ∈ order') :
    ResolvedAlike p ((knowing p).attemptAll p order) ((knowing p').attemptAll p' order') n := by
  have hsame : ∀ g, Keeps g p n →
      SameAt g ((knowing p).attemptAll p order) ((knowing p').attemptAll p' order') n := by
    intro g hkeeps
    by_cases hopen : p.Unresolved n
    · have hopen' : p'.Unresolved n := Pipeline.unresolved_perm h.perm ▸ hopen
      exact h.sameAt ho ho' n (hn hopen) (hn' hopen') hkeeps
    · refine h.sameAt_declared (fun m hm => ?_) (fun m hm => ?_) hopen
      · exact (ho.reached m hm).1
      · exact (ho'.reached m hm).1
  exact ⟨hsame _ (.inl fun _ _ => rfl), fun hunscreened =>
    Pipeline.sameAt_id.mp (hsame id (.inr ⟨rfl, hunscreened⟩))⟩

theorem refl (h : SameAssets p p') : SameAssets p p :=
  ⟨.refl _, h.distinct, h.reads⟩

/-- **What does not depend on the order of the assets**: resolving all of them fails in one order
just if it fails in another, and only on cycles. Otherwise all assets get the same columns up to
types, and the same types if nothing stands between them and others without columns; and so they do
if they are resolved one by one. -/
theorem resolve_alike (h : SameAssets p p') :
    (((knowing p).resolveAll p).1 = .ok () ↔ ((knowing p').resolveAll p').1 = .ok ()) ∧
    (∀ e, ((knowing p).resolveAll p).1 = .error e → ∃ way, e = .cycle way) ∧
    (∀ e, ((knowing p').resolveAll p').1 = .error e → ∃ way, e = .cycle way) ∧
    (((knowing p).resolveAll p).1 = .ok () → ∀ n,
      ResolvedAlike p ((knowing p).resolveAll p).2 ((knowing p').resolveAll p').2 n ∧
      ((knowing p).columnLineage p n).1 = .ok () ∧
      ResolvedAlike p ((knowing p).resolveAll p).2 ((knowing p).columnLineage p n).2 n) := by
  have hcycles := Resolver.failsOnCycles_resolveAll (knowing p) p
  have hcycles' := Resolver.failsOnCycles_resolveAll (knowing p') p'
  have hiff : ((knowing p).resolveAll p).1 = .ok () ↔ ((knowing p').resolveAll p').1 = .ok () := by
    rw [hcycles.ok_iff, hcycles'.ok_iff]
    simp only [h.mem_names_iff, Pipeline.reachesCycle_perm h.perm]
  refine ⟨hiff, fun e he => ?_, fun e he => ?_, fun hok n => ?_⟩
  · obtain ⟨way, hway, -⟩ := hcycles.names_cycle e he
    exact ⟨way, hway⟩
  · obtain ⟨way, hway, -⟩ := hcycles'.names_cycle e he
    exact ⟨way, hway⟩
  · obtain ⟨ho, hresult, hall⟩ := Resolver.ordered_resolveAll (knowing p) p
    obtain ⟨ho', hresult', hall'⟩ := Resolver.ordered_resolveAll (knowing p') p'
    obtain ⟨hone, hresultOne, hself⟩ := Resolver.ordered_columnLineage (knowing p) p n
    have hokOne : ((knowing p).columnLineage p n).1 = .ok () := by
      refine (Resolver.failsOnCycles_columnLineage (knowing p) p n).ok_iff.mpr fun m hm hcycle => ?_
      obtain ⟨a, ha, -⟩ := hcycle.unresolved
      exact hcycles.ok_iff.mp hok m (Pipeline.text_mem_names_of_asset? ha) hcycle
    rw [hresult, hresult', hresultOne]
    exact ⟨h.resolvedAlike ho ho' (hall hok n) (hall' (hiff.mp hok) n), hokOne,
      h.refl.resolvedAlike ho hone (hall hok n) (hself hokOne)⟩

/-! ### A type that is found behind another asset -/

def feed : AssetName := ⟨"feed", by decide⟩

/-- A report on orders, which a script makes from a feed. -/
def reportAsset : Asset :=
  { name := RunPlan.report, type := "duckdb.sql", sql := "select total from orders",
    upstreams := [RunPlan.orders] }

def ordersAsset (columns : List Column) : Asset :=
  { name := RunPlan.orders, type := "python", upstreams := [feed], columns }

def feedAsset : Asset :=
  { name := feed, type := "duckdb.sql", sql := "select total from source" }

/-- The report is loaded first, or last. -/
def reportFirst (columns : List Column) : Pipeline where
  config := { name := "shop" }
  root := "."
  assets := [reportAsset, ordersAsset columns, feedAsset]
  unique := by simp [reportAsset, ordersAsset, feedAsset, RunPlan.report, RunPlan.orders, feed]

def reportLast (columns : List Column) : Pipeline where
  config := { name := "shop" }
  root := "."
  assets := [feedAsset, ordersAsset columns, reportAsset]
  unique := by simp [reportAsset, ordersAsset, feedAsset, RunPlan.report, RunPlan.orders, feed]

theorem sameAssets_report {columns : List Column} :
    SameAssets (reportFirst columns) (reportLast columns) := by
  have hnames : (reportFirst columns).names = [reportAsset.name, RunPlan.orders, feed] := rfl
  constructor
  case perm => exact (List.reverse_perm (reportFirst columns).assets).symm
  case distinct =>
    rw [hnames]
    decide +kernel
  case reads =>
    have hreport : reportAsset.freeTables = ["orders"] := by decide +kernel
    have hfeed : feedAsset.freeTables = ["source"] := by decide +kernel
    have horders : matchAsset [reportAsset.name, RunPlan.orders, feed] "orders" =
        some RunPlan.orders := by
      decide +kernel
    have hsource : matchAsset [reportAsset.name, RunPlan.orders, feed] "source" = none := by
      decide +kernel
    intro a ha w hw n _ hmatch _
    rw [hnames] at hmatch
    simp only [reportFirst, List.mem_cons, List.not_mem_nil, or_false] at ha
    rcases ha with rfl | rfl | rfl
    · obtain rfl : w = "orders" := by simpa [hreport] using hw
      obtain rfl := Option.some.inj (horders.symm.trans hmatch)
      exact List.mem_singleton_self _
    · exact absurd hw List.not_mem_nil
    · obtain rfl : w = "source" := by simpa [hfeed] using hw
      cases hsource.symm.trans hmatch

theorem unscreened_report : (reportFirst []).Unscreened "report" := by
  intro m k _ hcites _
  obtain ⟨a, ha, -⟩ := hcites
  refine ⟨a, ha, ?_⟩
  obtain ⟨hmem, -⟩ := Pipeline.asset?_eq_some ha
  simp only [reportFirst, List.mem_cons, List.not_mem_nil, or_false] at hmem
  rcases hmem with rfl | rfl | rfl <;> rfl

/-- The orders have no columns, and the type of the total is found behind them in both orders. -/
theorem types_alike : SameAssets (reportFirst []) (reportLast []) ∧
    ((knowing (reportFirst [])).resolveAll (reportFirst [])).1 = .ok () ∧
    ((knowing (reportFirst [])).resolveAll (reportFirst [])).2.asset? "report" =
      ((knowing (reportLast [])).resolveAll (reportLast [])).2.asset? "report" := by
  have hok : ((knowing (reportFirst [])).resolveAll (reportFirst [])).1 = .ok () := by
    obtain ⟨g, hg, -⟩ := Sql.exists_ok_of_any (x := (reportFirst []).graph) (f := fun _ => true)
      (by decide +kernel)
    exact (Resolver.failsOnCycles_resolveAll _ _).resolved g hg
  have hall := (resolve_alike (@sameAssets_report [])).2.2.2 hok "report"
  exact ⟨sameAssets_report, hok, hall.1.2 unscreened_report⟩

/-- **A type that depends on the order**: the orders have a column, so that the report need not wait
for the feed behind them, where the type of the total is found if they are resolved by then. -/
theorem types_depend_on_order :
    SameAssets (reportFirst [{ name := "id" }]) (reportLast [{ name := "id" }]) ∧
    (((knowing (reportFirst [{ name := "id" }])).resolveAll
      (reportFirst [{ name := "id" }])).2.asset? "report").map
        (·.columns.map fun c => (c.name, c.type)) = some [("total", "orders")] ∧
    (((knowing (reportLast [{ name := "id" }])).resolveAll
      (reportLast [{ name := "id" }])).2.asset? "report").map
        (·.columns.map fun c => (c.name, c.type)) = some [("total", "source")] := by
  refine ⟨sameAssets_report, ?_, ?_⟩
  · decide +kernel
  · decide +kernel

end SameAssets

end AssetFlow
