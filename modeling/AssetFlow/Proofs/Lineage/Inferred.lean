import AssetFlow.Proofs.Lineage.Infer
import AssetFlow.Proofs.Pipeline.Fingerprint
import AssetFlow.Proofs.Sql.References

/-!
# What inference adds

Inference completes the upstreams of each asset: those that it has stay first, and those that its
SQL refers to and that are missing follow, each once, in the order of the tables that mean them.
Nothing is missing after it, so inferring again adds nothing.

## Main definitions

- `Asset.missing`: the assets among those found that an asset does not list
- `Pipeline.Completes`: what is said of the upstreams that are added to an asset

## Main statements

- `Pipeline.inferUpstreams_completes`: inference adds what is missing and nothing else
-/

namespace AssetFlow

/-! ### Tables in order -/

namespace Sql

theorem pairwise_lt_eraseReps {xs : List String} (h : xs.Pairwise (· ≤ ·)) :
    xs.eraseReps.Pairwise (· < ·) := by
  -- the value that the loop holds back comes after all that it has kept
  have hloop : ∀ (xs : List String) (x : String) (kept : List String),
      (x :: xs).Pairwise (· ≤ ·) → (kept.reverse ++ [x]).Pairwise (· < ·) →
        (List.eraseRepsBy.loop (· == ·) x xs kept).Pairwise (· < ·) := by
    intro xs
    induction xs with
    | nil => exact fun x kept _ hkept => by simpa [List.eraseRepsBy.loop] using hkept
    | cons y xs ih =>
      intro x kept hxs hkept
      obtain ⟨hx, hys⟩ := List.pairwise_cons.mp hxs
      rw [List.eraseRepsBy.loop]
      split
      · next heq =>
        obtain rfl := beq_iff_eq.mp heq
        exact ih x kept hys hkept
      · next hne =>
        have hlt : x < y := lt_of_le_of_ne (hx y (List.mem_cons_self ..)) (by simpa using hne)
        refine ih y (x :: kept) hys ?_
        rw [List.reverse_cons, List.pairwise_append]
        refine ⟨hkept, List.pairwise_singleton _ _, fun z hz w hw => ?_⟩
        obtain rfl := List.mem_singleton.mp hw
        rcases List.mem_append.mp hz with hz | hz
        · exact ((List.pairwise_append.mp hkept).2.2 z hz x (List.mem_singleton_self x)).trans hlt
        · exact List.mem_singleton.mp hz ▸ hlt
  cases xs with
  | nil => exact List.Pairwise.nil
  | cons x xs => exact hloop xs x [] h (List.pairwise_singleton _ _)

/-- The tables of a statement are listed in ascending order. -/
theorem Statement.pairwise_tables (s : Statement) : s.tables.Pairwise (· < ·) := by
  refine List.Pairwise.filter _ (pairwise_lt_eraseReps ?_)
  exact Pipeline.pairwise_mergeSort_le id _

/-- The tables that a text refers to are listed in ascending order. -/
theorem pairwise_referencedTables {d : Dialect} {sql : String} {tables : List String}
    (h : referencedTables d sql = .ok tables) : tables.Pairwise (· < ·) := by
  obtain ⟨s, -, hs⟩ := exists_of_bind_eq_ok h
  obtain rfl := Except.ok.inj hs
  exact s.pairwise_tables

end Sql

/-- One of the tables that mean `u` comes before all that mean `v`. -/
def ComesFirst (means : String → Option AssetName) (tables : List String) (u v : AssetName) : Prop :=
  ∃ t ∈ tables, means t = some u ∧ ∀ t' ∈ tables, means t' = some v → t < t'

/-- What a row of tables means is listed by the first table with the meaning. -/
theorem pairwise_comesFirst {means : String → Option AssetName} {tables : List String}
    (h : tables.Pairwise (· < ·)) (keep : AssetName → Bool) :
    ((tables.filterMap means).filter keep).eraseDups.Pairwise (ComesFirst means tables) := by
  induction tables generalizing keep with
  | nil => exact List.Pairwise.nil
  | cons t tables ih =>
    obtain ⟨ht, htables⟩ := List.pairwise_cons.mp h
    -- what comes first without the first table does so with it, unless that means the later asset
    have hlift : ∀ keep : AssetName → Bool, (∀ w, means t = some w → keep w = false) →
        ((tables.filterMap means).filter keep).eraseDups.Pairwise (ComesFirst means (t :: tables)) := by
      intro keep hfirst
      refine (ih htables keep).imp_of_mem fun _ hv hfound => ?_
      obtain ⟨s, hs, hmeans, hbefore⟩ := hfound
      refine ⟨s, List.mem_cons_of_mem _ hs, hmeans, fun t' ht' hv' => ?_⟩
      rcases List.mem_cons.mp ht' with rfl | ht'
      · have hkept := (List.mem_filter.mp (List.mem_eraseDups.mp hv)).2
        rw [hfirst _ hv'] at hkept
        cases hkept
      · exact hbefore t' ht' hv'
    cases hmeans : means t with
    | none =>
      rw [List.filterMap_cons_none hmeans]
      exact hlift keep fun w hw => by simp [hmeans] at hw
    | some u =>
      rw [List.filterMap_cons_some hmeans]
      cases hkeep : keep u with
      | false =>
        rw [List.filter_cons_of_neg (by simp [hkeep])]
        exact hlift keep fun w hw => Option.some.inj (hmeans.symm.trans hw) ▸ hkeep
      | true =>
        rw [List.filter_cons_of_pos hkeep, List.eraseDups_cons, List.filter_filter]
        refine List.pairwise_cons.mpr ⟨fun v hv => ?_, hlift _ fun w hw => ?_⟩
        · have hne : v ≠ u := by
            have hkept := (List.mem_filter.mp (List.mem_eraseDups.mp hv)).2
            simp only [Bool.and_eq_true, Bool.not_eq_true', beq_eq_false_iff_ne] at hkept
            exact hkept.1
          refine ⟨t, List.mem_cons_self .., hmeans, fun t' ht' hv' => ?_⟩
          rcases List.mem_cons.mp ht' with rfl | ht'
          · exact absurd (Option.some.inj (hv'.symm.trans hmeans)) hne
          · exact ht t' ht'
        · obtain rfl := Option.some.inj (hmeans.symm.trans hw)
          simp

/-! ### What an asset lacks -/

namespace Asset

variable {a : Asset} {u : AssetName} {found : List AssetName}

/-- The assets among those found that are not listed as upstreams, each once. -/
def missing (a : Asset) (found : List AssetName) : List AssetName :=
  (found.filter fun u => !a.upstreams.contains u).eraseDups

/-- What is missing was found and is no upstream yet. -/
theorem mem_missing : u ∈ a.missing found ↔ u ∈ found ∧ u ∉ a.upstreams := by
  simp [missing]

/-- Nothing is missing if all that was found is an upstream. -/
theorem missing_eq_nil (h : ∀ u ∈ found, u ∈ a.upstreams) : a.missing found = [] :=
  List.eq_nil_iff_forall_not_mem.mpr fun u hu => (mem_missing.mp hu).2 (h u (mem_missing.mp hu).1)

theorem missing_cons_of_mem (h : u ∈ a.upstreams) : a.missing (u :: found) = a.missing found := by
  rw [missing, List.filter_cons_of_neg (by simpa using h), missing]

theorem missing_cons_of_not_mem (h : u ∉ a.upstreams) :
    a.missing (u :: found) = u :: (a.addUpstream u).missing found := by
  have hnew : a.upstreams.contains u = false := by simpa using h
  rw [missing, List.filter_cons_of_pos (by simpa using h), List.eraseDups_cons, List.filter_filter,
    missing, addUpstream, hnew]
  congr 3
  funext v
  simp [Bool.and_comm, Bool.beq_eq_decide_eq]

/-- What is missing goes behind the upstreams that are there. -/
theorem addUpstreams_eq :
    a.addUpstreams found = { a with upstreams := a.upstreams ++ a.missing found } := by
  induction found generalizing a with
  | nil => simp [addUpstreams, missing]
  | cons u found ih =>
    have hfold : a.addUpstreams (u :: found) = (a.addUpstream u).addUpstreams found := rfl
    rw [hfold, ih]
    by_cases hu : u ∈ a.upstreams
    · rw [missing_cons_of_mem hu, addUpstream, if_pos (List.contains_iff_mem.mpr hu)]
    · rw [missing_cons_of_not_mem hu, addUpstream, if_neg (mt List.contains_iff_mem.mp hu)]
      simp

/-- The count of additions is the number of names that were missing. -/
theorem countAdded_eq : a.countAdded found = (a.missing found).length := by
  induction found generalizing a with
  | nil => rfl
  | cons u found ih =>
    rw [countAdded, ih, ih]
    by_cases hu : u ∈ a.upstreams
    · rw [if_pos (List.contains_iff_mem.mpr hu), missing_cons_of_mem hu]
    · rw [if_neg (mt List.contains_iff_mem.mp hu), missing_cons_of_not_mem hu, List.length_cons]

end Asset

/-! ### What inference adds -/

namespace Pipeline

variable {p : Pipeline} {a : Asset}

/-- What is said of the upstreams that are added to an asset: they are the assets that its SQL
refers to and that it does not list, each once, and in the order of the tables that mean them. -/
structure Completes (p : Pipeline) (a : Asset) (added : List AssetName) : Prop where
  once : added.Nodup
  mem_iff : ∀ u, u ∈ added ↔ p.RefersTo a a.sql u ∧ u ∉ a.upstreams
  in_order : ∀ d tables, Sql.Dialect.ofAssetType? a.type = some d →
    Sql.referencedTables d a.sql = .ok tables →
      tables.Pairwise (· < ·) ∧ added.Pairwise (ComesFirst (matchAsset p.names) tables)

/-- The upstreams that are added to an asset. -/
def inferredFor (p : Pipeline) (a : Asset) : List AssetName :=
  a.missing (a.readAssets Sql.referencedTables p.names)

/-- What is inferred for an asset completes its upstreams. -/
theorem completes_inferredFor (p : Pipeline) (a : Asset) : p.Completes a (p.inferredFor a) := by
  constructor
  case once => exact nodup_eraseDups _
  case mem_iff => exact fun u => by rw [inferredFor, Asset.mem_missing, mem_readAssets_iff]
  case in_order =>
    intro d tables hd htables
    have hsorted := Sql.pairwise_referencedTables htables
    refine ⟨hsorted, ?_⟩
    simp only [inferredFor, Asset.missing, Asset.readAssets, hd, htables, List.filter_filter]
    exact pairwise_comesFirst hsorted _

/-- Inferring upstreams appends to those of each asset what is inferred for it. -/
theorem inferUpstreams_eq (p : Pipeline) : p.inferUpstreams =
    (p.mapAssets fun a => { a with upstreams := a.upstreams ++ p.inferredFor a },
      (p.assets.flatMap p.inferredFor).length) := by
  have hcount : ∀ (as : List Asset) (n : Nat),
      as.foldl (fun n a => n + a.countAdded (a.readAssets Sql.referencedTables p.names)) n =
        n + (as.flatMap p.inferredFor).length := by
    intro as
    induction as with
    | nil => exact fun n => rfl
    | cons a as ih =>
      intro n
      rw [List.foldl_cons, ih, Asset.countAdded_eq, List.flatMap_cons, List.length_append,
        Nat.add_assoc]
      rfl
  rw [inferUpstreams, inferUpstreamsWith, hcount, Nat.zero_add]
  simp only [Asset.addUpstreams_eq]
  rfl

/-- Nothing is missing after inference. -/
theorem inferredFor_inferUpstreams (ha : a ∈ p.inferUpstreams.1.assets) :
    p.inferUpstreams.1.inferredFor a = [] := by
  refine Asset.missing_eq_nil fun u hu => RefersTo.mem_upstreams ?_ ha
  have hnames : p.inferUpstreams.1.names = p.names := names_mapAssets
  exact mem_readAssets_iff.mp (hnames ▸ hu)

/-- **Inference completes the upstreams**: behind the upstreams that an asset has, it puts those
that are missing, and it changes nothing else. The number that it answers is that of all upstreams
it has added. Inferring again adds nothing and changes nothing. -/
theorem inferUpstreams_completes (p : Pipeline) : ∃ added : Asset → List AssetName,
    (∀ a ∈ p.assets, p.Completes a (added a)) ∧
    p.inferUpstreams.1.config = p.config ∧ p.inferUpstreams.1.root = p.root ∧
    p.inferUpstreams.1.assets =
      p.assets.map (fun a => { a with upstreams := a.upstreams ++ added a }) ∧
    p.inferUpstreams.2 = (p.assets.flatMap added).length ∧
    p.inferUpstreams.1.inferUpstreams = (p.inferUpstreams.1, 0) := by
  refine ⟨p.inferredFor, fun a _ => completes_inferredFor p a, rfl, rfl, ?_, ?_, ?_⟩
  · rw [inferUpstreams_eq]
    rfl
  · rw [inferUpstreams_eq]
  · rw [inferUpstreams_eq p.inferUpstreams.1]
    refine Prod.ext (mapAssets_of_fixed fun a ha => ?_) ?_
    · rw [inferredFor_inferUpstreams ha, List.append_nil]
    · exact List.length_eq_zero_iff.mpr
        (List.flatMap_eq_nil_iff.mpr fun a ha => inferredFor_inferUpstreams ha)

end Pipeline

end AssetFlow
