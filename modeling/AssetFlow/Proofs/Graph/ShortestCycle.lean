import AssetFlow.Proofs.Graph.Acyclic
import Mathlib.Data.List.Chain
import Mathlib.Order.Lattice.Nat

/-!
# The cycle that is reported

A graph that cannot be sorted is refused for a node that lies on a cycle, and what is reported is a
shortest way from this node back to itself. The pass backwards stops at the source of an edge to a
node that was left later; as that edge leads to a node that was still waiting then, a way leads back
from it. The breadth first search for the way back visits nodes in the order of their distance, so
the first one with an edge back to the start is a nearest one.

## Main definitions

- `ClosedWalk`: a walk that comes back to where it begins
- `Graph.InSteps`, `Graph.distance`: how far a node is from another one
- `Graph.CycleSearch`: what the search for a cycle keeps to

## Main statements

- `Graph.cycle_of_sorted_error`: the node that is reported lies on a cycle
- `Graph.cycleThrough_shortest`: a shortest cycle through a node is found
- `Pipeline.names_shortest_cycle`: the names that are reported
-/

namespace AssetFlow

/-- A walk comes back to where it begins; on the way it may meet anything more than once. -/
def ClosedWalk {α : Type} (r : α → α → Prop) (walk : List α) : Prop :=
  ∃ first between, walk = first :: between ++ [first] ∧ walk.IsChain r

theorem ClosedWalk.map {α β : Type} {r : α → α → Prop} {s : β → β → Prop} {f : α → β}
    {walk : List α} (h : ClosedWalk r walk) (hf : ∀ a b, r a b → s (f a) (f b)) :
    ClosedWalk s (walk.map f) := by
  obtain ⟨first, between, rfl, hchain⟩ := h
  exact ⟨f first, between.map f, by simp, List.isChain_map_of_isChain f hf hchain⟩

end AssetFlow

namespace AssetFlow.Graph

open Relation

variable {g : Graph} {start : Nat}

/-! ### The node that is reported -/

/-- The first node that a pass backwards visits was waiting, and not marked. -/
theorem waits_of_visitBack {fuel : Nat} {stack marked : List Nat} {j : Nat} {more : List Nat}
    (h : (g.visitBack fuel stack marked).1 = j :: more) : j ∈ stack ∧ j ∉ marked := by
  induction fuel generalizing stack with
  | zero => simp [visitBack] at h
  | succ fuel ih =>
    cases stack with
    | nil => simp [visitBack] at h
    | cons n stack =>
      by_cases hn : n ∈ marked
      · rw [visitBack, if_pos (List.contains_iff_mem.mpr hn)] at h
        obtain ⟨hj, hnew⟩ := ih h
        exact ⟨List.mem_cons_of_mem n hj, hnew⟩
      · rw [visitBack_cons hn] at h
        obtain ⟨rfl, -⟩ := List.cons.inj h
        exact ⟨List.mem_cons_self .., hn⟩

/-- A node that is visited although its place comes later has an edge to one that stands before
it. -/
theorem misplaced?_eq_some {order marked : List Nat} {j : Nat} (hsize : order ≠ [] → 0 < g.size)
    (hnd : order.Nodup) (hnew : ∀ n ∈ order, n ∉ marked) (h : g.misplaced? order marked = some j) :
    ∃ pre n post, order = pre ++ n :: post ∧ (j, n) ∈ g.edges ∧ j ≠ n ∧ j ∉ pre ∧ j ∉ marked := by
  induction order generalizing marked with
  | nil => cases h
  | cons k rest ih =>
    obtain ⟨hk, hrest⟩ := List.nodup_cons.mp hnd
    have hpos := hsize (List.cons_ne_nil k rest)
    have hkm := hnew k (List.mem_cons_self ..)
    obtain ⟨fuel, hfuel⟩ := exists_searchFuel hpos
    simp only [misplaced?, hfuel] at h
    split at h
    · next i j' more hvisit =>
      obtain rfl := Option.some.inj h
      rw [visitBack_cons hkm, List.append_nil] at hvisit
      obtain ⟨hwaits, hnot⟩ := waits_of_visitBack (List.cons.inj hvisit).2
      have hedge := mem_predecessors.mp (List.mem_filter.mp (List.mem_reverse.mp hwaits)).1
      obtain ⟨hne, hmark⟩ := not_or.mp (mt List.mem_cons.mpr hnot)
      exact ⟨[], k, rest, rfl, hedge, hne, List.not_mem_nil, hmark⟩
    · next hvisit =>
      obtain ⟨hback, -⟩ := visitBack_singleton hkm hvisit
      rw [hback] at h
      have hnew' : ∀ n ∈ rest, n ∉ k :: marked := by
        rintro n hn hmem
        rcases List.mem_cons.mp hmem with rfl | hmem
        · exact hk hn
        · exact hnew n (List.mem_cons_of_mem k hn) hmem
      obtain ⟨pre, n, post, rfl, hedge, hne, hpre, hmark⟩ := ih (fun _ => hpos) hrest hnew' h
      obtain ⟨hjk, hmark⟩ := not_or.mp (mt List.mem_cons.mpr hmark)
      exact ⟨k :: pre, n, post, rfl, hedge, hne, by simp [hjk, hpre], hmark⟩

/-- **The node that is reported lies on a cycle**, if a graph cannot be sorted. -/
theorem cycle_of_sorted_error {j : Nat} (hg : g.Bounded) (h : g.sorted = .error j) :
    TransGen (fun a b => (a, b) ∈ g.edges) j j := by
  simp only [sorted] at h
  cases hl : g.leaveOrder with
  | error n =>
    rw [hl] at h
    cases h
    exact .single (loop_of_leaveOrder_error hl)
  | ok order =>
    simp only [hl, bind, Except.bind] at h
    cases hm : g.misplaced? order [] with
    | none =>
      rw [hm] at h
      cases h
    | some k =>
      rw [hm] at h
      obtain rfl : k = j := Except.error.inj h
      obtain ⟨hnd, hmem, -⟩ := leaveOrder_spec hg hl
      have hpos : order ≠ [] → 0 < g.size := fun hne =>
        Nat.zero_lt_of_lt ((hmem _).mp (List.head_mem hne))
      obtain ⟨pre, n, post, rfl, hedge, hne, hpre, -⟩ := misplaced?_eq_some hpos hnd (by simp) hm
      -- the source of the edge was left before its target
      have hk : k ∈ post := by
        have hk : k ∈ pre ++ n :: post := (hmem k).mpr (hg _ hedge).1
        simpa [hpre, hne] using hk
      obtain ⟨mid, post', rfl⟩ := List.append_of_mem hk
      have hsplit : pre ++ n :: (mid ++ k :: post') = (pre ++ n :: mid) ++ k :: post' := by simp
      refine .head hedge ((leaveOrder_after hg hl _ k post' hsplit n hedge).resolve_left fun hn => ?_)
      rw [List.perm_middle.nodup_iff, List.nodup_cons] at hnd
      exact hnd.1 (by simp [hn])

/-! ### Distances -/

/-- A walk of a number of steps leads from a node to another one. -/
inductive InSteps (g : Graph) (start : Nat) : Nat → Nat → Prop
  | zero : InSteps g start 0 start
  | step {k m n : Nat} : InSteps g start k m → (m, n) ∈ g.edges → InSteps g start (k + 1) n

theorem exists_inSteps {n : Nat} (h : ReflTransGen (fun a b => (a, b) ∈ g.edges) start n) :
    ∃ k, g.InSteps start k n := by
  induction h with
  | refl => exact ⟨0, .zero⟩
  | tail _ hedge ih =>
    obtain ⟨k, hk⟩ := ih
    exact ⟨k + 1, hk.step hedge⟩

theorem InSteps.append {k m n : Nat} {way : List Nat} (h : g.InSteps start k m)
    (hway : (m :: way ++ [n]).IsChain fun a b => (a, b) ∈ g.edges) :
    g.InSteps start (k + way.length + 1) n := by
  induction way generalizing k m with
  | nil => exact h.step (List.isChain_cons_cons.mp hway).1
  | cons b way ih =>
    obtain ⟨hedge, hrest⟩ := List.isChain_cons_cons.mp hway
    have hlength : k + (b :: way).length + 1 = (k + 1) + way.length + 1 := by
      rw [List.length_cons]
      omega
    rw [hlength]
    exact ih (h.step hedge) hrest

/-- A closed walk leads back to each node that it meets. -/
theorem inSteps_of_closedWalk {walk : List Nat} {n : Nat}
    (h : ClosedWalk (fun a b => (a, b) ∈ g.edges) walk) (hn : n ∈ walk) :
    ∃ k, g.InSteps n (k + 1) n ∧ walk.length = k + 2 := by
  obtain ⟨first, between, rfl, hchain⟩ := h
  have hn : n ∈ first :: between := by
    rcases List.mem_append.mp hn with hn | hn
    · exact hn
    · exact List.mem_singleton.mp hn ▸ List.mem_cons_self ..
  obtain ⟨before, after, hsplit⟩ := List.append_of_mem hn
  have hlength := congrArg List.length hsplit
  rw [hsplit, List.append_assoc, List.cons_append, List.isChain_split] at hchain
  have hback : g.InSteps n (after.length + 1) first := by
    simpa using InSteps.zero.append hchain.2
  refine ⟨between.length, ?_, by simp⟩
  rcases before with _ | ⟨a, before⟩
  · obtain ⟨rfl, rfl⟩ := List.cons.inj hsplit
    exact hback
  -- the walk is turned so that it begins at the node
  · obtain rfl : first = a := (List.cons.inj hsplit).1
    have hround := hback.append hchain.1
    have hsteps : between.length = after.length + 1 + before.length := by
      simp only [List.length_append, List.length_cons] at hlength
      omega
    exact hsteps ▸ hround

theorem lt_of_mem_closedWalk {walk : List Nat} {n : Nat} (hg : g.Bounded)
    (h : ClosedWalk (fun a b => (a, b) ∈ g.edges) walk) (hn : n ∈ walk) : n < g.size := by
  obtain ⟨k, hk, -⟩ := inSteps_of_closedWalk h hn
  cases hk with
  | step _ hedge => exact (hg _ hedge).2

/-- The number of steps of a shortest walk from a node to another one. -/
noncomputable def distance (g : Graph) (start n : Nat) : Nat :=
  sInf {k | g.InSteps start k n}

theorem InSteps.distance_le {k n : Nat} (h : g.InSteps start k n) : g.distance start n ≤ k :=
  Nat.sInf_le h

theorem InSteps.distance {k n : Nat} (h : g.InSteps start k n) :
    g.InSteps start (g.distance start n) n :=
  Nat.sInf_mem (s := {k | g.InSteps start k n}) ⟨k, h⟩

theorem distance_self (g : Graph) (start : Nat) : g.distance start start = 0 :=
  Nat.le_zero.mp (InSteps.zero.distance_le)

/-! ### The search for a cycle -/

theorem discover_snd_eq (seen ns : List Nat) :
    (discover seen ns).2 = (discover seen ns).1.reverse ++ seen := by
  induction ns generalizing seen with
  | nil => rfl
  | cons n rest ih =>
    rw [discover]
    split
    · exact ih seen
    · simp [ih (n :: seen)]

/-- The nodes that the search for a cycle has found. -/
def found (start : Nat) (cameFrom : List (Nat × Nat)) : List Nat :=
  cameFrom.map Prod.fst ++ [start]

theorem length_found (start : Nat) (cameFrom : List (Nat × Nat)) :
    (found start cameFrom).length = cameFrom.length + 1 := by
  simp [found]

theorem found_append (start n : Nat) (new : List Nat) (cameFrom : List (Nat × Nat)) :
    found start (new.map (·, n) ++ cameFrom) = new ++ found start cameFrom := by
  simp [found, Function.comp_def]

theorem isSome_lookup_iff {cameFrom : List (Nat × Nat)} {m : Nat} (hm : m ≠ start) :
    (cameFrom.lookup m).isSome = true ↔ m ∈ found start cameFrom := by
  simp [found, List.lookup_isSome_iff, hm]

/-- The nodes of a row that were not found before are noted with the node that they follow. -/
theorem foldl_cameFrom {n : Nat} {ns acc : List Nat} {cameFrom : List (Nat × Nat)}
    (hns : start ∉ ns) :
    ns.foldl (fun (found, cameFrom) m =>
        if (cameFrom.lookup m).isSome then (found, cameFrom)
        else (found ++ [m], (m, n) :: cameFrom)) (acc, cameFrom) =
      (acc ++ (discover (found start cameFrom) ns).1,
        (discover (found start cameFrom) ns).1.reverse.map (·, n) ++ cameFrom) := by
  induction ns generalizing acc cameFrom with
  | nil => simp [discover]
  | cons m ns ih =>
    obtain ⟨hm, hns⟩ := not_or.mp (mt List.mem_cons.mpr hns)
    simp only [List.foldl_cons, discover]
    by_cases hfound : m ∈ found start cameFrom
    · rw [if_pos ((isSome_lookup_iff (Ne.symm hm)).mpr hfound),
        if_pos (List.contains_iff_mem.mpr hfound), ih hns]
    · rw [if_neg (mt (isSome_lookup_iff (Ne.symm hm)).mp hfound),
        if_neg (mt List.contains_iff_mem.mp hfound), ih hns]
      simp [found]

/-- What the search for a cycle keeps to. It visits nodes in the order of their distance from the
start; those that wait are at most one step farther than the next one. A node is noted with a node
that is one step nearer, and no node that was visited has an edge back to the start. -/
structure CycleSearch (g : Graph) (start : Nat) (visited queue : List Nat)
    (cameFrom : List (Nat × Nat)) : Prop where
  searching : Searching g.successors g.size visited queue (found start cameFrom)
  no_way_back : ∀ n ∈ visited, (n, start) ∉ g.edges
  reached : ∀ n ∈ found start cameFrom, ∃ k, g.InSteps start k n
  nearer : ∀ m n, (m, n) ∈ cameFrom → (n, m) ∈ g.edges ∧ n ∈ found start cameFrom ∧
    g.distance start m = g.distance start n + 1
  visited_first : ∀ m ∈ visited, ∀ n ∈ queue, g.distance start m ≤ g.distance start n
  ascending : queue.Pairwise fun m n => g.distance start m ≤ g.distance start n
  spread : ∀ m ∈ queue, ∀ n ∈ queue, g.distance start n ≤ g.distance start m + 1
  near : ∀ n ∈ found start cameFrom, g.distance start n ≤ cameFrom.length

/-- Each node of a row has an edge from a node, and is one step farther from the start than it. -/
structure FoundFrom (g : Graph) (start n : Nat) (new : List Nat) : Prop where
  edge : ∀ m ∈ new, (n, m) ∈ g.edges
  reached : ∀ m ∈ new, ∃ k, g.InSteps start k m
  distance_eq : ∀ m ∈ new, g.distance start m = g.distance start n + 1

namespace CycleSearch

variable {visited queue new : List Nat} {cameFrom : List (Nat × Nat)} {n : Nat}

/-- All nodes that are not farther than those that wait were found. -/
theorem mem_found (h : CycleSearch g start visited queue cameFrom) {k m : Nat}
    (hk : ∀ n ∈ queue, k ≤ g.distance start n) (hm : g.InSteps start k m) :
    m ∈ found start cameFrom := by
  induction hm with
  | zero => simp [found]
  | @step k m l hm hedge ih =>
    have hfound := ih fun n hn => Nat.le_of_succ_le (hk n hn)
    -- the node before is nearer than all that wait, so that it was visited
    have hvisited : m ∈ visited := by
      refine ((h.searching.split m).mp hfound).resolve_right fun hqueue => ?_
      have hle := hm.distance_le
      have hlt := hk m hqueue
      omega
    exact h.searching.closed m hvisited l (mem_successors.mpr hedge)

theorem head_mem_found (h : CycleSearch g start visited (n :: queue) cameFrom) :
    n ∈ found start cameFrom :=
  (h.searching.split n).mpr (.inr (List.mem_cons_self ..))

theorem le_of_mem_queue (h : CycleSearch g start visited (n :: queue) cameFrom) {m : Nat}
    (hm : m ∈ n :: queue) : g.distance start n ≤ g.distance start m := by
  rcases List.mem_cons.mp hm with rfl | hm
  · exact le_rfl
  · exact List.rel_of_pairwise_cons h.ascending hm

/-- A node that is found now is one step farther than the one that is visited. -/
theorem distance_of_new (h : CycleSearch g start visited (n :: queue) cameFrom) {m : Nat}
    (hedge : (n, m) ∈ g.edges) (hm : m ∉ found start cameFrom) :
    (∃ k, g.InSteps start k m) ∧ g.distance start m = g.distance start n + 1 := by
  obtain ⟨k, hk⟩ := h.reached n h.head_mem_found
  have hstep := hk.distance.step hedge
  refine ⟨⟨_, hstep⟩, Nat.le_antisymm hstep.distance_le ?_⟩
  by_contra hnear
  refine hm (h.mem_found (fun q hq => ?_) hstep.distance)
  have hle := h.le_of_mem_queue hq
  omega

theorem foundFrom_discover (h : CycleSearch g start visited (n :: queue) cameFrom) :
    FoundFrom g start n (discover (found start cameFrom) (g.successors n)).1 where
  edge _ hm := mem_successors.mp (mem_discover_fst.mp hm).1
  reached _ hm := by
    obtain ⟨hedge, hm⟩ := mem_discover_fst.mp hm
    exact (h.distance_of_new (mem_successors.mp hedge) hm).1
  distance_eq _ hm := by
    obtain ⟨hedge, hm⟩ := mem_discover_fst.mp hm
    exact (h.distance_of_new (mem_successors.mp hedge) hm).2

/-- What waits after a visit is not nearer than the node that is visited, and at most one step
farther. -/
theorem distance_of_waiting (h : CycleSearch g start visited (n :: queue) cameFrom)
    (hnew : FoundFrom g start n new) {m : Nat} (hm : m ∈ queue ++ new) :
    g.distance start n ≤ g.distance start m ∧ g.distance start m ≤ g.distance start n + 1 := by
  rcases List.mem_append.mp hm with hm | hm
  · exact ⟨h.le_of_mem_queue (List.mem_cons_of_mem n hm),
      h.spread n (List.mem_cons_self ..) m (List.mem_cons_of_mem n hm)⟩
  · have hdistance := hnew.distance_eq m hm
    omega

/-- The nodes of the row are noted with the node that they are found from. -/
theorem nearer_append (h : CycleSearch g start visited (n :: queue) cameFrom)
    (hnew : FoundFrom g start n new) {m l : Nat}
    (hm : (m, l) ∈ new.reverse.map (·, n) ++ cameFrom) :
    (l, m) ∈ g.edges ∧ l ∈ new.reverse ++ found start cameFrom ∧
      g.distance start m = g.distance start l + 1 := by
  rw [List.mem_append]
  rcases List.mem_append.mp hm with hm | hm
  · obtain ⟨m', hm', heq⟩ := List.mem_map.mp hm
    obtain ⟨rfl, rfl⟩ := Prod.mk.inj heq
    have hmem := List.mem_reverse.mp hm'
    exact ⟨hnew.edge m' hmem, .inr h.head_mem_found, hnew.distance_eq m' hmem⟩
  · obtain ⟨hedge, hl, hdistance⟩ := h.nearer m l hm
    exact ⟨hedge, .inr hl, hdistance⟩

/-- The nodes of the row wait behind all others, as none is farther than they are. -/
theorem ascending_append (h : CycleSearch g start visited (n :: queue) cameFrom)
    (hnew : FoundFrom g start n new) :
    (queue ++ new).Pairwise fun m l => g.distance start m ≤ g.distance start l := by
  refine List.pairwise_append.mpr ⟨h.ascending.tail, ?_, fun m hm l hl => ?_⟩
  · refine List.pairwise_of_forall_mem_list fun m hm l hl => ?_
    exact ((hnew.distance_eq m hm).trans (hnew.distance_eq l hl).symm).le
  · exact hnew.distance_eq l hl ▸ (h.distance_of_waiting hnew (List.mem_append_left _ hm)).2

/-- No node is farther than there are notes. -/
theorem near_append (h : CycleSearch g start visited (n :: queue) cameFrom)
    (hnew : FoundFrom g start n new) {m : Nat} (hm : m ∈ new.reverse ++ found start cameFrom) :
    g.distance start m ≤ (new.reverse.map (·, n) ++ cameFrom).length := by
  rw [List.mem_append, List.mem_reverse] at hm
  rw [List.length_append, List.length_map, List.length_reverse]
  rcases hm with hm | hm
  · have hpos := List.length_pos_of_mem hm
    have hle := h.near n h.head_mem_found
    have hdistance := hnew.distance_eq m hm
    omega
  · exact (h.near m hm).trans (Nat.le_add_left ..)

/-- The next node is visited. -/
theorem visit (h : CycleSearch g start visited (n :: queue) cameFrom) (hg : g.Bounded)
    (hback : (n, start) ∉ g.edges) :
    CycleSearch g start (n :: visited)
      (queue ++ (discover (found start cameFrom) (g.successors n)).1)
      ((discover (found start cameFrom) (g.successors n)).1.reverse.map (·, n) ++ cameFrom) := by
  have hnew := h.foundFrom_discover
  have hsearching := h.searching.visit fun m hm => (hg _ (mem_successors.mp hm)).2
  rw [discover_snd_eq] at hsearching
  -- from here on it is only known of the new nodes that they are found from this one
  generalize (discover (found start cameFrom) (g.successors n)).1 = new at hnew hsearching ⊢
  have hfound := found_append start n new.reverse cameFrom
  constructor
  case searching => exact hfound ▸ hsearching
  case no_way_back => exact List.forall_mem_cons.mpr ⟨hback, h.no_way_back⟩
  case reached =>
    intro m hm
    rw [hfound, List.mem_append, List.mem_reverse] at hm
    exact hm.elim (hnew.reached m) (h.reached m)
  case nearer => exact fun m l hm => hfound ▸ h.nearer_append hnew hm
  case visited_first =>
    intro m hm l hl
    have hlater := (h.distance_of_waiting hnew hl).1
    rcases List.mem_cons.mp hm with rfl | hm
    · exact hlater
    · exact (h.visited_first m hm n (List.mem_cons_self ..)).trans hlater
  case ascending => exact h.ascending_append hnew
  case spread =>
    intro m hm l hl
    have hlater := (h.distance_of_waiting hnew hm).1
    exact (h.distance_of_waiting hnew hl).2.trans (Nat.succ_le_succ hlater)
  case near => exact fun m hm => h.near_append hnew (hfound ▸ hm)

/-- The way back from a node that was found: it has as many nodes as the node is steps away, all of
them at different distances, and turned around it leads from the start to the node. -/
theorem wayBack_spec (h : CycleSearch g start visited queue cameFrom) {fuel : Nat}
    (hn : n ∈ found start cameFrom) (hfuel : g.distance start n < fuel) :
    (wayBack cameFrom start fuel n).length = g.distance start n ∧
    (∀ m ∈ wayBack cameFrom start fuel n, 0 < g.distance start m ∧
      g.distance start m ≤ g.distance start n) ∧
    (wayBack cameFrom start fuel n).Pairwise (fun m l => g.distance start l < g.distance start m) ∧
    ∀ l, (n, l) ∈ g.edges → (start :: (wayBack cameFrom start fuel n).reverse ++ [l]).IsChain
      fun a b => (a, b) ∈ g.edges := by
  induction fuel generalizing n with
  | zero => cases hfuel
  | succ fuel ih =>
    by_cases hstart : n = start
    · subst hstart
      simp [wayBack, distance_self]
    · obtain ⟨p, hp⟩ := Option.isSome_iff_exists.mp ((isSome_lookup_iff hstart).mpr hn)
      obtain ⟨l₁, l₂, rfl, -⟩ := List.lookup_eq_some_iff.mp hp
      obtain ⟨hedge, hpfound, hdistance⟩ := h.nearer n p (by simp)
      obtain ⟨hlength, hnear, hpairwise, hchain⟩ := ih hpfound (by omega)
      have hway : wayBack (l₁ ++ (n, p) :: l₂) start (fuel + 1) n =
          n :: wayBack (l₁ ++ (n, p) :: l₂) start fuel p := by
        rw [wayBack, if_neg (by simpa using hstart), hp]
      rw [hway]
      refine ⟨by rw [List.length_cons, hlength, hdistance], fun m hm => ?_, ?_, fun l hl => ?_⟩
      · rcases List.mem_cons.mp hm with rfl | hm
        · exact ⟨hdistance ▸ Nat.succ_pos _, le_rfl⟩
        · obtain ⟨hpos, hle⟩ := hnear m hm
          exact ⟨hpos, by omega⟩
      · refine List.pairwise_cons.mpr ⟨fun m hm => ?_, hpairwise⟩
        have hle := (hnear m hm).2
        omega
      · rw [List.reverse_cons, ← List.cons_append, List.append_assoc]
        exact List.isChain_split.mpr ⟨hchain n hedge, List.isChain_pair.mpr hl⟩

/-- A node with an edge back to the start that is next to be visited closes a shortest cycle. -/
theorem distance_le_of_inSteps (h : CycleSearch g start visited (n :: queue) cameFrom) {k : Nat}
    (hk : g.InSteps start (k + 1) start) : g.distance start n ≤ k := by
  cases hk with
  | @step _ m _ hm hedge =>
    by_contra hlt
    have hfar : ∀ q ∈ n :: queue, k < g.distance start q := fun q hq =>
      (Nat.lt_of_not_le hlt).trans_le (h.le_of_mem_queue hq)
    have hfound := h.mem_found (fun q hq => (hfar q hq).le) hm
    -- the last node before the start was visited, and has no edge back to it
    rcases (h.searching.split m).mp hfound with hvisited | hqueue
    · exact h.no_way_back m hvisited hedge
    · exact (hfar m hqueue).not_ge hm.distance_le

end CycleSearch

/-- Something waits as long as no cycle was found, if there is one. -/
theorem CycleSearch.queue_ne_nil {visited queue : List Nat} {cameFrom : List (Nat × Nat)}
    (h : CycleSearch g start visited queue cameFrom)
    (hcycle : TransGen (fun a b => (a, b) ∈ g.edges) start start) : queue ≠ [] := by
  rintro rfl
  obtain ⟨m, hway, hedge⟩ := TransGen.tail'_iff.mp hcycle
  obtain ⟨k, hk⟩ := exists_inSteps hway
  have hfound := h.mem_found (by simp) hk
  exact h.no_way_back m (((h.searching.split m).mp hfound).resolve_right (by simp)) hedge

/-- The search finds a shortest cycle through its start, if there is one. -/
theorem searchCycle_spec {fuel : Nat} {visited queue : List Nat} {cameFrom : List (Nat × Nat)}
    (hg : g.Bounded) (h : CycleSearch g start visited queue cameFrom)
    (hfuel : queue.length + g.size ≤ fuel + (found start cameFrom).length)
    (hcycle : TransGen (fun a b => (a, b) ∈ g.edges) start start) :
    ∃ between, g.searchCycle start fuel queue cameFrom = start :: between ++ [start] ∧
      (start :: between).Nodup ∧
      (start :: between ++ [start]).IsChain (fun a b => (a, b) ∈ g.edges) ∧
      ∀ k, g.InSteps start (k + 1) start → between.length ≤ k := by
  induction fuel generalizing visited queue cameFrom with
  | zero =>
    -- all nodes have been found, so that no room is left for a queue
    have hsize := length_le_of_nodup_of_lt h.searching.nodup h.searching.lt_size
    exact absurd (List.eq_nil_of_length_eq_zero (by omega)) (h.queue_ne_nil hcycle)
  | succ fuel ih =>
    obtain ⟨n, queue, rfl⟩ := List.exists_cons_of_ne_nil (h.queue_ne_nil hcycle)
    simp only [searchCycle]
    split
    · next hlast =>
      have hedge : (n, start) ∈ g.edges := mem_successors.mp (List.contains_iff_mem.mp hlast)
      have hnear : g.distance start n < g.size + 1 := by
        have hle := h.near n h.head_mem_found
        have hsize := length_le_of_nodup_of_lt h.searching.nodup h.searching.lt_size
        rw [length_found] at hsize
        omega
      obtain ⟨hlength, hdistances, hpairwise, hchain⟩ := h.wayBack_spec h.head_mem_found hnear
      refine ⟨_, rfl, ?_, hchain start hedge, fun k hk => ?_⟩
      · refine List.nodup_cons.mpr ⟨fun hmem => ?_, ?_⟩
        · have hpos := (hdistances start (List.mem_reverse.mp hmem)).1
          exact hpos.ne' (distance_self g start)
        · rw [List.nodup_reverse]
          exact hpairwise.imp fun hlt heq => hlt.ne (congrArg _ heq.symm)
      · rw [List.length_reverse, hlength]
        exact h.distance_le_of_inSteps hk
    · next hopen =>
      have hback : (n, start) ∉ g.edges := fun hedge =>
        hopen (List.contains_iff_mem.mpr (mem_successors.mpr hedge))
      rw [foldl_cameFrom (mt mem_successors.mp hback), List.nil_append]
      refine ih (h.visit hg hback) ?_
      simp only [length_found, List.length_append, List.length_map, List.length_reverse,
        List.length_cons] at hfuel ⊢
      omega

/-- At the beginning the start waits alone. -/
theorem cycleSearch_begin (hstart : start < g.size) : CycleSearch g start [] [start] [] where
  searching := ⟨by simp [found], by simpa [found] using hstart, by simp [found], by simp⟩
  no_way_back := by simp
  reached n hn := by
    obtain rfl := List.mem_singleton.mp hn
    exact ⟨0, .zero⟩
  nearer := by simp
  visited_first := by simp
  ascending := List.pairwise_singleton ..
  spread := by simp
  near n hn := by
    obtain rfl := List.mem_singleton.mp hn
    exact (distance_self g n).le

/-- **A shortest cycle through a node is found**, if there is one. -/
theorem cycleThrough_shortest (hg : g.Bounded)
    (hcycle : TransGen (fun a b => (a, b) ∈ g.edges) start start) :
    ∃ between, g.cycleThrough start = start :: between ++ [start] ∧
      (start :: between).Nodup ∧
      (start :: between ++ [start]).IsChain (fun a b => (a, b) ∈ g.edges) ∧
      ∀ walk, ClosedWalk (fun a b => (a, b) ∈ g.edges) walk → start ∈ walk →
        between.length + 2 ≤ walk.length := by
  have hstart : start < g.size := by
    obtain ⟨m, hedge, -⟩ := TransGen.head'_iff.mp hcycle
    exact (hg _ hedge).1
  have hfuel : [start].length + g.size ≤ g.size + 1 + (found start []).length := by
    simp only [length_found, List.length_singleton, List.length_nil]
    omega
  obtain ⟨between, hway, hnd, hchain, hshortest⟩ :=
    searchCycle_spec hg (cycleSearch_begin hstart) hfuel hcycle
  refine ⟨between, hway, hnd, hchain, fun walk hwalk hmem => ?_⟩
  obtain ⟨k, hk, hlength⟩ := inSteps_of_closedWalk hwalk hmem
  have hle := hshortest k hk
  omega

end AssetFlow.Graph

namespace AssetFlow.Pipeline

open Relation

variable {p : Pipeline}

/-! ### The names that are reported -/

/-- The fault of a pipeline whose graph cannot be sorted. -/
theorem graph_eq_error {n : Nat} (h : (AssetGraph.ofAssets p.assets).graph.sorted = .error n) :
    p.graph = .error (.cycle ((AssetGraph.ofAssets p.assets).namesAt
      ((AssetGraph.ofAssets p.assets).graph.cycleThrough n))) := by
  simp only [graph, AssetGraph.build, AssetGraph.order, h]
  rfl

/-- The graph of a pipeline with an asset that is read from itself cannot be sorted. -/
theorem exists_sorted_eq_error (hcyclic : ∃ a, p.Ancestor a a) :
    ∃ n, (AssetGraph.ofAssets p.assets).graph.sorted = .error n := by
  obtain ⟨a, ha⟩ := hcyclic
  obtain ⟨i, hi⟩ := List.getElem?_of_mem ha.consumer_mem
  have hway := (transGen_edges_ofAssets_iff hi hi).mpr ha
  cases hsorted : (AssetGraph.ofAssets p.assets).graph.sorted with
  | ok order =>
    have hg := bounded_ofAssets p
    exact absurd hway ((Graph.sorted_sorts hg hsorted).irreflexive hg i)
  | error n => exact ⟨n, rfl⟩

/-- The places of a pipeline that has assets have names. -/
theorem exists_nameAt (hne : p.names ≠ []) :
    ∃ f : Nat → AssetName, ∀ i < p.names.length, p.names[i]? = some (f i) := by
  refine ⟨fun i => p.names[i]?.getD (p.names.head hne), fun i hi => ?_⟩
  simp [hi]

section Names

variable {f : Nat → AssetName} (hf : ∀ i < p.names.length, p.names[i]? = some (f i))
  {way : List Nat} (hlt : ∀ i ∈ way, i < p.names.length)

include hf hlt

theorem namesAt_eq_map : (AssetGraph.ofAssets p.assets).namesAt way = way.map f := by
  have hname : ∀ i ∈ way, (AssetGraph.ofAssets p.assets).nameAt? i = (some ∘ f) i :=
    fun i hi => hf i (hlt i hi)
  rw [AssetGraph.namesAt, List.filterMap_congr hname, List.filterMap_eq_map]

theorem nodup_map_nameAt (hnd : way.Nodup) : (way.map f).Nodup := by
  refine List.Nodup.map_on (fun i hi k hk heq => ?_) hnd
  have hsame : p.names[i]? = p.names[k]? := by rw [hf i (hlt i hi), hf k (hlt k hk), heq]
  exact (List.getElem?_inj (hlt i hi) p.unique).mp hsame

/-- A way along the edges of the graph is a way along the assets at its places. -/
theorem isChain_map_nameAt
    (hchain : way.IsChain fun a b => (a, b) ∈ (AssetGraph.ofAssets p.assets).graph.edges) :
    (way.map f).IsChain p.Reads := by
  refine (List.isChain_map f).mpr (hchain.imp_of_mem_imp fun i k hi hk hedge => ?_)
  obtain ⟨u, a, hu, ha, hreads⟩ := mem_edges_ofAssets_iff.mp hedge
  obtain rfl := Option.some.inj ((hf i (hlt i hi)).symm.trans hu)
  obtain rfl := Option.some.inj ((hf k (hlt k hk)).symm.trans ha)
  exact hreads

end Names

/-- A walk through assets is followed in the graph by the places of their names. -/
theorem closedWalk_map_idxOf {walk : List AssetName} (h : ClosedWalk p.Reads walk) :
    ClosedWalk (fun a b => (a, b) ∈ (AssetGraph.ofAssets p.assets).graph.edges)
      (walk.map p.names.idxOf) := by
  refine h.map fun u a hreads => mem_edges_ofAssets_iff.mpr ⟨u, a, ?_, ?_, hreads⟩
  · exact List.getElem?_idxOf hreads.1
  · exact List.getElem?_idxOf hreads.consumer_mem

/-- **A reported cycle is real and a shortest one.** A pipeline with an asset that is read from
itself is refused, and the message joins the names on a way through its assets by arrows. The way
comes back to where it begins and meets nothing else twice, each asset on it is read by the next
one, and no walk through its first asset that comes back to where it begins is shorter. -/
theorem names_shortest_cycle (fault : CoreError → String) (hcyclic : ∃ a, p.Ancestor a a) :
    ∃ names, p.graph = .error (.cycle names) ∧
      (CoreError.cycle names).message fault = "[E004] Assets depend on each other in a cycle: " ++
        " -> ".intercalate (names.map AssetName.text) ∧
      ClosedWay p.Reads names ∧ 1 < names.length ∧
      ∀ first, names.head? = some first → ∀ walk, ClosedWalk p.Reads walk → first ∈ walk →
        names.length ≤ walk.length := by
  have hg := bounded_ofAssets p
  obtain ⟨j, hsorted⟩ := exists_sorted_eq_error hcyclic
  obtain ⟨between, hway, hnd, hchain, hshortest⟩ :=
    Graph.cycleThrough_shortest hg (Graph.cycle_of_sorted_error hg hsorted)
  have hlt : ∀ i ∈ j :: between ++ [j], i < p.names.length := fun i hi => by
    have hlt := Graph.lt_of_mem_closedWalk hg ⟨j, between, rfl, hchain⟩ hi
    rwa [AssetGraph.size_ofAssets, ← List.length_map Asset.name] at hlt
  have hj : j < p.names.length := hlt j (List.mem_cons_self ..)
  obtain ⟨f, hf⟩ := exists_nameAt (p := p) (List.ne_nil_of_length_pos (Nat.zero_lt_of_lt hj))
  refine ⟨_, graph_eq_error hsorted, rfl, ?_⟩
  rw [hway, namesAt_eq_map hf hlt]
  refine ⟨⟨f j, between.map f, by simp, ?_, isChain_map_nameAt hf hlt hchain⟩, by simp, ?_⟩
  · exact nodup_map_nameAt hf (fun i hi => hlt i (List.mem_append_left _ hi)) hnd
  · intro first hfirst walk hwalk hmem
    obtain rfl : f j = first := by simpa using hfirst
    have hplace : p.names.idxOf (f j) = j := by
      have hidx := List.getElem?_idxOf (List.mem_of_getElem? (hf j hj))
      exact ((List.getElem?_inj hj p.unique).mp ((hf j hj).trans hidx.symm)).symm
    have hle := hshortest _ (closedWalk_map_idxOf hwalk) (hplace ▸ List.mem_map_of_mem hmem)
    simp only [List.length_append, List.length_cons, List.length_nil, List.length_map] at hle ⊢
    omega

/-- Four assets, three of which are read from each other in more than one way. -/
def loopedPipeline : Pipeline where
  config := { name := "shop" }
  root := "."
  assets := [
    { name := ⟨"bookings", by decide⟩, type := "duckdb.sql",
      upstreams := [⟨"accounts", by decide⟩, ⟨"ledger", by decide⟩] },
    { name := ⟨"balances", by decide⟩, type := "duckdb.sql",
      upstreams := [⟨"bookings", by decide⟩] },
    { name := ⟨"ledger", by decide⟩, type := "duckdb.sql",
      upstreams := [⟨"balances", by decide⟩, ⟨"bookings", by decide⟩] },
    { name := ⟨"accounts", by decide⟩, type := "duckdb.sql" }]
  unique := by decide

/-- The way by the balances is longer than the one that is reported. -/
theorem ledger_read_from_bookings : ∃ names, loopedPipeline.graph = .error (.cycle names) ∧
    names.map AssetName.text = ["ledger", "bookings", "ledger"] ∧
    ClosedWay loopedPipeline.Reads names := by
  have hreads : loopedPipeline.Reads ⟨"bookings", by decide⟩ ⟨"ledger", by decide⟩ ∧
      loopedPipeline.Reads ⟨"ledger", by decide⟩ ⟨"bookings", by decide⟩ :=
    ⟨⟨by decide, _, List.mem_of_getElem? (i := 2) rfl, rfl, by decide⟩,
      ⟨by decide, _, List.mem_of_getElem? (i := 0) rfl, rfl, by decide⟩⟩
  obtain ⟨names, hgraph, -, hway, -⟩ :=
    names_shortest_cycle (fun _ => "") ⟨_, .tail (.single hreads.1) hreads.2⟩
  have heq : loopedPipeline.graph = .error (.cycle [⟨"ledger", by decide⟩, ⟨"bookings", by decide⟩,
    ⟨"ledger", by decide⟩]) := rfl
  refine ⟨names, hgraph, ?_, hway⟩
  obtain rfl := CoreError.cycle.inj (Except.error.inj (hgraph.symm.trans heq))
  rfl

end AssetFlow.Pipeline
