import AssetFlow.Graph
import Mathlib.Data.List.Perm.Subperm
import Mathlib.Logic.Relation

/-!
# What a breadth first search finds

`Graph.reachable` lists, each once, the nodes other than the start that a way along the edges leads
to. The search is given as many steps as there are nodes; `breadthFirst_closed` shows that they are
enough, because every step takes a node off the queue for good.

## Main statements

- `Graph.mem_reachable_iff`: the nodes that are found are those that a way leads to
- `Graph.nodup_reachable`: no node is found twice
-/

namespace AssetFlow.Graph

open Relation

/-- A node comes next after another in a traversal. -/
def Follows (next : Nat → List Nat) (a b : Nat) : Prop :=
  b ∈ next a

/-- All places that edges of the graph have are below its size. -/
def Bounded (g : Graph) : Prop :=
  ∀ e ∈ g.edges, e.1 < g.size ∧ e.2 < g.size

theorem mem_successors {g : Graph} {s t : Nat} : t ∈ g.successors s ↔ (s, t) ∈ g.edges := by
  simp only [successors, List.mem_filterMap, Prod.exists]
  constructor
  · rintro ⟨a, b, he, h⟩
    split at h
    · next hs =>
      obtain rfl := Option.some.inj h
      rwa [← beq_iff_eq.mp hs]
    · cases h
  · intro he
    exact ⟨s, t, he, by simp⟩

theorem mem_predecessors {g : Graph} {s t : Nat} : s ∈ g.predecessors t ↔ (s, t) ∈ g.edges := by
  simp only [predecessors, List.mem_filterMap, Prod.exists]
  constructor
  · rintro ⟨a, b, he, h⟩
    split at h
    · next ht =>
      obtain rfl := Option.some.inj h
      rwa [← beq_iff_eq.mp ht]
    · cases h
  · intro he
    exact ⟨s, t, he, by simp⟩

/-! ### One row of neighbours -/

/-- What is discovered are the listed nodes that were not seen. -/
theorem mem_discover_fst {seen ns : List Nat} {m : Nat} :
    m ∈ (discover seen ns).1 ↔ m ∈ ns ∧ m ∉ seen := by
  induction ns generalizing seen with
  | nil => simp [discover]
  | cons n rest ih =>
    rw [discover]
    split
    · next h =>
      have hn : n ∈ seen := List.contains_iff_mem.mp h
      rw [ih, List.mem_cons]
      constructor
      · rintro ⟨hm, hs⟩
        exact ⟨Or.inr hm, hs⟩
      · rintro ⟨rfl | hm, hs⟩
        · exact absurd hn hs
        · exact ⟨hm, hs⟩
    · next h =>
      have hn : n ∉ seen := fun hm => h (List.contains_iff_mem.mpr hm)
      simp only [List.mem_cons, ih, not_or]
      constructor
      · rintro (rfl | ⟨hm, _, hs⟩)
        · exact ⟨Or.inl rfl, hn⟩
        · exact ⟨Or.inr hm, hs⟩
      · rintro ⟨hm, hs⟩
        by_cases he : m = n
        · exact Or.inl he
        · exact Or.inr ⟨hm.resolve_left he, he, hs⟩

/-- What is seen after a discovery was seen before or is listed. -/
theorem mem_discover_snd {seen ns : List Nat} {m : Nat} :
    m ∈ (discover seen ns).2 ↔ m ∈ seen ∨ m ∈ ns := by
  induction ns generalizing seen with
  | nil => simp [discover]
  | cons n rest ih =>
    rw [discover]
    split
    · next h =>
      have hn : n ∈ seen := List.contains_iff_mem.mp h
      rw [ih, List.mem_cons]
      constructor
      · exact Or.imp_right Or.inr
      · rintro (hs | rfl | hm)
        · exact Or.inl hs
        · exact Or.inl hn
        · exact Or.inr hm
    · simp only [ih, List.mem_cons]
      tauto

/-- No node is discovered twice. -/
theorem nodup_discover_fst (seen ns : List Nat) : (discover seen ns).1.Nodup := by
  induction ns generalizing seen with
  | nil => simp [discover]
  | cons n rest ih =>
    rw [discover]
    split
    · exact ih seen
    · refine List.nodup_cons.mpr ⟨fun h => ?_, ih (n :: seen)⟩
      exact (mem_discover_fst.mp h).2 List.mem_cons_self

theorem nodup_discover_snd {seen : List Nat} (h : seen.Nodup) (ns : List Nat) :
    (discover seen ns).2.Nodup := by
  induction ns generalizing seen with
  | nil => simpa [discover] using h
  | cons n rest ih =>
    rw [discover]
    split
    · exact ih h
    · next hn => exact ih (List.nodup_cons.mpr ⟨fun hm => hn (List.contains_iff_mem.mpr hm), h⟩)

/-- Every discovery is one more node that was seen. -/
theorem length_discover_snd (seen ns : List Nat) :
    (discover seen ns).2.length = seen.length + (discover seen ns).1.length := by
  induction ns generalizing seen with
  | nil => simp [discover]
  | cons n rest ih =>
    rw [discover]
    split
    · exact ih seen
    · simp only [ih (n :: seen), List.length_cons]
      omega

/-! ### The whole search -/

variable {next : Nat → List Nat}

/-- Whatever is found is reached from a node of the queue. -/
theorem breadthFirst_sound {fuel : Nat} {queue seen : List Nat} {m : Nat}
    (h : m ∈ breadthFirst next fuel queue seen) :
    ∃ n ∈ queue, ReflTransGen (Follows next) n m := by
  induction fuel generalizing queue seen with
  | zero => simp [breadthFirst] at h
  | succ fuel ih =>
    cases queue with
    | nil => simp [breadthFirst] at h
    | cons n queue =>
      simp only [breadthFirst, List.mem_cons] at h
      obtain rfl | h := h
      · exact ⟨m, List.mem_cons_self, .refl⟩
      · obtain ⟨k, hk, hreach⟩ := ih h
        rcases List.mem_append.mp hk with hk | hk
        · exact ⟨k, List.mem_cons_of_mem _ hk, hreach⟩
        · exact ⟨n, List.mem_cons_self, .head (mem_discover_fst.mp hk).1 hreach⟩

/-- A row of different numbers below a bound is not longer than the bound. -/
theorem length_le_of_nodup_of_lt {ns : List Nat} {size : Nat} (hnd : ns.Nodup)
    (hlt : ∀ n ∈ ns, n < size) : ns.length ≤ size := by
  have hsub : ns ⊆ List.range size := fun n hn => List.mem_range.mpr (hlt n hn)
  simpa using (List.Nodup.subperm hnd hsub).length_le

/-- The state of a search on its way: what was seen has been visited or waits in the queue, and all
that follows a visited node was seen. -/
structure Searching (next : Nat → List Nat) (size : Nat) (visited queue seen : List Nat) : Prop where
  nodup : seen.Nodup
  lt_size : ∀ n ∈ seen, n < size
  split : ∀ n, n ∈ seen ↔ n ∈ visited ∨ n ∈ queue
  closed : ∀ n ∈ visited, ∀ m ∈ next n, m ∈ seen

/-- Visiting the head of the queue is one step of a search. -/
theorem Searching.visit {size n : Nat} {visited queue seen : List Nat}
    (h : Searching next size visited (n :: queue) seen) (hlt : ∀ m ∈ next n, m < size) :
    Searching next size (n :: visited) (queue ++ (discover seen (next n)).1)
      (discover seen (next n)).2 where
  nodup := nodup_discover_snd h.nodup _
  lt_size := by
    intro m hm
    rcases mem_discover_snd.mp hm with hm | hm
    · exact h.lt_size m hm
    · exact hlt m hm
  split := by
    intro m
    rw [mem_discover_snd, List.mem_append, mem_discover_fst, h.split m]
    have hs := h.split m
    simp only [List.mem_cons] at hs ⊢
    tauto
  closed := by
    intro m hm k hk
    rw [mem_discover_snd]
    rcases List.mem_cons.mp hm with rfl | hm
    · exact Or.inr hk
    · exact Or.inl (h.closed m hm k hk)

/-- With enough steps a search visits its whole queue, and all that follows a node that it has
visited. -/
theorem breadthFirst_closed {size fuel : Nat} {visited queue seen : List Nat}
    (h : Searching next size visited queue seen)
    (hlt : ∀ n < size, ∀ m ∈ next n, m < size)
    (hfuel : queue.length + size ≤ fuel + seen.length) :
    (∀ n ∈ queue, n ∈ breadthFirst next fuel queue seen) ∧
    ∀ n, n ∈ visited ∨ n ∈ breadthFirst next fuel queue seen →
      ∀ m ∈ next n, m ∈ visited ∨ m ∈ breadthFirst next fuel queue seen := by
  induction fuel generalizing visited queue seen with
  | zero =>
    -- all nodes have been seen, so that no room is left for a queue
    have hlen := length_le_of_nodup_of_lt h.nodup h.lt_size
    have hqueue : queue = [] := List.eq_nil_of_length_eq_zero (by omega)
    subst hqueue
    simp only [List.not_mem_nil, or_false, breadthFirst] at *
    exact ⟨fun n hn => hn.elim, fun n hn m hm => by simpa using (h.split m).mp (h.closed n hn m hm)⟩
  | succ fuel ih =>
    cases queue with
    | nil =>
      simp only [List.not_mem_nil, or_false, breadthFirst] at *
      -- what follows a visited node was seen, and what was seen has been visited
      exact ⟨fun n hn => hn.elim, fun n hn m hm => by simpa using (h.split m).mp (h.closed n hn m hm)⟩
    | cons n queue =>
      have hn : n < size := h.lt_size n ((h.split n).mpr (Or.inr List.mem_cons_self))
      have hstep := h.visit (hlt n hn)
      -- the queue grows by as many nodes as are seen, so that the steps still suffice
      obtain ⟨hqueue, hclosed⟩ := ih hstep (by
        rw [length_discover_snd, List.length_append]
        simp only [List.length_cons] at hfuel
        omega)
      simp only [breadthFirst, List.mem_cons]
      refine ⟨?_, ?_⟩
      · rintro k (rfl | hk)
        · exact Or.inl rfl
        · exact Or.inr (hqueue k (List.mem_append_left _ hk))
      · intro k hk m hm
        have := hclosed k (by simp only [List.mem_cons]; tauto) m hm
        simp only [List.mem_cons] at this
        tauto

/-- Nothing that was found before is found again. -/
theorem nodup_breadthFirst {fuel : Nat} {queue seen : List Nat} (hqueue : queue.Nodup)
    (hseen : ∀ n ∈ queue, n ∈ seen) :
    (breadthFirst next fuel queue seen).Nodup ∧
    ∀ n ∈ breadthFirst next fuel queue seen, n ∈ seen → n ∈ queue := by
  induction fuel generalizing queue seen with
  | zero => simp [breadthFirst]
  | succ fuel ih =>
    cases queue with
    | nil => simp [breadthFirst]
    | cons n queue =>
      obtain ⟨hn, hqueue⟩ := List.nodup_cons.mp hqueue
      have hdisjoint : ∀ m ∈ queue, ∀ k ∈ (discover seen (next n)).1, m ≠ k := by
        rintro m hm _ hk rfl
        exact (mem_discover_fst.mp hk).2 (hseen m (List.mem_cons_of_mem _ hm))
      have hwaiting : ∀ m ∈ queue ++ (discover seen (next n)).1, m ∈ (discover seen (next n)).2 := by
        intro m hm
        rw [mem_discover_snd]
        rcases List.mem_append.mp hm with hm | hm
        · exact Or.inl (hseen m (List.mem_cons_of_mem _ hm))
        · exact Or.inr (mem_discover_fst.mp hm).1
      obtain ⟨hnd, hback⟩ :=
        ih (List.nodup_append.mpr ⟨hqueue, nodup_discover_fst _ _, hdisjoint⟩) hwaiting
      -- what was seen before is found again only if it was waiting already
      have hold : ∀ m ∈ breadthFirst next fuel (queue ++ (discover seen (next n)).1)
          (discover seen (next n)).2, m ∈ seen → m ∈ queue := by
        intro m hm hs
        rcases List.mem_append.mp (hback m hm (mem_discover_snd.mpr (Or.inl hs))) with h | h
        · exact h
        · exact absurd hs (mem_discover_fst.mp h).2
      simp only [breadthFirst]
      refine ⟨List.nodup_cons.mpr ⟨fun h => hn (hold n h (hseen n List.mem_cons_self)), hnd⟩, ?_⟩
      intro m hm hs
      rcases List.mem_cons.mp hm with rfl | hm
      · exact List.mem_cons_self
      · exact List.mem_cons_of_mem _ (hold m hm hs)

/-! ### Reachable nodes -/

/-- **Exactness of the search**: a node is found just if it is not the start and a way leads to
it. -/
theorem mem_reachable_iff {g : Graph} {start : Nat} (hstart : start < g.size)
    (hlt : ∀ n < g.size, ∀ m ∈ next n, m < g.size) (m : Nat) :
    m ∈ g.reachable next start ↔ m ≠ start ∧ ReflTransGen (Follows next) start m := by
  have hsearch : Searching next g.size [] [start] [start] :=
    ⟨by simp, by simpa using hstart, by simp, by simp⟩
  have hfuel : [start].length + g.size ≤ g.size + 1 + [start].length := by
    simp only [List.length_singleton]
    omega
  obtain ⟨hqueue, hclosed⟩ := breadthFirst_closed hsearch hlt hfuel
  simp only [List.not_mem_nil, false_or] at hclosed
  simp only [reachable, List.mem_filter, bne_iff_ne]
  constructor
  · rintro ⟨hm, hne⟩
    obtain ⟨n, hn, hreach⟩ := breadthFirst_sound hm
    exact ⟨hne, List.mem_singleton.mp hn ▸ hreach⟩
  · rintro ⟨hne, hreach⟩
    refine ⟨?_, hne⟩
    clear hne
    -- along the way every node is found because the one before it is
    induction hreach with
    | refl => exact hqueue start List.mem_cons_self
    | tail _ hstep ih => exact hclosed _ ih _ hstep

theorem nodup_reachable (g : Graph) (next : Nat → List Nat) (start : Nat) :
    (g.reachable next start).Nodup :=
  (nodup_breadthFirst (by simp) (by simp)).1.filter _

end AssetFlow.Graph
