import AssetFlow.Proofs.Graph.Reach

/-!
# What sorting a graph gives

`Graph.sorted` gives an order only if it holds every node once, with the source of every edge before
its target. The depth first search accounts for the first half: it is given enough steps to empty
its stack, so every node is left in the end. The pass backwards over the order accounts for the
second: it settles the nodes one by one and stops at the first that is not settled in its turn.

## Main statements

- `Graph.sorted_sorts`: an order that is given sorts the graph
- `Graph.Sorts.irreflexive`: a graph that an order sorts has no cycle
-/

namespace AssetFlow.Graph

open Relation

/-- A row holds every node of the graph once, the source of an edge before its target. -/
structure Sorts (g : Graph) (order : List Nat) : Prop where
  nodup : order.Nodup
  mem_iff : ∀ n, n ∈ order ↔ n < g.size
  before : ∀ pre n post, order = pre ++ n :: post → ∀ m, (m, n) ∈ g.edges → m ∈ pre

/-! ### Depth first search -/

/-- What a search keeps to: it works on nodes of the graph, a node that was discovered is left or
waits on the stack, and no discovered node has an edge to itself. -/
structure Search.Sound (g : Graph) (s : Search) : Prop where
  nodup_finished : s.finished.Nodup
  stack_lt : ∀ n ∈ s.stack, n < g.size
  discovered_lt : ∀ n ∈ s.discovered, n < g.size
  discovered_of_finished : ∀ n ∈ s.finished, n ∈ s.discovered
  left_or_waiting : ∀ n ∈ s.discovered, n ∈ s.stack ∨ n ∈ s.finished
  no_loop : ∀ n ∈ s.discovered, (n, n) ∉ g.edges

theorem Search.mem_finished_leave {s : Search} {n m : Nat} {rest : List Nat} :
    m ∈ (s.leave n rest).finished ↔ m = n ∨ m ∈ s.finished := by
  simp only [Search.leave]
  split
  · next h =>
    have hn : n ∈ s.finished := List.contains_iff_mem.mp h
    constructor
    · exact Or.inr
    · rintro (rfl | hm)
      · exact hn
      · exact hm
  · exact List.mem_cons

/-- A search may begin anew at any node. -/
theorem Search.Sound.push {g : Graph} {s : Search} {n : Nat} (h : s.Sound g) (hn : n < g.size) :
    ({ s with stack := n :: s.stack } : Search).Sound g where
  nodup_finished := h.nodup_finished
  stack_lt m hm := by
    rcases List.mem_cons.mp hm with rfl | hm
    · exact hn
    · exact h.stack_lt m hm
  discovered_lt := h.discovered_lt
  discovered_of_finished := h.discovered_of_finished
  left_or_waiting m hm := (h.left_or_waiting m hm).imp_left (List.mem_cons_of_mem n)
  no_loop := h.no_loop

/-- Leaving a node keeps a search sound. -/
theorem Search.Sound.leave {g : Graph} {s : Search} {n : Nat} {rest : List Nat} (h : s.Sound g)
    (hstack : s.stack = n :: rest) (hn : n ∈ s.discovered) : (s.leave n rest).Sound g where
  nodup_finished := by
    simp only [Search.leave]
    split
    · exact h.nodup_finished
    · next hc =>
      exact List.nodup_cons.mpr ⟨fun hm => hc (List.contains_iff_mem.mpr hm), h.nodup_finished⟩
  stack_lt m hm := h.stack_lt m (hstack ▸ List.mem_cons_of_mem n hm)
  discovered_lt := h.discovered_lt
  discovered_of_finished := by
    intro m hm
    rcases Search.mem_finished_leave.mp hm with rfl | hm
    · exact hn
    · exact h.discovered_of_finished m hm
  left_or_waiting := by
    intro m hm
    rw [Search.mem_finished_leave]
    rcases h.left_or_waiting m hm with hm | hm
    · rcases List.mem_cons.mp (hstack ▸ hm) with rfl | hm
      · exact Or.inr (Or.inl rfl)
      · exact Or.inl hm
    · exact Or.inr (Or.inr hm)
  no_loop := h.no_loop

/-- Entering a node keeps a search sound. -/
theorem Search.Sound.enter {g : Graph} {s : Search} {n : Nat} (h : s.Sound g) (hg : g.Bounded)
    (hn : n ∈ s.stack) (hloop : (n, n) ∉ g.edges) : (s.enter g n).Sound g where
  nodup_finished := h.nodup_finished
  stack_lt := by
    intro m hm
    rcases List.mem_append.mp hm with hm | hm
    · have hm := (List.mem_filter.mp (List.mem_reverse.mp hm)).1
      exact (hg _ (mem_successors.mp hm)).2
    · exact h.stack_lt m hm
  discovered_lt := by
    intro m hm
    rcases List.mem_cons.mp hm with rfl | hm
    · exact h.stack_lt m hn
    · exact h.discovered_lt m hm
  discovered_of_finished m hm := List.mem_cons_of_mem n (h.discovered_of_finished m hm)
  left_or_waiting := by
    intro m hm
    rcases List.mem_cons.mp hm with rfl | hm
    · exact Or.inl (List.mem_append_right _ hn)
    · exact (h.left_or_waiting m hm).imp_left (List.mem_append_right _)
  no_loop := by
    intro m hm
    rcases List.mem_cons.mp hm with rfl | hm
    · exact hloop
    · exact h.no_loop m hm

/-- The number of steps that a search still takes at most: one for each node on the stack, and one
for each node and each edge from a node that is still to be discovered. -/
def Search.stepsLeft (g : Graph) (s : Search) : Nat :=
  s.stack.length + (List.range g.size).countP (fun n => !s.discovered.contains n) +
    g.edges.countP fun e => !s.discovered.contains e.1

/-- Two conditions that exclude each other hold together no oftener than a condition that both
imply. -/
theorem countP_add_le {α : Type} {p q r : α → Bool} (hp : ∀ a, p a → r a) (hq : ∀ a, q a → r a)
    (hpq : ∀ a, p a → ¬ q a) (l : List α) : l.countP p + l.countP q ≤ l.countP r := by
  induction l with
  | nil => simp
  | cons a l ih =>
    have h₁ := hp a
    have h₂ := hq a
    have h₃ := hpq a
    simp only [List.countP_cons]
    cases hpa : p a <;> cases hqa : q a <;> cases hra : r a <;> simp_all <;> omega

/-- A node has as many successors as edges start there. -/
theorem length_successors (g : Graph) (n : Nat) :
    (g.successors n).length = g.edges.countP fun e => e.1 == n := by
  rw [successors, List.length_filterMap_eq_countP]
  congr 1
  funext e
  cases h : e.1 == n <;> simp [h]

/-- Entering a node takes a step off those that are left. -/
theorem Search.stepsLeft_enter {g : Graph} {s : Search} {n : Nat} (hlt : n < g.size)
    (hn : n ∉ s.discovered) : (s.enter g n).stepsLeft g + 1 ≤ s.stepsLeft g := by
  have hfresh : ((g.successors n).filter fun m => !(n :: s.discovered).contains m).length ≤
      g.edges.countP fun e => e.1 == n := by
    rw [← length_successors]
    exact List.length_filter_le _ _
  have hedges : (g.edges.countP fun e => e.1 == n) +
      (g.edges.countP fun e => !(n :: s.discovered).contains e.1) ≤
      g.edges.countP fun e => !s.discovered.contains e.1 := by
    apply countP_add_le <;> intro e <;> simp <;> grind
  have hnodes : (List.range g.size).countP (fun m => m == n) +
      (List.range g.size).countP (fun m => !(n :: s.discovered).contains m) ≤
      (List.range g.size).countP fun m => !s.discovered.contains m := by
    apply countP_add_le <;> intro m <;> simp <;> grind
  have hone : 0 < (List.range g.size).countP (fun m => m == n) :=
    List.countP_pos_iff.mpr ⟨n, List.mem_range.mpr hlt, by simp⟩
  simp only [stepsLeft, Search.enter, List.length_append, List.length_reverse]
  omega

/-- A search that is given enough steps empties its stack; whatever was on the stack or discovered
before is discovered then. -/
theorem search_spec {g : Graph} {fuel : Nat} {s s' : Search} (hg : g.Bounded) (h : s.Sound g)
    (hfuel : s.stepsLeft g ≤ fuel) (hs : g.search fuel s = .ok s') :
    s'.Sound g ∧ s'.stack = [] ∧ ∀ n, n ∈ s.stack ∨ n ∈ s.discovered → n ∈ s'.discovered := by
  induction fuel generalizing s with
  | zero =>
    obtain rfl : s = s' := by simpa [search] using hs
    -- every node on the stack needs a step, and none is left
    have hstack : s.stack = [] := by
      apply List.eq_nil_of_length_eq_zero
      simp only [Search.stepsLeft] at hfuel
      omega
    exact ⟨h, hstack, by simp [hstack]⟩
  | succ fuel ih =>
    simp only [search] at hs
    split at hs
    · next hstack =>
      obtain rfl : s = s' := by simpa using hs
      exact ⟨h, hstack, by simp [hstack]⟩
    · next n rest hstack =>
      split at hs
      · next hdisc =>
        -- the node on top has been discovered: it is left
        have hn : n ∈ s.discovered := List.contains_iff_mem.mp hdisc
        obtain ⟨hsound, hempty, hkeep⟩ := ih (h.leave hstack hn) (by
          simp only [Search.stepsLeft, Search.leave, hstack, List.length_cons] at hfuel ⊢
          omega) hs
        refine ⟨hsound, hempty, fun m hm => hkeep m ?_⟩
        rcases hm with hm | hm
        · rcases List.mem_cons.mp (hstack ▸ hm) with rfl | hm
          · exact Or.inr hn
          · exact Or.inl hm
        · exact Or.inr hm
      · next hdisc =>
        split at hs
        · cases hs
        · next hloop =>
          -- the node on top is new: it is entered, and its edges pay for the nodes that it pushes
          have hn : n ∈ s.stack := by simp [hstack]
          have hnew : n ∉ s.discovered := fun hm => hdisc (List.contains_iff_mem.mpr hm)
          have hedge : (n, n) ∉ g.edges := fun he =>
            hloop (List.contains_iff_mem.mpr (mem_successors.mpr he))
          have hless := Search.stepsLeft_enter (h.stack_lt n hn) hnew
          obtain ⟨hsound, hempty, hkeep⟩ := ih (h.enter hg hn hedge) (by omega) hs
          refine ⟨hsound, hempty, fun m hm => hkeep m ?_⟩
          exact hm.imp (List.mem_append_right _) (List.mem_cons_of_mem n)

/-- The fuel of a search is enough for the steps that are left. -/
theorem Search.stepsLeft_le {g : Graph} {s : Search} {n : Nat} (hstack : s.stack = []) :
    ({ s with stack := n :: s.stack } : Search).stepsLeft g ≤ g.searchFuel := by
  have hnodes : (List.range g.size).countP (fun m => !s.discovered.contains m) ≤ g.size := by
    simpa using List.countP_le_length (l := List.range g.size)
  have hedges : (g.edges.countP fun e => !s.discovered.contains e.1) ≤ g.edges.length :=
    List.countP_le_length
  simp only [stepsLeft, searchFuel, hstack, List.length_singleton]
  omega

/-- The searches from the nodes of a row, one after another, discover all of them. -/
theorem foldlM_search {g : Graph} {ns : List Nat} {s s' : Search} (hg : g.Bounded)
    (hns : ∀ n ∈ ns, n < g.size) (h : s.Sound g) (hstack : s.stack = [])
    (hs : ns.foldlM (fun s n => if s.discovered.contains n then pure s
      else g.search g.searchFuel { s with stack := n :: s.stack }) s = .ok s') :
    s'.Sound g ∧ s'.stack = [] ∧ ∀ n, n ∈ ns ∨ n ∈ s.discovered → n ∈ s'.discovered := by
  induction ns generalizing s with
  | nil =>
    obtain rfl : s = s' := by simpa [pure, Except.pure] using hs
    exact ⟨h, hstack, by simp⟩
  | cons n ns ih =>
    have hns' : ∀ m ∈ ns, m < g.size := fun m hm => hns m (List.mem_cons_of_mem n hm)
    simp only [List.foldlM_cons] at hs
    split at hs
    · next hdisc =>
      have hn : n ∈ s.discovered := List.contains_iff_mem.mp hdisc
      -- the node has been discovered from an earlier one
      obtain ⟨hsound, hempty, hkeep⟩ := ih hns' h hstack hs
      refine ⟨hsound, hempty, fun m hm => hkeep m ?_⟩
      rcases hm with hm | hm
      · rcases List.mem_cons.mp hm with rfl | hm
        · exact Or.inr hn
        · exact Or.inl hm
      · exact Or.inr hm
    · -- the search from the node leaves an empty stack to the next one
      cases hone : g.search g.searchFuel { s with stack := n :: s.stack } with
      | error e =>
        rw [hone] at hs
        cases hs
      | ok mid =>
        rw [hone] at hs
        obtain ⟨hmid, hempty, hkeep⟩ :=
          search_spec hg (h.push (hns n List.mem_cons_self)) (Search.stepsLeft_le hstack) hone
        obtain ⟨hsound, hempty', hkeep'⟩ := ih hns' hmid hempty hs
        refine ⟨hsound, hempty', fun m hm => hkeep' m ?_⟩
        rcases hm with hm | hm
        · rcases List.mem_cons.mp hm with rfl | hm
          · exact Or.inr (hkeep m (Or.inl List.mem_cons_self))
          · exact Or.inl hm
        · exact Or.inr (hkeep m (Or.inr hm))

/-- The order in which nodes are left lists each once, and none has an edge to itself. -/
theorem leaveOrder_spec {g : Graph} {order : List Nat} (hg : g.Bounded)
    (h : g.leaveOrder = .ok order) :
    order.Nodup ∧ (∀ n, n ∈ order ↔ n < g.size) ∧ ∀ n ∈ order, (n, n) ∉ g.edges := by
  simp only [leaveOrder] at h
  cases hs : (List.range g.size).foldlM (fun s n => if s.discovered.contains n then pure s
      else g.search g.searchFuel { s with stack := n :: s.stack }) ({} : Search) with
  | error e =>
    rw [hs] at h
    cases h
  | ok s =>
    rw [hs] at h
    obtain rfl : s.finished = order := Except.ok.inj h
    have hempty : ({} : Search).Sound g := by constructor <;> simp
    obtain ⟨hsound, hstack, hkeep⟩ :=
      foldlM_search hg (fun n hn => List.mem_range.mp hn) hempty rfl hs
    refine ⟨hsound.nodup_finished, fun n => ⟨fun hn => ?_, fun hn => ?_⟩, fun n hn => ?_⟩
    · exact hsound.discovered_lt n (hsound.discovered_of_finished n hn)
    -- what is discovered is left, as nothing waits on the stack any more
    · have hdisc := hkeep n (Or.inl (List.mem_range.mpr hn))
      simpa [hstack] using hsound.left_or_waiting n hdisc
    · exact hsound.no_loop n (hsound.discovered_of_finished n hn)

/-! ### The pass backwards -/

theorem visitBack_cons {g : Graph} {fuel n : Nat} {stack marked : List Nat} (hn : n ∉ marked) :
    g.visitBack (fuel + 1) (n :: stack) marked =
      (n :: (g.visitBack fuel (((g.predecessors n).filter fun m => !(n :: marked).contains m).reverse
          ++ stack) (n :: marked)).1,
        (g.visitBack fuel (((g.predecessors n).filter fun m => !(n :: marked).contains m).reverse
          ++ stack) (n :: marked)).2) := by
  rw [visitBack, if_neg (by simpa using hn)]

/-- A node is settled in its turn only if all nodes before it were settled earlier. -/
theorem visitBack_singleton {g : Graph} {fuel n : Nat} {marked : List Nat} (hn : n ∉ marked)
    (h : ∀ m j rest, (g.visitBack (fuel + 2) [n] marked).1 ≠ m :: j :: rest) :
    (g.visitBack (fuel + 2) [n] marked) = ([n], n :: marked) ∧
      ∀ m, (m, n) ∈ g.edges → m = n ∨ m ∈ marked := by
  rw [visitBack_cons hn, List.append_nil] at h ⊢
  cases hfresh : ((g.predecessors n).filter fun m => !(n :: marked).contains m).reverse with
  -- no source is left to visit: each was marked before
  | nil =>
    refine ⟨by rw [visitBack], fun m hm => ?_⟩
    have hnone : m ∉ (g.predecessors n).filter fun m => !(n :: marked).contains m := by
      rw [List.reverse_eq_nil_iff.mp hfresh]
      exact List.not_mem_nil
    by_contra hno
    refine hnone (List.mem_filter.mpr ⟨mem_predecessors.mpr hm, ?_⟩)
    simpa using hno
  -- a source that is not marked would be visited next
  | cons j rest =>
    have hj : j ∈ ((g.predecessors n).filter fun m => !(n :: marked).contains m).reverse := by
      rw [hfresh]
      exact List.mem_cons_self
    have hj' : j ∉ n :: marked := by
      simpa using (List.mem_filter.mp (List.mem_reverse.mp hj)).2
    rw [hfresh, visitBack_cons hj'] at h
    exact absurd rfl (h n j _)

theorem exists_searchFuel {g : Graph} (hsize : 0 < g.size) : ∃ fuel, g.searchFuel = fuel + 2 := by
  refine ⟨g.searchFuel - 2, ?_⟩
  simp only [searchFuel]
  omega

/-- If no node is misplaced, an edge into a node starts there, before it, or at a marked node. -/
theorem misplaced?_eq_none {g : Graph} {order marked : List Nat} (hsize : order ≠ [] → 0 < g.size)
    (hnd : order.Nodup) (hnew : ∀ n ∈ order, n ∉ marked) (h : g.misplaced? order marked = none)
    (pre : List Nat) (n : Nat) (post : List Nat) (hsplit : order = pre ++ n :: post) (m : Nat)
    (hm : (m, n) ∈ g.edges) : m = n ∨ m ∈ pre ∨ m ∈ marked := by
  induction order generalizing marked pre with
  | nil => simp at hsplit
  | cons k rest ih =>
    obtain ⟨hk, hrest⟩ := List.nodup_cons.mp hnd
    have hpos := hsize (List.cons_ne_nil k rest)
    obtain ⟨fuel, hfuel⟩ := exists_searchFuel hpos
    simp only [misplaced?, hfuel] at h
    split at h
    · cases h
    · next hvisit =>
      obtain ⟨hback, hbefore⟩ := visitBack_singleton (hnew k List.mem_cons_self) hvisit
      cases pre with
      | nil =>
        obtain ⟨rfl, -⟩ := List.cons.inj hsplit
        exact (hbefore m hm).imp_right Or.inr
      | cons k' pre =>
        -- the first node is marked now, and it stands before all others
        obtain ⟨rfl, hrow⟩ := List.cons.inj hsplit
        rw [hback] at h
        have hnew' : ∀ n ∈ rest, n ∉ k :: marked := by
          rintro n hn hmem
          rcases List.mem_cons.mp hmem with rfl | hmem
          · exact hk hn
          · exact hnew n (List.mem_cons_of_mem k hn) hmem
        rcases ih (fun _ => hpos) hrest hnew' h pre hrow with heq | hpre | hmark
        · exact Or.inl heq
        · exact Or.inr (Or.inl (List.mem_cons_of_mem k hpre))
        · rcases List.mem_cons.mp hmark with rfl | hmark
          · exact Or.inr (Or.inl List.mem_cons_self)
          · exact Or.inr (Or.inr hmark)

/-- **Soundness of sorting**: an order that is given sorts the graph. -/
theorem sorted_sorts {g : Graph} {order : List Nat} (hg : g.Bounded) (h : g.sorted = .ok order) :
    g.Sorts order := by
  simp only [sorted] at h
  cases hl : g.leaveOrder with
  | error e =>
    rw [hl] at h
    cases h
  | ok row =>
    simp only [hl, bind, Except.bind] at h
    cases hm : g.misplaced? row [] with
    | some j =>
      rw [hm] at h
      cases h
    | none =>
      rw [hm] at h
      obtain rfl : row = order := Except.ok.inj h
      obtain ⟨hnd, hmem, hloop⟩ := leaveOrder_spec hg hl
      refine ⟨hnd, hmem, fun pre n post hsplit m hedge => ?_⟩
      have hn : n ∈ row := by simp [hsplit]
      have hpos : row ≠ [] → 0 < g.size := fun _ => Nat.zero_lt_of_lt ((hmem n).mp hn)
      -- nothing is marked in the beginning, and an edge from a node to itself was ruled out before
      rcases misplaced?_eq_none hpos hnd (by simp) hm pre n post hsplit m hedge with rfl | hpre | hno
      · exact absurd hedge (hloop m hn)
      · exact hpre
      · simp at hno

/-! ### Orders and cycles -/

/-- In a sorted order, all that leads to a node stands before it. -/
theorem Sorts.before_of_transGen {g : Graph} {order : List Nat} (h : g.Sorts order) {m n : Nat}
    (hreach : TransGen (fun a b => (a, b) ∈ g.edges) m n) (pre post : List Nat)
    (hsplit : order = pre ++ n :: post) : m ∈ pre := by
  induction hreach generalizing pre post with
  | single hedge => exact h.before pre _ post hsplit _ hedge
  | tail _ hedge ih =>
    obtain ⟨pre', post', rfl⟩ := List.append_of_mem (h.before pre _ post hsplit _ hedge)
    rw [List.append_assoc, List.cons_append] at hsplit
    exact List.mem_append_left _ (ih pre' _ hsplit)

/-- A graph that an order sorts has no cycle. -/
theorem Sorts.irreflexive {g : Graph} {order : List Nat} (h : g.Sorts order) (hg : g.Bounded)
    (n : Nat) : ¬ TransGen (fun a b => (a, b) ∈ g.edges) n n := by
  intro hreach
  have hlt : n < g.size := by
    cases hreach with
    | single hedge => exact (hg _ hedge).2
    | tail _ hedge => exact (hg _ hedge).2
  obtain ⟨pre, post, hsplit⟩ := List.append_of_mem ((h.mem_iff n).mpr hlt)
  have hpre := h.before_of_transGen hreach pre post hsplit
  have hnd := h.nodup
  rw [hsplit, List.nodup_append] at hnd
  exact hnd.2.2 n hpre n List.mem_cons_self rfl

end AssetFlow.Graph
