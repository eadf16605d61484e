import AssetFlow.Proofs.Graph.Ancestry

/-!
# Graphs without cycles are sorted

`Graph.sorted` gives an order of every graph without a cycle. A depth first search leaves a node
only after all nodes that its edges lead to, but for those from which a way leads back to it: as
long as a node waits on the stack, everything above it is reached from it, so an edge to a node that
still waits below closes a cycle. The order in which the nodes of a graph without cycles are left,
reversed, therefore has the source of every edge before its target, and the pass backwards finds
nothing to object to.

## Main definitions

- `ClosedWay`: a way back to where it begins
- `Graph.Acyclic`: no way leads from a node back to itself
- `Graph.Search.pushed`: the nodes that are put on the stack when a node is entered
- `Graph.Search.PostOrdered`: the order that a search keeps to

## Main statements

- `Graph.leaveOrder_after`: the order in which nodes are left
- `Graph.exists_sorted_iff`: the graphs that are sorted are those without a cycle
- `Pipeline.exists_graph`: a pipeline none of whose assets is read from itself has a graph
- `Pipeline.graph_decides_cycles`: a pipeline has a graph, and then an order, just if it has no
  cycle
-/

namespace AssetFlow

/-- A way comes back to where it begins and meets nothing else twice. -/
def ClosedWay {α : Type} (r : α → α → Prop) (way : List α) : Prop :=
  ∃ first between, way = first :: between ++ [first] ∧ (first :: between).Nodup ∧ way.IsChain r

theorem transGen_of_isChain {α : Type} {r : α → α → Prop} {a b : α} {between : List α}
    (h : (a :: between ++ [b]).IsChain r) : Relation.TransGen r a b := by
  induction between generalizing a with
  | nil => exact .single (List.isChain_cons_cons.mp h).1
  | cons c between ih =>
    obtain ⟨hstep, hrest⟩ := List.isChain_cons_cons.mp h
    exact .head hstep (ih hrest)

end AssetFlow

namespace AssetFlow.Graph

open Relation

/-- No way along the edges leads from a node back to itself. -/
def Acyclic (g : Graph) : Prop :=
  ∀ n, ¬ TransGen (fun a b => (a, b) ∈ g.edges) n n

/-- The order that a search keeps to. The nodes that were left stand before those that their edges
lead to, unless a way leads back from these. A node that was discovered and not left waits on the
stack, at its topmost place there; its edges lead to nodes that were left or are above it, unless a
way leads back, and all that is above it is reached from it. -/
structure Search.PostOrdered (g : Graph) (s : Search) : Prop where
  after : ∀ pre n post, s.finished = pre ++ n :: post → ∀ m, (n, m) ∈ g.edges →
    m ∈ post ∨ TransGen (fun a b => (a, b) ∈ g.edges) m n
  edges_above : ∀ above n below, s.stack = above ++ n :: below → n ∉ above → n ∈ s.discovered →
    n ∉ s.finished → ∀ m, (n, m) ∈ g.edges →
      (m ∈ s.finished ∨ m ∈ above) ∨ TransGen (fun a b => (a, b) ∈ g.edges) m n
  reaches_above : ∀ above n below, s.stack = above ++ n :: below → n ∉ above →
    n ∈ s.discovered → n ∉ s.finished →
      ∀ m ∈ above, TransGen (fun a b => (a, b) ∈ g.edges) n m

namespace Search

variable {g : Graph} {n : Nat} {rest : List Nat}

/-- The nodes that are put on the stack when a node is entered. -/
def pushed (g : Graph) (s : Search) (n : Nat) : List Nat :=
  ((g.successors n).filter fun m => !(n :: s.discovered).contains m).reverse

theorem mem_pushed {s : Search} {m : Nat} :
    m ∈ s.pushed g n ↔ (n, m) ∈ g.edges ∧ m ≠ n ∧ m ∉ s.discovered := by
  simp [pushed, mem_successors]

/-- A list is cut at the first place of a node in one way only. -/
theorem cut_at_first {above above' below below' : List Nat} (habove : n ∉ above)
    (habove' : n ∉ above') (h : above ++ n :: below = above' ++ n :: below') :
    above = above' ∧ below = below' := by
  have hlength : above.length = above'.length := by
    have hplace := congrArg (List.idxOf n) h
    simpa [List.idxOf_append_of_notMem habove, List.idxOf_append_of_notMem habove'] using hplace
  obtain ⟨hcut, hrest⟩ := List.append_inj h hlength
  exact ⟨hcut, (List.cons.inj hrest).2⟩

/-- When a node is entered, a discovered node that waits is this one, below what is pushed, or
waited below it before. -/
theorem waits_enter (s : Search) (hstack : s.stack = n :: rest) (hn : n ∉ s.discovered)
    {above below : List Nat} {m : Nat} (hsplit : (s.enter g n).stack = above ++ m :: below)
    (habove : m ∉ above) (hm : m ∈ n :: s.discovered) :
    (m = n ∧ above = s.pushed g n) ∨
      ∃ above', above = s.pushed g n ++ n :: above' ∧ rest = above' ++ m :: below ∧
        m ∉ above' ∧ m ∈ s.discovered := by
  have hpushed : m ∉ s.pushed g n := by
    rw [mem_pushed]
    rintro ⟨-, hne, hnew⟩
    exact (List.mem_cons.mp hm).elim hne hnew
  have hsplit : s.pushed g n ++ n :: rest = above ++ m :: below := hstack ▸ hsplit
  by_cases hself : m = n
  · subst hself
    exact .inl ⟨rfl, (cut_at_first habove hpushed hsplit.symm).1⟩
  -- another one is below the node that is entered, at its first place there
  · have hrest : m ∈ rest := by
      have hmem : m ∈ s.pushed g n ++ n :: rest := hsplit ▸ by simp
      simpa [hpushed, hself] using hmem
    obtain ⟨above', below', rfl, habove'⟩ := List.eq_append_cons_of_mem hrest
    have hnot : m ∉ s.pushed g n ++ n :: above' := by simp [hpushed, hself, habove']
    have hsplit : (s.pushed g n ++ n :: above') ++ m :: below' = above ++ m :: below := by
      rw [← hsplit, List.append_assoc, List.cons_append]
    obtain ⟨rfl, rfl⟩ := cut_at_first habove hnot hsplit.symm
    exact .inr ⟨above', rfl, rfl, habove', (List.mem_cons.mp hm).resolve_left hself⟩

end Search

namespace Search.PostOrdered

variable {g : Graph} {s : Search} {n : Nat} {rest : List Nat}

/-- A search whose stack is empty may begin anew at a node that was not discovered. -/
theorem push (h : s.PostOrdered g) (hstack : s.stack = []) (hn : n ∉ s.discovered) :
    ({ s with stack := n :: s.stack } : Search).PostOrdered g := by
  have hnone : ∀ above m below, n :: s.stack = above ++ m :: below → m ∉ s.discovered := by
    intro above m below hsplit
    have hm : m ∈ n :: s.stack := hsplit ▸ List.mem_append_right _ (List.mem_cons_self ..)
    rw [hstack, List.mem_singleton] at hm
    exact hm ▸ hn
  constructor
  case after => exact h.after
  case edges_above =>
    intro above m below hsplit _ hm
    exact absurd hm (hnone above m below hsplit)
  case reaches_above =>
    intro above m below hsplit _ hm
    exact absurd hm (hnone above m below hsplit)

/-- The node on top of the stack is left after all nodes that its edges lead to, but for those from
which a way leads back to it. -/
theorem leave (h : s.PostOrdered g) (hstack : s.stack = n :: rest) (hn : n ∈ s.discovered) :
    (s.leave n rest).PostOrdered g := by
  -- a node that still waits is another one, and what was above it but for the top still is
  have hkept : ∀ above m below, rest = above ++ m :: below → m ∉ above →
      m ∉ (s.leave n rest).finished →
        s.stack = (n :: above) ++ m :: below ∧ m ∉ n :: above ∧ m ∉ s.finished := by
    intro above m below hsplit habove hm
    rw [Search.mem_finished_leave, not_or] at hm
    exact ⟨by rw [hstack, hsplit]; rfl, by simp [hm.1, habove], hm.2⟩
  constructor
  case after =>
    simp only [Search.leave]
    split
    · exact h.after
    · next hnew =>
      have hnew : n ∉ s.finished := by simpa using hnew
      intro pre k post hsplit m hm
      rcases pre with _ | ⟨k', pre⟩
      -- the node that is left now: nothing is above it, so its edges lead to nodes that were left
      · obtain ⟨rfl, rfl⟩ := List.cons.inj hsplit
        exact (h.edges_above [] n rest hstack (by simp) hn hnew m hm).imp_left
          fun hm => hm.resolve_right (by simp)
      · exact h.after pre k post (List.cons.inj hsplit).2 m hm
  case edges_above =>
    intro above k below hsplit habove hk hopen m hm
    obtain ⟨hsplit, habove, hopen⟩ := hkept above k below hsplit habove hopen
    rw [Search.mem_finished_leave]
    refine (h.edges_above _ k below hsplit habove hk hopen m hm).imp_left fun hm => ?_
    rcases hm with hm | hm
    · exact .inl (.inr hm)
    · exact (List.mem_cons.mp hm).imp_left .inl
  case reaches_above =>
    intro above k below hsplit habove hk hopen m hm
    obtain ⟨hsplit, habove, hopen⟩ := hkept above k below hsplit habove hopen
    exact h.reaches_above _ k below hsplit habove hk hopen m (List.mem_cons_of_mem n hm)

/-- An edge that leads to a node that waits below closes a cycle, as all that is above that node is
reached from it. -/
theorem finished_or_leads_back (h : s.PostOrdered g) (hsound : s.Sound g)
    (hstack : s.stack = n :: rest) (hn : n ∉ s.discovered) {m : Nat} (hm : m ∈ s.discovered) :
    m ∈ s.finished ∨ TransGen (fun a b => (a, b) ∈ g.edges) m n := by
  by_cases hleft : m ∈ s.finished
  · exact .inl hleft
  have hne : m ≠ n := fun heq => hn (heq ▸ hm)
  have hwaits : m ∈ n :: rest := hstack ▸ (hsound.left_or_waiting m hm).resolve_right hleft
  obtain ⟨above, below, rfl, habove⟩ :=
    List.eq_append_cons_of_mem ((List.mem_cons.mp hwaits).resolve_left hne)
  exact .inr (h.reaches_above (n :: above) m below hstack (by simp [hne, habove]) hm hleft n
    (List.mem_cons_self ..))

theorem enter (h : s.PostOrdered g) (hsound : s.Sound g) (hstack : s.stack = n :: rest)
    (hn : n ∉ s.discovered) (hloop : (n, n) ∉ g.edges) : (s.enter g n).PostOrdered g := by
  have hbelow : ∀ {k above}, k ∈ s.discovered → k ∉ above → k ∉ n :: above := fun hk habove => by
    simp only [List.mem_cons, not_or]
    exact ⟨fun heq => hn (heq ▸ hk), habove⟩
  constructor
  case after => exact h.after
  case edges_above =>
    intro above k below hsplit habove hk hopen m hm
    rcases s.waits_enter hstack hn hsplit habove hk with ⟨rfl, rfl⟩ |
      ⟨above', rfl, rfl, habove', hk⟩
    · by_cases hdisc : m ∈ s.discovered
      · exact (h.finished_or_leads_back hsound hstack hn hdisc).imp_left .inl
      · have hne : m ≠ k := fun heq => hloop (heq ▸ hm)
        exact .inl (.inr (Search.mem_pushed.mpr ⟨hm, hne, hdisc⟩))
    · exact (h.edges_above _ k below hstack (hbelow hk habove') hk hopen m hm).imp_left
        (.imp_right (List.mem_append_right _))
  case reaches_above =>
    intro above k below hsplit habove hk hopen m hm
    rcases s.waits_enter hstack hn hsplit habove hk with ⟨rfl, rfl⟩ |
      ⟨above', rfl, rfl, habove', hk⟩
    · exact .single (Search.mem_pushed.mp hm).1
    · have hway := h.reaches_above _ k below hstack (hbelow hk habove') hk hopen
      rcases List.mem_append.mp hm with hm | hm
      -- what is pushed is reached by way of the node that is entered
      · exact (hway n (List.mem_cons_self ..)).tail (Search.mem_pushed.mp hm).1
      · exact hway m hm

end Search.PostOrdered

/-- The fault of a search is a node with an edge to itself. -/
theorem loop_of_search_error {g : Graph} {fuel n : Nat} {s : Search}
    (hs : g.search fuel s = .error n) : (n, n) ∈ g.edges := by
  induction fuel generalizing s with
  | zero => cases hs
  | succ fuel ih =>
    simp only [search] at hs
    split at hs
    · cases hs
    · split at hs
      · exact ih hs
      · split at hs
        · next hloop =>
          cases hs
          exact mem_successors.mp (List.contains_iff_mem.mp hloop)
        · exact ih hs

theorem postOrdered_of_search {g : Graph} {fuel : Nat} {s s' : Search} (hg : g.Bounded)
    (h : s.Sound g) (hpost : s.PostOrdered g) (hs : g.search fuel s = .ok s') :
    s'.PostOrdered g := by
  induction fuel generalizing s with
  | zero => exact Except.ok.inj hs ▸ hpost
  | succ fuel ih =>
    simp only [search] at hs
    split at hs
    · exact Except.ok.inj hs ▸ hpost
    · next n rest hstack =>
      split at hs
      · next hdisc =>
        have hn : n ∈ s.discovered := List.contains_iff_mem.mp hdisc
        exact ih (h.leave hstack hn) (hpost.leave hstack hn) hs
      · next hdisc =>
        split at hs
        · cases hs
        · next hsucc =>
          have hnew : n ∉ s.discovered := fun hm => hdisc (List.contains_iff_mem.mpr hm)
          have hloop : (n, n) ∉ g.edges := fun he =>
            hsucc (List.contains_iff_mem.mpr (mem_successors.mpr he))
          have hn : n ∈ s.stack := by simp [hstack]
          exact ih (h.enter hg hn hloop) (hpost.enter h hstack hnew hloop) hs

theorem loop_of_foldlM_error {g : Graph} {ns : List Nat} {s : Search} {n : Nat}
    (hs : ns.foldlM (fun s n => if s.discovered.contains n then pure s
      else g.search g.searchFuel { s with stack := n :: s.stack }) s = .error n) :
    (n, n) ∈ g.edges := by
  induction ns generalizing s with
  | nil => cases hs
  | cons m ns ih =>
    simp only [List.foldlM_cons] at hs
    split at hs
    · exact ih hs
    · cases hone : g.search g.searchFuel { s with stack := m :: s.stack } with
      | error k =>
        rw [hone] at hs
        cases hs
        exact loop_of_search_error hone
      | ok mid =>
        rw [hone] at hs
        exact ih hs

theorem postOrdered_of_foldlM {g : Graph} {ns : List Nat} {s s' : Search} (hg : g.Bounded)
    (hns : ∀ n ∈ ns, n < g.size) (h : s.Sound g) (hstack : s.stack = []) (hpost : s.PostOrdered g)
    (hs : ns.foldlM (fun s n => if s.discovered.contains n then pure s
      else g.search g.searchFuel { s with stack := n :: s.stack }) s = .ok s') :
    s'.PostOrdered g := by
  induction ns generalizing s with
  | nil => exact Except.ok.inj hs ▸ hpost
  | cons n ns ih =>
    have hns' : ∀ m ∈ ns, m < g.size := fun m hm => hns m (List.mem_cons_of_mem n hm)
    simp only [List.foldlM_cons] at hs
    split at hs
    · exact ih hns' h hstack hpost hs
    · next hdisc =>
      have hnew : n ∉ s.discovered := fun hm => hdisc (List.contains_iff_mem.mpr hm)
      have hpushed := h.push (hns n (List.mem_cons_self ..))
      cases hone : g.search g.searchFuel { s with stack := n :: s.stack } with
      | error k =>
        rw [hone] at hs
        cases hs
      | ok mid =>
        rw [hone] at hs
        obtain ⟨hsound, hempty, -⟩ := search_spec hg hpushed (Search.stepsLeft_le hstack) hone
        exact ih hns' hsound hempty
          (postOrdered_of_search hg hpushed (hpost.push hstack hnew) hone) hs

/-- The fault of the order in which nodes are left is a node with an edge to itself. -/
theorem loop_of_leaveOrder_error {g : Graph} {n : Nat} (h : g.leaveOrder = .error n) :
    (n, n) ∈ g.edges := by
  simp only [leaveOrder] at h
  cases hs : (List.range g.size).foldlM (fun s n => if s.discovered.contains n then pure s
      else g.search g.searchFuel { s with stack := n :: s.stack }) ({} : Search) with
  | error k =>
    rw [hs] at h
    cases h
    exact loop_of_foldlM_error hs
  | ok s =>
    rw [hs] at h
    cases h

/-- **The order in which nodes are left** has the source of an edge after its target, unless a way
leads back from there. -/
theorem leaveOrder_after {g : Graph} {order : List Nat} (hg : g.Bounded)
    (h : g.leaveOrder = .ok order) (pre : List Nat) (n : Nat) (post : List Nat)
    (hsplit : order = pre ++ n :: post) (m : Nat) (hm : (n, m) ∈ g.edges) :
    m ∈ post ∨ TransGen (fun a b => (a, b) ∈ g.edges) m n := by
  have hempty : ({} : Search).Sound g := by constructor <;> simp
  have hpost : ({} : Search).PostOrdered g := by constructor <;> simp
  simp only [leaveOrder] at h
  cases hs : (List.range g.size).foldlM (fun s n => if s.discovered.contains n then pure s
      else g.search g.searchFuel { s with stack := n :: s.stack }) ({} : Search) with
  | error k =>
    rw [hs] at h
    cases h
  | ok s =>
    rw [hs] at h
    obtain rfl : s.finished = order := Except.ok.inj h
    exact (postOrdered_of_foldlM hg (fun n hn => List.mem_range.mp hn) hempty rfl hpost hs).after
      pre n post hsplit m hm

/-- The nodes of a graph without cycles are left in an order that has the source of every edge after
its target. -/
theorem exists_leaveOrder {g : Graph} (hg : g.Bounded) (hacyclic : g.Acyclic) :
    ∃ order, g.leaveOrder = .ok order ∧
      ∀ pre n post, order = pre ++ n :: post → ∀ m, (n, m) ∈ g.edges → m ∈ post := by
  cases h : g.leaveOrder with
  | error n => exact absurd (.single (loop_of_leaveOrder_error h)) (hacyclic n)
  | ok order =>
    refine ⟨order, rfl, fun pre n post hsplit m hm => ?_⟩
    exact (leaveOrder_after hg h pre n post hsplit m hm).resolve_right
      fun hback => hacyclic m (hback.tail hm)

/-! ### The pass backwards -/

/-- Nothing is visited beyond a node whose sources are all marked. -/
theorem visitBack_of_marked {g : Graph} {fuel n : Nat} {marked : List Nat} (hn : n ∉ marked)
    (hmarked : ∀ m, (m, n) ∈ g.edges → m ∈ marked) :
    g.visitBack (fuel + 1) [n] marked = ([n], n :: marked) := by
  have hfresh : ((g.predecessors n).filter fun m => !(n :: marked).contains m) = [] := by
    refine List.filter_eq_nil_iff.mpr fun m hm => ?_
    simp [hmarked m (mem_predecessors.mp hm)]
  rw [visitBack_cons hn, hfresh]
  cases fuel <;> rfl

/-- A row that has the source of every edge before its target is in order. -/
theorem misplaced?_of_before {g : Graph} {order marked : List Nat} (hnd : order.Nodup)
    (hnew : ∀ n ∈ order, n ∉ marked)
    (hbefore : ∀ pre n post, order = pre ++ n :: post →
      ∀ m, (m, n) ∈ g.edges → m ∈ pre ∨ m ∈ marked) : g.misplaced? order marked = none := by
  induction order generalizing marked with
  | nil => rfl
  | cons n rest ih =>
    obtain ⟨hn, hrest⟩ := List.nodup_cons.mp hnd
    have hvisit : g.visitBack g.searchFuel [n] marked = ([n], n :: marked) :=
      visitBack_of_marked (hnew n (List.mem_cons_self ..)) fun m hm =>
        (hbefore [] n rest rfl m hm).resolve_left (by simp)
    simp only [misplaced?, hvisit]
    refine ih hrest (fun k hk hmem => ?_) fun pre k post hsplit m hm => ?_
    · rcases List.mem_cons.mp hmem with rfl | hmem
      · exact hn hk
      · exact hnew k (List.mem_cons_of_mem n hk) hmem
    · rcases hbefore (n :: pre) k post (by rw [hsplit]; rfl) m hm with hmem | hmem
      · rcases List.mem_cons.mp hmem with rfl | hmem
        · exact .inr (List.mem_cons_self ..)
        · exact .inl hmem
      · exact .inr (List.mem_cons_of_mem n hmem)

/-- **Completeness of sorting**: the graphs that have an order are those without a cycle. -/
theorem exists_sorted_iff {g : Graph} (hg : g.Bounded) :
    (∃ order, g.sorted = .ok order) ↔ g.Acyclic := by
  constructor
  · rintro ⟨order, h⟩
    exact (sorted_sorts hg h).irreflexive hg
  · intro hacyclic
    obtain ⟨order, horder, hafter⟩ := exists_leaveOrder hg hacyclic
    obtain ⟨hnd, hmem, -⟩ := leaveOrder_spec hg horder
    have hplaced : g.misplaced? order [] = none := by
      refine misplaced?_of_before hnd (by simp) fun pre n post hsplit m hm => .inl ?_
      -- the target stands after the source, and nowhere else
      obtain ⟨pre', post', hsource⟩ := List.append_of_mem ((hmem m).mpr (hg _ hm).1)
      obtain ⟨mid, post'', rfl⟩ := List.append_of_mem (hafter pre' m post' hsource n hm)
      have hcut : pre ++ n :: post = (pre' ++ m :: mid) ++ n :: post'' := by
        rw [← hsplit, hsource, List.append_assoc, List.cons_append]
      rw [hsplit, List.perm_middle.nodup_iff, List.nodup_cons, List.mem_append, not_or] at hnd
      rw [((List.append_cons_inj_of_notMem hnd.1.1 hnd.1.2).mp hcut).1]
      simp
    refine ⟨order, ?_⟩
    simp only [sorted, horder, bind, Except.bind, hplaced]
    rfl

end AssetFlow.Graph

namespace AssetFlow.Pipeline

variable {p : Pipeline}

/-- **A pipeline none of whose assets is read from itself** has a graph. -/
theorem exists_graph (hacyclic : ∀ a, ¬ p.Ancestor a a) : ∃ g, p.graph = .ok g := by
  have hgraph : (AssetGraph.ofAssets p.assets).graph.Acyclic := by
    intro n hway
    obtain ⟨m, hedge, -⟩ := Relation.TransGen.head'_iff.mp hway
    -- the node has an edge, so that it is the place of an asset
    obtain ⟨u, -, hn, -⟩ := mem_edges_ofAssets_iff.mp hedge
    exact hacyclic u ((transGen_edges_ofAssets_iff hn hn).mp hway)
  obtain ⟨row, hrow⟩ := (Graph.exists_sorted_iff (bounded_ofAssets p)).mpr hgraph
  refine ⟨AssetGraph.ofAssets p.assets, ?_⟩
  simp only [graph, AssetGraph.build, AssetGraph.order, hrow, bind, Except.bind]
  rfl

/-- A pipeline that has no graph is refused because of a cycle. -/
theorem graph_ok_or_cycle (p : Pipeline) :
    (∃ g, p.graph = .ok g) ∨ ∃ names, p.graph = .error (.cycle names) := by
  rw [graph]
  cases AssetGraph.build p.assets with
  | error names => exact .inr ⟨names, rfl⟩
  | ok g => exact .inl ⟨g, rfl⟩

/-- **Sorting decides whether a pipeline has a cycle**: it has a graph just if no asset is read from
itself, at once or by way of others, and is refused because of a cycle just if one is. A graph lists
every asset once, each after all assets that it reads. -/
theorem graph_decides_cycles (p : Pipeline) :
    ((∃ g, p.graph = .ok g) ↔ ∀ a, ¬ p.Ancestor a a) ∧
      ((∃ names, p.graph = .error (.cycle names)) ↔ ∃ a, p.Ancestor a a) ∧
      ∀ g, p.graph = .ok g → ∃ order, g.order = .ok order ∧ p.ListsInOrder order := by
  have hok : (∃ g, p.graph = .ok g) ↔ ∀ a, ¬ p.Ancestor a a :=
    ⟨fun ⟨_, hg⟩ => not_ancestor_self hg, exists_graph⟩
  refine ⟨hok, ⟨?_, fun ⟨a, ha⟩ => ?_⟩, fun g hg => ?_⟩
  · rintro ⟨names, hfault⟩
    by_contra hnone
    obtain ⟨g, hg⟩ := hok.mpr fun a ha => hnone ⟨a, ha⟩
    cases hg.symm.trans hfault
  · exact (graph_ok_or_cycle p).resolve_left fun hg => hok.mp hg a ha
  · obtain ⟨-, order, horder⟩ := graph_eq hg
    exact ⟨order, horder, order_lists hg horder⟩

/-- Three assets, of which the first reads the other two and a table that is no asset. -/
def salesPipeline : Pipeline where
  config := { name := "shop" }
  root := "."
  assets := [
    { name := ⟨"sales", by decide⟩, type := "duckdb.sql",
      upstreams := [⟨"invoices", by decide⟩, ⟨"raw.rates", by decide⟩, ⟨"customers", by decide⟩] },
    { name := ⟨"invoices", by decide⟩, type := "duckdb.sql",
      upstreams := [⟨"customers", by decide⟩, ⟨"customers", by decide⟩] },
    { name := ⟨"customers", by decide⟩, type := "duckdb.sql" }]
  unique := by decide

/-- The assets are sorted although each is defined before what it reads. -/
theorem sales_sorted : ∃ g order, salesPipeline.graph = .ok g ∧ g.order = .ok order ∧
    salesPipeline.ListsInOrder order ∧
    order.map AssetName.text = ["customers", "invoices", "sales"] := by
  have hg : salesPipeline.graph = .ok (AssetGraph.ofAssets salesPipeline.assets) := rfl
  obtain ⟨order, horder, hlists⟩ := (graph_decides_cycles salesPipeline).2.2 _ hg
  refine ⟨_, order, hg, horder, hlists, ?_⟩
  obtain rfl := Except.ok.inj horder
  rfl

end AssetFlow.Pipeline
