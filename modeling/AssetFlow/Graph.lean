/-!
# Directed graphs

Graphs whose nodes are numbered in the order in which they are added. The neighbours of a node are
listed with the most recently added edge first, and every traversal follows that order.

## Main definitions

- `Graph.link`: adds an edge.
- `Graph.reachable`: the nodes reached from a node, nearest first.
- `Graph.sorted`: the nodes with the source of every edge before its target, or a node on a cycle.
- `Graph.cycleThrough`: a shortest way from a node back to itself.

## Design notes

`Graph.sorted` works in two passes: the first lists the nodes in the reverse of the order in which a
depth first search leaves them, the second finds a node that is reached backwards after its place
was settled.
-/

namespace AssetFlow

/-- A graph with the nodes `0, …, size - 1`; the edges are listed latest first. -/
structure Graph where
  size : Nat
  edges : List (Nat × Nat)
  deriving DecidableEq, Repr, Inhabited

namespace Graph

/-- The graph with `n` nodes and no edge. -/
def empty (n : Nat) : Graph :=
  ⟨n, []⟩

/-- Adds an edge, unless it is there already. -/
def link (g : Graph) (source target : Nat) : Graph :=
  if g.edges.contains (source, target) then g
  else { g with edges := (source, target) :: g.edges }

/-- The targets of the edges of a node, latest first. -/
def successors (g : Graph) (n : Nat) : List Nat :=
  g.edges.filterMap fun (s, t) => if s == n then some t else none

/-- The sources of the edges to a node, latest first. -/
def predecessors (g : Graph) (n : Nat) : List Nat :=
  g.edges.filterMap fun (s, t) => if t == n then some s else none

/-- The nodes of a row that were not seen before, each once, with all nodes seen then. -/
def discover (seen : List Nat) : List Nat → List Nat × List Nat
  | [] => ([], seen)
  | n :: rest =>
    if seen.contains n then discover seen rest
    else
      let (found, seen) := discover (n :: seen) rest
      (n :: found, seen)

/-- Breadth first search: `queue` holds the nodes to visit, `seen` those found so far. -/
def breadthFirst (next : Nat → List Nat) : Nat → List Nat → List Nat → List Nat
  | 0, _, _ => []
  | _ + 1, [], _ => []
  | fuel + 1, n :: queue, seen =>
    let (found, seen) := discover seen (next n)
    n :: breadthFirst next fuel (queue ++ found) seen

/-- The nodes other than `start` that are reached from it, nearest first. -/
def reachable (g : Graph) (next : Nat → List Nat) (start : Nat) : List Nat :=
  (breadthFirst next (g.size + 1) [start] [start]).filter (· != start)

/-! ### Sorting -/

/-- A depth first search on its way. -/
structure Search where
  stack : List Nat := []
  discovered : List Nat := []
  /-- The nodes that were left, latest first. -/
  finished : List Nat := []

namespace Search

/-- Leaves the node on top of the stack, which was discovered before. -/
def leave (s : Search) (n : Nat) (rest : List Nat) : Search :=
  { s with
    stack := rest
    finished := if s.finished.contains n then s.finished else n :: s.finished }

/-- Discovers the node on top of the stack and puts the nodes after it on the stack. -/
def enter (g : Graph) (s : Search) (n : Nat) : Search :=
  let discovered := n :: s.discovered
  let fresh := (g.successors n).filter fun m => !discovered.contains m
  { s with stack := fresh.reverse ++ s.stack, discovered := discovered }

end Search

/-- Runs a search until its stack is empty; the fault is a node with an edge to itself. -/
def search (g : Graph) : Nat → Search → Except Nat Search
  | 0, s => .ok s
  | fuel + 1, s =>
    match s.stack with
    | [] => .ok s
    | n :: rest =>
      -- a node stays on the stack until all that was put above it has been left
      if s.discovered.contains n then search g fuel (s.leave n rest)
      else if (g.successors n).contains n then .error n
      else search g fuel (s.enter g n)

/-- Steps that suffice for every search: each node is discovered once, and left once for each time
that it was put on the stack. -/
def searchFuel (g : Graph) : Nat :=
  2 * g.size + g.edges.length + 1

/-- All nodes in the reverse of the order in which a depth first search leaves them. -/
def leaveOrder (g : Graph) : Except Nat (List Nat) := do
  let s ← (List.range g.size).foldlM
    (fun s n => if s.discovered.contains n then pure s
      else g.search g.searchFuel { s with stack := n :: s.stack })
    ({} : Search)
  return s.finished

/-- Follows edges backwards and lists the nodes in the order in which they are visited; `marked` are
not visited again. -/
def visitBack (g : Graph) : Nat → List Nat → List Nat → List Nat × List Nat
  | 0, _, marked => ([], marked)
  | _ + 1, [], marked => ([], marked)
  | fuel + 1, n :: stack, marked =>
    if marked.contains n then visitBack g fuel stack marked
    else
      let marked := n :: marked
      let fresh := (g.predecessors n).filter fun m => !marked.contains m
      let (visited, marked) := visitBack g fuel (fresh.reverse ++ stack) marked
      (n :: visited, marked)

/-- The first node of an order that is visited although its place comes later. -/
def misplaced? (g : Graph) : List Nat → List Nat → Option Nat
  | [], _ => none
  | n :: rest, marked =>
    let (visited, marked) := g.visitBack g.searchFuel [n] marked
    match visited with
    -- a second node is reached, which should have been settled before
    | _ :: j :: _ => some j
    | _ => misplaced? g rest marked

/-- The nodes with the source of every edge before its target; the fault is a node on a cycle. -/
def sorted (g : Graph) : Except Nat (List Nat) := do
  let order ← g.leaveOrder
  match g.misplaced? order [] with
  | some j => throw j
  | none => return order

/-! ### Cycles -/

/-- The nodes from which a node was first reached, back to `start`, nearest first. -/
def wayBack (cameFrom : List (Nat × Nat)) (start : Nat) : Nat → Nat → List Nat
  | 0, _ => []
  | fuel + 1, n =>
    if n == start then []
    else n :: (match cameFrom.lookup n with
      | some m => wayBack cameFrom start fuel m
      | none => [])

/-- Breadth first search for an edge back to `start`. -/
def searchCycle (g : Graph) (start : Nat) : Nat → List Nat → List (Nat × Nat) → List Nat
  | 0, _, _ => [start]
  | _ + 1, [], _ => [start]
  | fuel + 1, n :: queue, cameFrom =>
    let next := g.successors n
    if next.contains start then
      start :: (wayBack cameFrom start (g.size + 1) n).reverse ++ [start]
    else
      let (found, cameFrom) := next.foldl
        (fun (found, cameFrom) m =>
          if (cameFrom.lookup m).isSome then (found, cameFrom)
          else (found ++ [m], (m, n) :: cameFrom))
        (([] : List Nat), cameFrom)
      searchCycle g start fuel (queue ++ found) cameFrom

/-- A shortest way from a node back to itself. -/
def cycleThrough (g : Graph) (start : Nat) : List Nat :=
  g.searchCycle start (g.size + 1) [start] []

end Graph

end AssetFlow
