/-!
# Directed graphs

Graphs whose nodes are numbered in the order they are added and whose edges carry a label. Edges
join nodes of the graph, may run in circles and may repeat. `Graph.walk` visits what can be
reached along the edges of one label, breadth first.
-/

namespace FluentGen

/-- An edge from one node to another. -/
structure Edge (β : Type) where
  source : Nat
  target : Nat
  label : β
deriving DecidableEq

/-- A directed graph with values at the nodes and labels at the edges, both in insertion order. -/
structure Graph (α β : Type) where
  nodes : List α
  edges : List (Edge β)

namespace Graph

variable {α β : Type}

/-- The graph without nodes. -/
def empty : Graph α β :=
  ⟨[], []⟩

/-- The graph with one more node, whose number is the number of nodes before. -/
def addNode (graph : Graph α β) (value : α) : Graph α β :=
  { graph with nodes := graph.nodes ++ [value] }

/-- The graph with one more edge. -/
def addEdge (graph : Graph α β) (source target : Nat) (label : β) : Graph α β :=
  { graph with edges := graph.edges ++ [⟨source, target, label⟩] }

/-- The nodes that edges of a label lead to from a node, in the order of the edges. -/
def successors [DecidableEq β] (graph : Graph α β) (label : β) (node : Nat) : List Nat :=
  (graph.edges.filter fun edge => edge.source = node ∧ edge.label = label).map (·.target)

/-- The edges that lead out of a node, the newest first. -/
def outgoing (graph : Graph α β) (node : Nat) : List (Edge β) :=
  graph.edges.reverse.filter (·.source = node)

/--
The nodes to go on to from a node: where its outgoing edges of a label lead, unless that has been
visited. They are collected with the newest edge first and then turned around.
-/
def onward [DecidableEq β] (graph : Graph α β) (label : β) (node : Nat) (visited : List Nat) :
    List Nat :=
  ((((graph.outgoing node).filter (·.label = label)).map (·.target)).filter (· ∉ visited)).reverse

/-- Turned around, the edges are in the order in which they were added. -/
theorem onward_eq [DecidableEq β] (graph : Graph α β) (label : β) (node : Nat)
    (visited : List Nat) :
    graph.onward label node visited = (graph.successors label node).filter (· ∉ visited) := by
  have inOrder : (graph.outgoing node).filter (·.label = label) =
      (graph.edges.filter fun edge => edge.source = node ∧ edge.label = label).reverse := by
    rw [outgoing, List.filter_filter, List.filter_reverse]
    congr 2
    funext edge
    rw [Bool.decide_and, Bool.and_comm]
  rw [onward, inOrder, List.map_reverse, List.filter_reverse, List.reverse_reverse, successors]

/-- How many nodes of the graph are not in a list. -/
def unvisited (graph : Graph α β) (visited : List Nat) : Nat :=
  ((List.range graph.nodes.length).filter (· ∉ visited)).length

/-- One more visited node leaves one node less to visit. -/
theorem unvisited_cons_lt (graph : Graph α β) {node : Nat} {visited : List Nat}
    (inside : node < graph.nodes.length) (fresh : node ∉ visited) :
    graph.unvisited (node :: visited) < graph.unvisited visited := by
  unfold unvisited
  have shrink : (List.range graph.nodes.length).filter (· ∉ node :: visited) =
      ((List.range graph.nodes.length).filter (· ∉ visited)).filter (· ≠ node) := by
    rw [List.filter_filter]
    congr 1
    funext other
    simp [List.mem_cons, not_or]
  rw [shrink]
  exact List.length_filter_lt_length_iff_exists.2 ⟨node, by simp [inside, fresh], by simp⟩

/--
The nodes reached from the ones that wait, in the order of the visit. A node that is visited
already, or that is none of the graph, is passed over.
-/
def visit [DecidableEq β] (graph : Graph α β) (label : β) (waiting visited : List Nat) :
    List Nat :=
  match waiting with
  | [] => []
  | node :: waiting =>
    if _ : node < graph.nodes.length ∧ node ∉ visited then
      node :: graph.visit label (waiting ++ graph.onward label node (node :: visited))
        (node :: visited)
    else graph.visit label waiting visited
termination_by (graph.unvisited visited, waiting.length)
decreasing_by
  · rename_i fresh
    exact Prod.Lex.left _ _ (graph.unvisited_cons_lt fresh.1 fresh.2)
  · exact Prod.Lex.right _ (by simp)

/-- The nodes that can be reached from a node along the edges of a label, breadth first. -/
def walk [DecidableEq β] (graph : Graph α β) (label : β) (start : Nat) : List Nat :=
  graph.visit label [start] []

/-- What an action yields for the nodes of a walk, in the order of the walk. -/
def traverse [DecidableEq β] {γ : Type} (graph : Graph α β) (label : β) (start : Nat)
    (action : Nat → α → Option γ) : List γ :=
  (graph.walk label start).filterMap fun node => graph.nodes[node]?.bind (action node)

/--
A walk that calls an action at every node as soon as it is visited. The action may keep a state of
its own.
-/
def explore [DecidableEq β] {γ σ : Type} (graph : Graph α β) (label : β)
    (action : Nat → α → σ → Option γ × σ) (waiting visited : List Nat) (state : σ) :
    List γ × σ :=
  match waiting with
  | [] => ([], state)
  | node :: waiting =>
    if fresh : node < graph.nodes.length ∧ node ∉ visited then
      let (item?, state) := action node (graph.nodes.get ⟨node, fresh.1⟩) state
      let (items, state) := graph.explore label action
        (waiting ++ graph.onward label node (node :: visited)) (node :: visited) state
      (item?.toList ++ items, state)
    else graph.explore label action waiting visited state
termination_by (graph.unvisited visited, waiting.length)
decreasing_by
  · exact Prod.Lex.left _ _ (graph.unvisited_cons_lt fresh.1 fresh.2)
  · exact Prod.Lex.right _ (by simp)

end Graph

end FluentGen
