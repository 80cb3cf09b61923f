import FluentGen.Graph
import Mathlib.Data.List.Basic

/-!
# Walking along a chain

A chain joins numbers in a row by edges of one label. If the edges of a label are a chain over
consecutive nodes, a walk from its first node visits these nodes in order, whatever edges of other
labels there are (`Graph.walk_chain`), and an action sees the values of the nodes in their order
(`Graph.traverse_chain`).
-/

namespace FluentGen.Graph

variable {α β : Type}

/-- The edges that join stations in a row. -/
def chain (label : β) (stations : List Nat) : List (Edge β) :=
  List.zipWith (⟨·, ·, label⟩) stations stations.tail

/-- A chain with one more station in front. -/
lemma chain_cons_cons (label : β) (first second : Nat) (stations : List Nat) :
    chain label (first :: second :: stations) =
      ⟨first, second, label⟩ :: chain label (second :: stations) :=
  rfl

/-- All edges of a chain have its label. -/
lemma label_of_mem_chain {label : β} {stations : List Nat} {edge : Edge β}
    (inside : edge ∈ chain label stations) : edge.label = label := by
  obtain ⟨index, bound, rfl⟩ := List.mem_iff_getElem.1 inside
  simp [chain]

/-- In a chain over consecutive numbers, every one but the last leads to the next. -/
lemma targets_chain_range (label : β) (start count node : Nat) :
    ((chain label (List.range' start count)).filter (·.source = node)).map (·.target) =
      if start ≤ node ∧ node + 1 < start + count then [node + 1] else [] := by
  induction count generalizing start with
  | zero =>
    have outside : ¬(start ≤ node ∧ node + 1 < start + 0) := by omega
    rw [if_neg outside]
    rfl
  | succ count ih =>
    cases count with
    | zero =>
      have outside : ¬(start ≤ node ∧ node + 1 < start + (0 + 1)) := by omega
      rw [if_neg outside]
      rfl
    | succ count =>
      rw [List.range'_succ, List.range'_succ, chain_cons_cons, ← List.range'_succ,
        List.filter_cons]
      by_cases here : start = node
      · have past : ¬(start + 1 ≤ node ∧ node + 1 < start + 1 + (count + 1)) := by omega
        have inside : start ≤ node ∧ node + 1 < start + (count + 1 + 1) := by omega
        rw [if_pos (by simpa using here), List.map_cons, ih, if_neg past, if_pos inside, here]
      · have same : (start + 1 ≤ node ∧ node + 1 < start + 1 + (count + 1)) ↔
            (start ≤ node ∧ node + 1 < start + (count + 1 + 1)) := by omega
        rw [if_neg (by simpa using here), ih]
        simp only [same]

/-- A chain over consecutive numbers leads from every one but the last to the next. -/
lemma chain_range' (label : β) (start count : Nat) : chain label (List.range' start count) =
    (List.range (count - 1)).map fun step => ⟨start + step, start + (step + 1), label⟩ := by
  rw [chain, List.tail_range']
  refine List.ext_getElem (by simp) fun index low high => ?_
  simp [Nat.add_comm, Nat.add_left_comm]

variable [DecidableEq β]

/-- The edges of a label that a list of edges has. -/
def labelled (label : β) (edges : List (Edge β)) : List (Edge β) :=
  edges.filter (·.label = label)

/-- Edges of a label are found in one part after the other. -/
@[simp]
lemma labelled_append (label : β) (edges more : List (Edge β)) :
    labelled label (edges ++ more) = labelled label edges ++ labelled label more :=
  List.filter_append ..

/-- Without edges there are none of a label. -/
@[simp]
lemma labelled_nil (label : β) : labelled label [] = [] :=
  rfl

/-- An edge counts if it has the label. -/
@[simp]
lemma labelled_cons (label : β) (edge : Edge β) (edges : List (Edge β)) :
    labelled label (edge :: edges) =
      if edge.label = label then edge :: labelled label edges else labelled label edges := by
  simp [labelled, List.filter_cons]

/-- Edges of other labels do not count. -/
lemma labelled_eq_nil {label : β} {edges : List (Edge β)}
    (others : ∀ edge ∈ edges, edge.label ≠ label) : labelled label edges = [] :=
  List.filter_eq_nil_iff.2 fun edge inside => by simp [others edge inside]

/-- A chain belongs to its own label as a whole. -/
@[simp]
lemma labelled_chain (label other : β) (stations : List Nat) :
    labelled label (chain other stations) = if other = label then chain other stations else [] := by
  by_cases same : other = label
  · rw [if_pos same]
    refine List.filter_eq_self.2 fun edge inside => ?_
    simpa [label_of_mem_chain inside] using same
  · rw [if_neg same]
    exact labelled_eq_nil fun edge inside => label_of_mem_chain inside ▸ same

/-- Only the edges of the label lead to successors. -/
lemma successors_eq (graph : Graph α β) (label : β) (node : Nat) :
    graph.successors label node =
      ((labelled label graph.edges).filter (·.source = node)).map (·.target) := by
  simp [successors, labelled, List.filter_filter]

/--
A visit that has only the first of the remaining nodes of a chain before it visits all of them, if
everything visited lies behind.
-/
lemma visit_chain (graph : Graph α β) (label : β) {start count : Nat} {visited : List Nat}
    (next : ∀ node, start ≤ node → node < start + (count + 1) →
      graph.successors label node = if node + 1 < start + (count + 1) then [node + 1] else [])
    (bound : start + (count + 1) ≤ graph.nodes.length) (behind : ∀ node ∈ visited, node < start) :
    graph.visit label [start] visited = List.range' start (count + 1) := by
  induction count generalizing start visited with
  | zero =>
    have fresh : start < graph.nodes.length ∧ start ∉ visited :=
      ⟨by omega, fun inside => Nat.lt_irrefl _ (behind start inside)⟩
    rw [visit, dif_pos fresh, onward_eq, next start (Nat.le_refl _) (by omega)]
    simp [visit]
  | succ count ih =>
    have fresh : start < graph.nodes.length ∧ start ∉ visited :=
      ⟨by omega, fun inside => Nat.lt_irrefl _ (behind start inside)⟩
    have ahead : start + 1 ∉ start :: visited := by
      intro inside
      rcases List.mem_cons.1 inside with here | there
      · omega
      · exact absurd (behind _ there) (by omega)
    have onward : graph.visit label [start + 1] (start :: visited) =
        List.range' (start + 1) (count + 1) := by
      apply ih
      · intro node low high
        rw [next node (by omega) (by omega)]
        congr 1
        simp only [eq_iff_iff]
        omega
      · omega
      · intro node inside
        rcases List.mem_cons.1 inside with here | there
        · omega
        · exact Nat.lt_succ_of_lt (behind node there)
    -- the only successor is next in line, since it has not been visited
    rw [visit, dif_pos fresh, onward_eq, next start (Nat.le_refl _) (by omega),
      if_pos (by omega), List.filter_cons_of_pos (by simpa using ahead)]
    show start :: graph.visit label [start + 1] (start :: visited) = _
    rw [onward, ← List.range'_succ]

/-- A walk along a chain visits its nodes in order. -/
lemma walk_chain (graph : Graph α β) (label : β) {start count : Nat}
    (edges : labelled label graph.edges = chain label (List.range' start count))
    (bound : start + count ≤ graph.nodes.length) (positive : 0 < count) :
    graph.walk label start = List.range' start count := by
  obtain ⟨count, rfl⟩ := Nat.exists_eq_add_one_of_ne_zero (Nat.ne_of_gt positive)
  apply visit_chain graph label
  · intro node low high
    rw [successors_eq, edges, targets_chain_range]
    congr 1
    simp only [eq_iff_iff]
    omega
  · exact bound
  · intro node inside
    exact absurd inside List.not_mem_nil

/-- Consecutive nodes hold consecutive values. -/
lemma filterMap_range_getElem? {γ : Type} (front middle back : List α)
    (action : Nat → α → Option γ) :
    (List.range' front.length middle.length).filterMap
        (fun node => (front ++ middle ++ back)[node]?.bind (action node)) =
      (middle.zipIdx front.length).filterMap fun entry => action entry.2 entry.1 := by
  induction middle generalizing front with
  | nil => rfl
  | cons value middle ih =>
    have here : (front ++ value :: (middle ++ back))[front.length]? = some value := by simp
    have onward := ih (front ++ [value])
    simp only [List.length_append, List.length_cons, List.length_nil, List.append_assoc,
      List.cons_append, List.nil_append, Nat.zero_add] at onward
    simp only [List.length_cons, List.range'_succ, List.zipIdx_cons, List.filterMap_cons, here,
      Option.bind_some, List.append_assoc, List.cons_append, onward]

/-- An action that follows a chain sees the values of its nodes in order. -/
lemma traverse_chain {γ : Type} (graph : Graph α β) (label : β) {front middle back : List α}
    (nodes : graph.nodes = front ++ middle ++ back)
    (edges : labelled label graph.edges =
      chain label (List.range' front.length middle.length))
    (nonempty : middle ≠ []) (action : Nat → α → Option γ) :
    graph.traverse label front.length action =
      (middle.zipIdx front.length).filterMap fun entry => action entry.2 entry.1 := by
  have bound : front.length + middle.length ≤ graph.nodes.length := by
    simp only [nodes, List.length_append]
    omega
  rw [traverse, walk_chain graph label edges bound (List.length_pos_iff.2 nonempty), nodes,
    filterMap_range_getElem?]

end FluentGen.Graph
