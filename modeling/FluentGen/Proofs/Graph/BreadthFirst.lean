import FluentGen.Graph
import Mathlib.Data.List.Pairwise
import Mathlib.Order.Lattice.Nat

/-!
# Walking breadth first

A walk along the edges of a label visits every node that can be reached just once, the nearer ones
before the farther ones, whatever circles, branches and repeated edges there are
(`Graph.traverse_breadthFirst`). So does a walk with an action that is called at every node and may
keep a state of its own.
-/

namespace FluentGen.Graph

variable {α β : Type}

/-- An edge of a label leads from one node to another node of the graph. -/
def Leads (graph : Graph α β) (label : β) (node next : Nat) : Prop :=
  next < graph.nodes.length ∧ ⟨node, next, label⟩ ∈ graph.edges

/-- A way along so many edges of a label leads from a node to another one. -/
inductive Way (graph : Graph α β) (label : β) (start : Nat) : Nat → Nat → Prop where
  | stay : graph.Way label start 0 start
  | go {length node next : Nat} :
    graph.Way label start length node → graph.Leads label node next →
    graph.Way label start (length + 1) next

/-- Some way along the edges of a label leads from a node to another one. -/
def Reaches (graph : Graph α β) (label : β) (start node : Nat) : Prop :=
  ∃ length, graph.Way label start length node

/-- How many edges the shortest way from a node to another one has. -/
noncomputable def distance (graph : Graph α β) (label : β) (start node : Nat) : Nat :=
  sInf {length | graph.Way label start length node}

/-- The nodes that can be reached, in the order of a search that goes breadth first. -/
structure IsBreadthFirst [DecidableEq β] (graph : Graph α β) (label : β) (start : Nat)
    (order : List Nat) : Prop where
  /-- The search begins at the start. -/
  first : order.head? = some start
  /-- No node is visited twice. -/
  once : order.Nodup
  /-- All nodes that can be reached are visited, and no others. -/
  reached : ∀ node, node ∈ order ↔ graph.Reaches label start node
  /-- No node is visited before one that is nearer. -/
  nearest : order.Pairwise fun node later =>
    graph.distance label start node ≤ graph.distance label start later
  /--
  Every node is visited in its turn, which is where it is met first: the start is met at the
  beginning, and then every visited node meets its successors in the order of the edges.
  -/
  inTurn : order = ((start :: order.flatMap (graph.successors label)).filter
    (· < graph.nodes.length)).eraseDups

section Ways

variable {graph : Graph α β} {label : β} {start length node next : Nat}

/-- Every way out of a node of the graph ends inside the graph. -/
lemma Way.inside (begins : start < graph.nodes.length) (way : graph.Way label start length node) :
    node < graph.nodes.length := by
  cases way with
  | stay => exact begins
  | go _ leads => exact leads.1

/-- No way is shorter than the distance. -/
lemma Way.distance_le (way : graph.Way label start length node) :
    graph.distance label start node ≤ length :=
  Nat.sInf_le way

/-- What can be reached can be reached by a way as long as the distance. -/
lemma Reaches.shortest (reaches : graph.Reaches label start node) :
    graph.Way label start (graph.distance label start node) node :=
  Nat.sInf_mem reaches

/-- From where a way leads, an edge leads on. -/
lemma Reaches.go (reaches : graph.Reaches label start node) (leads : graph.Leads label node next) :
    graph.Reaches label start next :=
  let ⟨length, way⟩ := reaches
  ⟨length + 1, way.go leads⟩

end Ways

/-! ## Levels -/

/--
What holds while the nodes at one distance are visited: everything nearer is visited, what is as far
is visited or waits in front, and what is met from visited nodes is visited or waits.
-/
structure Level (graph : Graph α β) (label : β) (start depth : Nat)
    (near far visited : List Nat) : Prop where
  done : ∀ ⦃length node⦄, graph.Way label start length node → length < depth → node ∈ visited
  due : ∀ ⦃node⦄, graph.Way label start depth node → node ∈ visited ∨ node ∈ near
  ofNear : ∀ node ∈ near, node < graph.nodes.length → graph.Way label start depth node
  ofFar : ∀ node ∈ far, node < graph.nodes.length → graph.Way label start (depth + 1) node
  met : ∀ node ∈ visited, ∀ next, graph.Leads label node next →
    next ∈ visited ∨ next ∈ near ∨ next ∈ far

variable {graph : Graph α β} {label : β} {start depth node : Nat}
variable {near far waiting visited : List Nat}

/-- Before anything is visited, the start is the first level. -/
lemma level_start :
    graph.Level label start 0 [start] [] [] where
  done := nofun
  due node way := by
    cases way
    exact .inr (List.mem_singleton_self _)
  ofNear node waits _ := by
    cases List.mem_singleton.1 waits
    exact .stay
  ofFar := nofun
  met := nofun

/-- Once nothing waits in front, what waits behind is the next level. -/
lemma Level.deeper (level : graph.Level label start depth [] far visited) :
    graph.Level label start (depth + 1) far [] visited where
  done length node way low := by
    rcases Nat.lt_succ_iff_lt_or_eq.1 low with lower | rfl
    · exact level.done way lower
    · exact (level.due way).resolve_right List.not_mem_nil
  due node way := by
    cases way with
    | go before leads =>
      have seen := (level.due before).resolve_right List.not_mem_nil
      exact (level.met _ seen _ leads).imp_right (·.resolve_left List.not_mem_nil)
  ofNear := level.ofFar
  ofFar := nofun
  met node seen next leads :=
    (level.met node seen next leads).imp_right fun waits =>
      .inl (waits.resolve_left List.not_mem_nil)

/-- A node that is visited already is passed over. -/
lemma Level.skip (level : graph.Level label start depth (node :: near) far visited)
    (stale : ¬(node < graph.nodes.length ∧ node ∉ visited))
    (begins : start < graph.nodes.length) :
    graph.Level label start depth near far visited := by
  have seen (bound : node < graph.nodes.length) : node ∈ visited :=
    Decidable.not_not.1 fun fresh => stale ⟨bound, fresh⟩
  refine ⟨level.done, fun other way => ?_, fun other waits => ?_, level.ofFar,
    fun other old next leads => ?_⟩
  · rcases level.due way with old | waits
    · exact .inl old
    · rcases List.mem_cons.1 waits with rfl | waits
      · exact .inl (seen (way.inside begins))
      · exact .inr waits
  · exact level.ofNear other (List.mem_cons_of_mem _ waits)
  · rcases level.met other old next leads with old | waits | waits
    · exact .inl old
    · rcases List.mem_cons.1 waits with rfl | waits
      · exact .inl (seen leads.1)
      · exact .inr (.inl waits)
    · exact .inr (.inr waits)

/-- A level with nodes that wait has one where they are in front. -/
lemma Level.exists_cons (level : graph.Level label start depth near far visited)
    (waits : near ++ far = node :: waiting) : ∃ depth near far,
      graph.Level label start depth (node :: near) far visited ∧ waiting = near ++ far := by
  cases near with
  | nil =>
    cases waits
    exact ⟨depth + 1, waiting, [], level.deeper, (List.append_nil _).symm⟩
  | cons first near =>
    cases waits
    exact ⟨depth, near, far, level, rfl⟩

/-! ## Actions -/

section Action

variable {γ σ : Type}

/-- What an action with a state yields at one node after another, and the state behind them. -/
def act (graph : Graph α β) (action : Nat → α → σ → Option γ × σ) : List Nat → σ → List γ × σ
  | [], state => ([], state)
  | node :: nodes, state =>
    match graph.nodes[node]? with
    | none => graph.act action nodes state
    | some value =>
      let (item?, state) := action node value state
      let (items, state) := graph.act action nodes state
      (item?.toList ++ items, state)

/-- An action without a state. -/
lemma act_pure (action : Nat → α → Option γ) (nodes : List Nat) (state : σ) :
    graph.act (fun node value state => (action node value, state)) nodes state =
      (nodes.filterMap fun node => graph.nodes[node]?.bind (action node), state) := by
  induction nodes with
  | nil => rfl
  | cons node nodes ih =>
    rw [act, List.filterMap_cons]
    cases graph.nodes[node]? with
    | none => exact ih
    | some value =>
      simp only [ih, Option.bind_some]
      cases action node value <;> rfl

end Action

variable [DecidableEq β]

/-- The successors of a node are where the edges of the label lead. -/
lemma mem_successors {node next : Nat} :
    next ∈ graph.successors label node ↔ ⟨node, next, label⟩ ∈ graph.edges := by
  simp only [successors, List.mem_map, List.mem_filter, decide_eq_true_eq]
  constructor
  · rintro ⟨⟨source, target, kind⟩, ⟨inside, rfl, rfl⟩, rfl⟩
    exact inside
  · intro inside
    exact ⟨_, ⟨inside, rfl, rfl⟩, rfl⟩

/-- The walk goes on to the successors that have not been visited. -/
lemma mem_onward {node next : Nat} : next ∈ graph.onward label node visited ↔
    ⟨node, next, label⟩ ∈ graph.edges ∧ next ∉ visited := by
  rw [onward_eq, List.mem_filter, mem_successors, decide_eq_true_eq]

/-! ## The order of a visit -/

/--
A visit finds the nodes that wait and those that are met on the way, unless they are visited
already, each where it comes first.
-/
lemma visit_eq (graph : Graph α β) (label : β) (waiting visited : List Nat) :
    graph.visit label waiting visited =
      ((waiting ++ (graph.visit label waiting visited).flatMap (graph.successors label)).filter
        fun node => node < graph.nodes.length ∧ node ∉ visited).eraseDups := by
  fun_induction visit graph label waiting visited with
  | case1 => rfl
  | case2 visited node waiting fresh ih =>
    have new (found : Nat) : (!found == node &&
        decide (found < graph.nodes.length ∧ found ∉ visited)) =
          decide (found < graph.nodes.length ∧ found ∉ node :: visited) := by
      rw [Bool.eq_iff_iff]
      simp only [Bool.and_eq_true, Bool.not_eq_true', beq_eq_false_iff_ne, decide_eq_true_eq,
        List.mem_cons, not_or]
      exact and_left_comm
    -- what was left out of the successors is visited, so that the filter drops it as well
    have met : (graph.onward label node (node :: visited)).filter
        (fun found => found < graph.nodes.length ∧ found ∉ node :: visited) =
          (graph.successors label node).filter fun found =>
            found < graph.nodes.length ∧ found ∉ node :: visited := by
      rw [onward_eq, List.filter_filter]
      refine List.filter_congr fun found _ => ?_
      rw [Bool.eq_iff_iff]
      simp only [Bool.and_eq_true, decide_eq_true_eq]
      exact and_iff_left_of_imp And.right
    rw [List.cons_append, List.filter_cons_of_pos (by simpa using fresh), List.eraseDups_cons,
      List.filter_filter]
    simp only [new]
    rw [List.flatMap_cons, List.filter_append, List.filter_append, ← met, ← List.filter_append,
      ← List.filter_append, ← List.append_assoc]
    exact congrArg _ ih
  | case3 visited node waiting stale ih =>
    rw [List.cons_append, List.filter_cons_of_neg (by simpa using stale)]
    exact ih

/-- A visit finds a node if it waits or is met on the way, and has not been visited. -/
lemma mem_visit : node ∈ graph.visit label waiting visited ↔
    (node ∈ waiting ∨ ∃ before ∈ graph.visit label waiting visited,
      node ∈ graph.successors label before) ∧ node < graph.nodes.length ∧ node ∉ visited := by
  conv_lhs => rw [visit_eq]
  rw [List.mem_eraseDups, List.mem_filter, List.mem_append, List.mem_flatMap, decide_eq_true_eq]

/-- No node is visited twice. -/
lemma nodup_visit (graph : Graph α β) (label : β) (waiting visited : List Nat) :
    (graph.visit label waiting visited).Nodup := by
  fun_induction visit graph label waiting visited with
  | case1 => exact List.nodup_nil
  | case2 visited node waiting fresh ih =>
    refine List.nodup_cons.2 ⟨fun again => ?_, ih⟩
    exact (mem_visit.1 again).2.2 List.mem_cons_self
  | case3 visited node waiting stale ih => exact ih

/-- A visit stays where the nodes that wait can be reached. -/
lemma reaches_of_mem_visit {found : Nat}
    (reached : ∀ node ∈ waiting, node < graph.nodes.length → graph.Reaches label start node)
    (inside : found ∈ graph.visit label waiting visited) : graph.Reaches label start found := by
  fun_induction visit graph label waiting visited with
  | case1 => cases inside
  | case2 visited node waiting fresh ih =>
    have here : graph.Reaches label start node := reached node List.mem_cons_self fresh.1
    rcases List.mem_cons.1 inside with rfl | later
    · exact here
    · refine ih (fun other waits bound => ?_) later
      rcases List.mem_append.1 waits with old | met
      · exact reached other (List.mem_cons_of_mem _ old) bound
      · exact here.go ⟨bound, (mem_onward.1 met).1⟩
  | case3 visited node waiting stale ih =>
    exact ih (fun other waits => reached other (List.mem_cons_of_mem _ waits)) inside

/-! ## The distances of a visit -/

/-- The successors of a node that is visited wait behind the others. -/
lemma Level.visit (level : graph.Level label start depth (node :: near) far visited)
    (inside : node < graph.nodes.length) :
    graph.Level label start depth near
      (far ++ graph.onward label node (node :: visited)) (node :: visited) := by
  have here : graph.Way label start depth node := level.ofNear node List.mem_cons_self inside
  refine ⟨fun length other way low => ?_, fun other way => ?_, fun other waits => ?_,
    fun other waits bound => ?_, fun other old next leads => ?_⟩
  · exact List.mem_cons_of_mem _ (level.done way low)
  · rcases level.due way with old | waits
    · exact .inl (List.mem_cons_of_mem _ old)
    · rcases List.mem_cons.1 waits with rfl | waits
      · exact .inl List.mem_cons_self
      · exact .inr waits
  · exact level.ofNear other (List.mem_cons_of_mem _ waits)
  · rcases List.mem_append.1 waits with waits | met
    · exact level.ofFar other waits bound
    · exact here.go ⟨bound, (mem_onward.1 met).1⟩
  · by_cases known : next ∈ node :: visited
    · exact .inl known
    rcases List.mem_cons.1 old with rfl | old
    · exact .inr (.inr (List.mem_append_right _ (mem_onward.2 ⟨leads.2, known⟩)))
    · rcases level.met other old next leads with old | waits | waits
      · exact absurd (List.mem_cons_of_mem _ old) known
      · rcases List.mem_cons.1 waits with rfl | waits
        · exact absurd List.mem_cons_self known
        · exact .inr (.inl waits)
      · exact .inr (.inr (List.mem_append_left _ waits))

/-- Nearer nodes are visited first. -/
lemma pairwise_visit (begins : start < graph.nodes.length)
    (level : graph.Level label start depth near far visited) (waits : near ++ far = waiting) :
    (graph.visit label waiting visited).Pairwise fun node later =>
      graph.distance label start node ≤ graph.distance label start later := by
  fun_induction Graph.visit graph label waiting visited generalizing depth near far with
  | case1 => exact List.Pairwise.nil
  | case2 visited node waiting fresh =>
    rename_i ih
    obtain ⟨depth, near, far, level, rfl⟩ := level.exists_cons waits
    have onward := level.visit fresh.1
    refine List.pairwise_cons.2 ⟨fun later inside => ?_, ih onward (List.append_assoc ..).symm⟩
    have here := level.ofNear node List.mem_cons_self fresh.1
    -- what is nearer than this level has been visited, but the later node has not
    refine here.distance_le.trans (Nat.not_lt.1 fun low => ?_)
    have reaches : graph.Reaches label start later := by
      refine reaches_of_mem_visit (fun other found bound => ?_) inside
      rcases List.mem_append.1 found with found | found
      · rcases List.mem_append.1 found with found | found
        · exact ⟨depth, onward.ofNear other found bound⟩
        · exact ⟨_, onward.ofFar other (List.mem_append_left _ found) bound⟩
      · exact ⟨_, onward.ofFar other (List.mem_append_right _ found) bound⟩
    exact (mem_visit.1 inside).2.2 (onward.done reaches.shortest low)
  | case3 visited node waiting stale ih =>
    obtain ⟨depth, near, far, level, rfl⟩ := level.exists_cons waits
    exact ih (level.skip stale begins) rfl

/-- A walk goes breadth first. -/
lemma isBreadthFirst_walk (graph : Graph α β) (label : β) {start : Nat}
    (begins : start < graph.nodes.length) :
    graph.IsBreadthFirst label start (graph.walk label start) := by
  have found : start ∈ graph.walk label start :=
    mem_visit.2 ⟨.inl (List.mem_singleton_self _), begins, List.not_mem_nil⟩
  refine ⟨?_, nodup_visit .., fun node => ⟨fun inside => ?_, fun reaches => ?_⟩,
    pairwise_visit begins level_start rfl, ?_⟩
  · rw [walk, visit, dif_pos ⟨begins, List.not_mem_nil⟩]
    rfl
  · refine reaches_of_mem_visit (fun other waits _ => ?_) inside
    cases List.mem_singleton.1 waits
    exact ⟨0, .stay⟩
  · obtain ⟨length, way⟩ := reaches
    induction way with
    | stay => exact found
    | go way leads ih =>
      exact mem_visit.2 ⟨.inr ⟨_, ih, mem_successors.2 leads.2⟩, leads.1, List.not_mem_nil⟩
  · have order := visit_eq graph label [start] []
    simpa [walk] using order

/-! ## Walks with an action -/

section Action

variable {γ σ : Type}

/-- The action is called at the nodes of the visit, in their order. -/
lemma explore_eq (action : Nat → α → σ → Option γ × σ) (waiting visited : List Nat) (state : σ) :
    graph.explore label action waiting visited state =
      graph.act action (graph.visit label waiting visited) state := by
  fun_induction explore graph label action waiting visited state with
  | case1 visited state =>
    rw [visit]
    rfl
  | case2 visited state node waiting fresh item? after yields items last rest ih =>
    have value : graph.nodes[node]? = some (graph.nodes.get ⟨node, fresh.1⟩) :=
      List.getElem?_eq_getElem fresh.1
    rw [visit, dif_pos fresh, act, value]
    simp only [yields, ← ih, rest]
  | case3 visited state node waiting stale ih =>
    rw [visit, dif_neg stale, ih]

end Action

/--
A walk from a node of the graph goes breadth first. An action that is called on the way, whatever
state it keeps, is called once at each node of the walk, in the order of the walk, and what it
yields comes out in that order.
-/
theorem traverse_breadthFirst (graph : Graph α β) (label : β) {start : Nat}
    (begins : start < graph.nodes.length) :
    graph.IsBreadthFirst label start (graph.walk label start) ∧
    (∀ {γ σ : Type} (action : Nat → α → σ → Option γ × σ) (state : σ),
      graph.explore label action [start] [] state =
        graph.act action (graph.walk label start) state) ∧
    ∀ {γ σ : Type} (action : Nat → α → Option γ) (state : σ),
      graph.explore label (fun node value state => (action node value, state)) [start] [] state =
        (graph.traverse label start action, state) := by
  refine ⟨isBreadthFirst_walk graph label begins, fun action => explore_eq action _ _, ?_⟩
  intro γ σ action state
  rw [explore_eq, act_pure]
  rfl

/--
A graph with circles, branches and repeated edges, in which one edge has another label. The edges
that lead out of its nodes are in an order of their own, which is not the one of the numbers.
-/
def roundabout : Graph Unit Bool :=
  ⟨List.replicate 6 (), [⟨0, 2, true⟩, ⟨0, 1, true⟩, ⟨0, 2, true⟩, ⟨0, 4, true⟩, ⟨2, 2, true⟩,
    ⟨1, 3, true⟩, ⟨2, 0, true⟩, ⟨2, 3, true⟩, ⟨3, 5, false⟩]⟩

/-- The walk through it, as an action sees it that writes down where it is called. -/
theorem traverse_breadthFirst_roundabout : 0 < roundabout.nodes.length ∧
    roundabout.IsBreadthFirst true 0 [0, 2, 1, 4, 3] ∧
    roundabout.explore true (fun node _ calls => (some node, calls ++ [node])) [0] [] [] =
      ([0, 2, 1, 4, 3], [0, 2, 1, 4, 3]) := by
  have begins : 0 < roundabout.nodes.length := by decide
  have walk : roundabout.walk true 0 = [0, 2, 1, 4, 3] := by
    simp [Graph.walk, visit, onward, outgoing, roundabout]
  obtain ⟨order, calls, -⟩ := traverse_breadthFirst roundabout true begins
  rw [walk] at order
  refine ⟨begins, order, ?_⟩
  rw [calls, walk]
  rfl

end FluentGen.Graph
