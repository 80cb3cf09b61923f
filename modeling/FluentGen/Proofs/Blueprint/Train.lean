import FluentGen.Builder.Blueprint
import FluentGen.Proofs.Graph.Chain

/-!
# Trains

What a train adds to a blueprint: its elements as the next nodes, a chain of edges through them that
begins at the node before, and the keys of its places. No two places have the same key, so the nodes
of a train are found again whatever else is placed.
-/

namespace FluentGen

/-- Places are told apart by their keys. -/
lemma Place.key_injective : Function.Injective Place.key := by
  intro place other same
  have letters := congrArg String.toList same
  cases place <;> cases other <;> simp [Place.key] at letters ⊢
  -- what is left are two places of one train, whose indices have the same digits
  all_goals simpa using congrArg (Nat.ofDigitChars 10 · 0) letters

/-- Places are told apart by their keys. -/
@[simp]
lemma Place.key_beq (place other : Place) : (place.key == other.key) = decide (place = other) := by
  rw [Bool.eq_iff_iff]
  simpa using Place.key_injective.eq_iff

namespace Blueprint

/-- A new place adds a node to the graph. -/
@[simp]
lemma add_graph (plan : Blueprint) (place : Place) (element : Element) :
    (plan.add place element).graph = plan.graph.addNode element :=
  rfl

/-- A new place is found behind the others, at its node. -/
@[simp]
lemma add_places (plan : Blueprint) (place : Place) (element : Element) :
    (plan.add place element).places =
      plan.places ++ [(place.key, plan.graph.nodes.length)] :=
  rfl

/-- A new edge adds no node. -/
@[simp]
lemma link_nodes (plan : Blueprint) (source target : Nat) (relation : Relation) :
    (plan.link source target relation).graph.nodes = plan.graph.nodes :=
  rfl

/-- A new edge comes behind the others. -/
@[simp]
lemma link_edges (plan : Blueprint) (source target : Nat) (relation : Relation) :
    (plan.link source target relation).graph.edges =
      plan.graph.edges ++ [⟨source, target, relation⟩] :=
  rfl

/-- A new edge adds no place. -/
@[simp]
lemma link_places (plan : Blueprint) (source target : Nat) (relation : Relation) :
    (plan.link source target relation).places = plan.places :=
  rfl

/-- The entries of the places of a train, whose nodes begin at a number. -/
def stops (place : Nat → Place) (node count : Nat) : List (String × Nat) :=
  (List.range count).map fun index => ((place index).key, node + index)

section Train

variable (place : Nat → Place) (relation : Relation) (index : Nat) (before : Option Nat)
  (elements : List Element) (plan : Blueprint)

/-- A train adds its elements as nodes. -/
lemma addTrain_nodes :
    (addTrain place relation index before elements plan).graph.nodes =
      plan.graph.nodes ++ elements := by
  induction elements generalizing index before plan with
  | nil => simp [addTrain]
  | cons element elements ih =>
    simp only [addTrain, ih]
    cases before <;> simp [Graph.addNode]

/-- A train adds a chain from the node before it through all its nodes. -/
lemma addTrain_edges :
    (addTrain place relation index before elements plan).graph.edges =
      plan.graph.edges ++ Graph.chain relation
        (before.toList ++ List.range' plan.graph.nodes.length elements.length) := by
  induction elements generalizing index before plan with
  | nil => cases before <;> simp [addTrain, Graph.chain]
  | cons element elements ih =>
    simp only [addTrain, ih, List.length_cons, List.range'_succ]
    cases before with
    | none => simp [Graph.addNode]
    | some node => simp [Graph.addNode, Graph.chain_cons_cons]

/-- A train adds the keys of its places. -/
lemma addTrain_places :
    (addTrain place relation index before elements plan).places =
      plan.places ++ stops (fun step => place (index + step)) plan.graph.nodes.length
        elements.length := by
  induction elements generalizing index before plan with
  | nil => simp [addTrain, stops]
  | cons element elements ih =>
    have onward : ∀ node : Nat,
        stops (fun step => place (index + 1 + step)) (node + 1) elements.length =
          (List.range elements.length).map fun step =>
            ((place (index + (step + 1))).key, node + (step + 1)) := by
      intro node
      simp only [stops, Nat.add_assoc, Nat.add_comm 1]
    rw [stops, List.length_cons, List.range_succ_eq_map, List.map_cons, List.map_map]
    simp only [addTrain, ih]
    cases before <;> simp [Graph.addNode, onward]

end Train

/-- A place of a train has the node that it adds up to, unless it lies behind the end. -/
lemma lookup_stops {place : Nat → Place} (distinct : Function.Injective place)
    (node count index : Nat) :
    (stops place node count).lookup (place index).key =
      if index < count then some (node + index) else none := by
  induction count with
  | zero => simp [stops]
  | succ count ih =>
    have last : stops place node (count + 1) =
        stops place node count ++ [((place count).key, node + count)] := by
      simp [stops, List.range_succ]
    rw [last, List.lookup_append, ih]
    rcases Nat.lt_trichotomy index count with low | same | high
    · simp [low, Nat.lt_succ_of_lt low]
    · simp [same]
    · have past : ¬index < count + 1 := by omega
      have apart : ((place index).key == (place count).key) = false := by
        simpa using fun same => Nat.ne_of_gt high (distinct same)
      simp [Nat.lt_asymm high, past, List.lookup_cons, apart]

/-- A place of another kind has no node in a train. -/
lemma lookup_stops_eq_none {place : Nat → Place} {other : Place} (node count : Nat)
    (outside : ∀ index, place index ≠ other) :
    (stops place node count).lookup other.key = none := by
  refine List.lookup_eq_none_iff.2 fun entry member => ?_
  obtain ⟨index, low, rfl⟩ := List.mem_map.1 member
  rw [bne, Place.key_beq]
  simpa using (outside index).symm

end Blueprint

end FluentGen
