import FluentGen.Proofs.Blueprint.Fields
import Mathlib.Data.List.Nodup

/-!
# The shape of a blueprint

What the complete blueprint of a target looks like: which places it has and what stands there, and
which places are linked by each relation (`Blueprint.isDrawn_blueprint`). Nothing else is in it.
-/

namespace FluentGen

namespace Target

/-- The members that are fields of the builder, by their indices. -/
def selectedIndices (target : Target) : List Nat :=
  (target.members.zipIdx.filter (·.1.privateField?.isSome)).map (·.2)

/-- The places of a target's blueprint, in the order in which they are filled. -/
def places (target : Target) : List Place :=
  [.ident, .package] ++ (List.range target.members.length).map .member ++ [.builderIdent] ++
    (List.range target.privateFields.length).map .builderField

/-- What stands at a place of a target's blueprint. -/
def element? (target : Target) : Place → Option Element
  | .ident => some (.ident target.name)
  | .package => some (.package target.package)
  | .builderIdent => some (.builderIdent (.plain (Naming.builderName target.name.text)))
  | .member index => target.members[index]?.map .member
  | .builderField index => target.privateFields[index]?.map .builderField

/-- The places that a relation links in a target's blueprint, in the order of the links. -/
def links (target : Target) : Relation → List (Place × Place)
  | .memberTrain =>
    (List.range (target.members.length - 1)).map fun index => (.member index, .member (index + 1))
  | .builderFieldTrain =>
    (List.range (target.privateFields.length - 1)).map fun index =>
      (.builderField index, .builderField (index + 1))
  | .memberToBuilderField =>
    target.selectedIndices.zipIdx.map fun entry => (.member entry.1, .builderField entry.2)
  | .identToBuilderIdent => [(.ident, .builderIdent)]

end Target

namespace Blueprint

/-- The edge that links two places, if there are nodes at both. -/
def edge? (plan : Blueprint) (relation : Relation) (ends : Place × Place) :
    Option (Edge Relation) := do
  let source ← plan.find? ends.1
  let target ← plan.find? ends.2
  pure ⟨source, target, relation⟩

/-- A blueprint shows the places and the links of a target, and nothing else. -/
structure IsDrawn (target : Target) (plan : Blueprint) : Prop where
  /-- There are as many nodes as members and fields, and three more. -/
  size : plan.graph.nodes.length = 3 + target.members.length + target.privateFields.length
  /-- The keys are those of the places. -/
  keys : plan.places.map (·.1) = target.places.map Place.key
  /-- No key is given twice. -/
  distinct : (plan.places.map (·.1)).Nodup
  /-- Every node has one key. -/
  nodes : plan.places.map (·.2) = List.range plan.graph.nodes.length
  /-- Every place is found, and there stands what belongs to it. -/
  elements : ∀ place ∈ target.places, ∃ node element, plan.find? place = some node ∧
    plan.graph.nodes[node]? = some element ∧ target.element? place = some element
  /-- The fields of the builder are the selected members, in their order. -/
  selected : target.selectedIndices.map (fun index =>
    target.members[index]?.bind Member.privateField?) = target.privateFields.map some
  /-- The edges of a relation link the places that it links, each link being made once. -/
  edges : ∀ relation, (Graph.labelled relation plan.graph.edges).map some =
    (target.links relation).map (plan.edge? relation)

/-- Among keys of places, a place is found under its own. -/
lemma lookup_key {number : Place → Nat} {places : List Place} {place : Place}
    (inside : place ∈ places) :
    (places.map fun place => (place.key, number place)).lookup place.key =
      some (number place) := by
  induction places with
  | nil => cases inside
  | cons first places ih =>
    rw [List.map_cons, List.lookup_cons, Place.key_beq]
    by_cases same : place = first
    · simp [same]
    · simpa [same] using ih ((List.mem_cons.1 inside).resolve_left same)

section

variable (target : Target)

/-- The number of the node at a place. -/
def nodeNumber : Place → Nat
  | .ident => 0
  | .package => 1
  | .member index => 2 + index
  | .builderIdent => target.members.length + 2
  | .builderField index => target.members.length + 3 + index

/-- The nodes of a blueprint. -/
lemma nodes_blueprint : target.blueprint.graph.nodes =
    frontNodes target ++ target.privateFields.map Element.builderField := by
  rw [blueprint_eq]
  exact nodes_fieldTrain target

/-- There are as many nodes as members and fields, and three more. -/
lemma size_blueprint : target.blueprint.graph.nodes.length =
    3 + target.members.length + target.privateFields.length := by
  rw [nodes_blueprint, List.length_append, length_frontNodes, List.length_map]
  omega

/-- Every place of a target is found under its key. -/
lemma places_blueprint : target.blueprint.places =
    target.places.map fun place => (place.key, nodeNumber target place) := by
  rw [blueprint_eq]
  simp only [places_fieldTrain, stops, Target.places, List.map_append, List.map_map]
  rfl

/-- No place is filled twice. -/
lemma nodup_places : target.places.Nodup := by
  have members : ((List.range target.members.length).map Place.member).Nodup :=
    List.Nodup.map (fun _ _ => Place.member.inj) List.nodup_range
  have fields : ((List.range target.privateFields.length).map Place.builderField).Nodup :=
    List.Nodup.map (fun _ _ => Place.builderField.inj) List.nodup_range
  simp [Target.places, List.nodup_append, members, fields]

/-- The numbers of the nodes at the places, one after another, are those of all nodes. -/
lemma map_nodeNumber : target.places.map (nodeNumber target) =
    List.range (3 + target.members.length + target.privateFields.length) := by
  have size : 3 + target.members.length + target.privateFields.length =
      2 + target.members.length + 1 + target.privateFields.length := by omega
  have front : target.members.length + 2 = 2 + target.members.length := Nat.add_comm ..
  have fields (index : Nat) : target.members.length + 3 + index =
      2 + target.members.length + 1 + index := by omega
  rw [size, List.range_add, List.range_succ, List.range_add, Target.places]
  simp only [List.map_append, List.map_map, Function.comp_def, List.map_cons, List.map_nil,
    nodeNumber, front, fields]
  rfl

/-- What is at a place is found under its key. -/
lemma find?_blueprint {place : Place} (inside : place ∈ target.places) :
    target.blueprint.find? place = some (nodeNumber target place) := by
  rw [find?, places_blueprint]
  exact lookup_key inside

/-- At the node of a place there stands what belongs to it. -/
lemma getElem?_nodeNumber {place : Place} (inside : place ∈ target.places) :
    ∃ element, target.blueprint.graph.nodes[nodeNumber target place]? = some element ∧
      target.element? place = some element := by
  rw [nodes_blueprint]
  simp only [Target.places, List.mem_append, List.mem_cons, List.mem_map, List.mem_range,
    List.not_mem_nil, or_false] at inside
  rcases inside with ((((rfl | rfl) | ⟨index, low, rfl⟩) | rfl) | ⟨index, low, rfl⟩)
  · exact ⟨_, rfl, rfl⟩
  · exact ⟨_, rfl, rfl⟩
  · refine ⟨.member target.members[index], ?_, by simp [Target.element?, low]⟩
    have here : (2 + index) - 2 = index := Nat.add_sub_cancel_left ..
    rw [nodeNumber, List.getElem?_append_left (by simp; omega), frontNodes, targetNodes,
      List.getElem?_append_left (by simp; omega), List.getElem?_append_right (by simp)]
    simp [here, low]
  · refine ⟨_, ?_, rfl⟩
    rw [nodeNumber, List.getElem?_append_left (by simp), frontNodes,
      List.getElem?_append_right (by simp)]
    simp
  · refine ⟨.builderField target.privateFields[index], ?_, by simp [Target.element?, low]⟩
    rw [nodeNumber, List.getElem?_append_right (by simp), length_frontNodes,
      Nat.add_sub_cancel_left]
    simp [low]

/-- The nodes of the selected members. -/
lemma map_placedFields_fst :
    target.placedFields.map (·.1) = target.selectedIndices.map (2 + ·) := by
  have start : ∀ (members : List Member) (node : Nat),
      ((members.zipIdx (2 + node)).filterMap fun entry =>
        entry.1.privateField?.map (entry.2, ·)).map (·.1) =
        ((members.zipIdx node).filter (·.1.privateField?.isSome)).map (2 + ·.2) := by
    intro members node
    induction members generalizing node with
    | nil => rfl
    | cons member members ih =>
      rw [List.zipIdx_cons, List.zipIdx_cons, List.filterMap_cons, List.filter_cons, Nat.add_assoc]
      cases member.privateField? with
      | none => exact ih (node + 1)
      | some field => exact congrArg _ (ih (node + 1))
  rw [Target.selectedIndices, List.map_map]
  exact start target.members 0

/-- The fields of the builder are what the selected members are for it. -/
lemma map_selectedIndices : target.selectedIndices.map (fun index =>
    target.members[index]?.bind Member.privateField?) = target.privateFields.map some := by
  have found : ∀ entry ∈ target.members.zipIdx.filter (·.1.privateField?.isSome),
      target.members[entry.2]?.bind Member.privateField? = entry.1.privateField? := by
    intro entry inside
    rw [List.mem_zipIdx_iff_getElem?.1 (List.mem_filter.1 inside).1, Option.bind_some]
  have forget : (target.members.zipIdx.filter (·.1.privateField?.isSome)).map (·.1) =
      target.members.filter (·.privateField?.isSome) := by
    conv_rhs => rw [← List.zipIdx_map_fst 0 target.members, List.filter_map]
    rfl
  have known (members : List Member) :
      (members.filter (·.privateField?.isSome)).map Member.privateField? =
        (members.filterMap Member.privateField?).map some := by
    induction members with
    | nil => rfl
    | cons member members ih =>
      rw [List.filter_cons, List.filterMap_cons]
      cases field : member.privateField? with
      | none => exact ih
      | some found => simpa [field] using ih
  rw [Target.selectedIndices, List.map_map]
  calc (target.members.zipIdx.filter (·.1.privateField?.isSome)).map _
      = (target.members.zipIdx.filter (·.1.privateField?.isSome)).map (·.1.privateField?) :=
        List.map_congr_left found
    _ = (target.members.filter (·.privateField?.isSome)).map Member.privateField? := by
        rw [← forget, List.map_map]
        rfl
    _ = target.privateFields.map some := known target.members

/-- As many members are selected as the builder has fields. -/
lemma length_selectedIndices : target.selectedIndices.length = target.privateFields.length := by
  simpa using congrArg List.length (map_selectedIndices target)

/-! ## Links -/

/-- An edge between two places joins their nodes. -/
lemma edge?_blueprint {relation : Relation} {source goal : Place} (begins : source ∈ target.places)
    (ends : goal ∈ target.places) : target.blueprint.edge? relation (source, goal) =
      some ⟨nodeNumber target source, nodeNumber target goal, relation⟩ := by
  simp only [edge?, find?_blueprint target begins, find?_blueprint target ends]
  rfl

/-- There is a place for each member. -/
lemma member_mem_places {index : Nat} :
    .member index ∈ target.places ↔ index < target.members.length := by
  simp [Target.places]

/-- There is a place for each private field. -/
lemma builderField_mem_places {index : Nat} :
    .builderField index ∈ target.places ↔ index < target.privateFields.length := by
  simp [Target.places]

/-- The edges between the places that a relation links. -/
lemma map_edge? (relation : Relation) :
    (target.links relation).map (target.blueprint.edge? relation) =
    (target.links relation).map fun ends =>
      some ⟨nodeNumber target ends.1, nodeNumber target ends.2, relation⟩ := by
  refine List.map_congr_left fun ends linked => ?_
  have inside : ends.1 ∈ target.places ∧ ends.2 ∈ target.places := by
    cases relation with
    | memberTrain =>
      obtain ⟨index, low, rfl⟩ := List.mem_map.1 linked
      simp only [member_mem_places]
      have := List.mem_range.1 low
      omega
    | builderFieldTrain =>
      obtain ⟨index, low, rfl⟩ := List.mem_map.1 linked
      simp only [builderField_mem_places]
      have := List.mem_range.1 low
      omega
    | memberToBuilderField =>
      obtain ⟨entry, among, rfl⟩ := List.mem_map.1 linked
      have selected : entry.1 ∈ target.selectedIndices :=
        List.mem_of_getElem? (List.mem_zipIdx_iff_getElem?.1 among)
      obtain ⟨origin, found, same⟩ := List.mem_map.1 selected
      have low := List.snd_lt_of_mem_zipIdx (List.mem_filter.1 found).1
      have field := List.snd_lt_of_mem_zipIdx among
      rw [length_selectedIndices] at field
      simp only [member_mem_places, builderField_mem_places]
      omega
    | identToBuilderIdent =>
      cases List.mem_singleton.1 linked
      simp [Target.places]
  exact edge?_blueprint target inside.1 inside.2

/-- The edges between the places that a relation links. -/
def drawn (relation : Relation) : List (Edge Relation) :=
  (target.links relation).map fun ends =>
    ⟨nodeNumber target ends.1, nodeNumber target ends.2, relation⟩

/-- The edges that are drawn for a relation belong to it alone. -/
lemma labelled_drawn (relation other : Relation) : Graph.labelled relation (drawn target other) =
    if other = relation then drawn target other else [] := by
  split
  · next same =>
    refine List.filter_eq_self.2 fun edge inside => ?_
    obtain ⟨ends, -, rfl⟩ := List.mem_map.1 inside
    simpa using same
  · next apart =>
    refine Graph.labelled_eq_nil fun edge inside => ?_
    obtain ⟨ends, -, rfl⟩ := List.mem_map.1 inside
    exact apart

/-- Edges are drawn for one relation after another. -/
lemma edges_blueprint : target.blueprint.graph.edges =
    drawn target .memberTrain ++ drawn target .identToBuilderIdent ++
      drawn target .builderFieldTrain ++ drawn target .memberToBuilderField := by
  have members : Graph.chain .memberTrain (List.range' 2 target.members.length) =
      drawn target .memberTrain := by
    rw [Graph.chain_range', drawn, Target.links, List.map_map]
    rfl
  have fields : Graph.chain .builderFieldTrain
      (List.range' (target.members.length + 3) target.privateFields.length) =
        drawn target .builderFieldTrain := by
    rw [Graph.chain_range', drawn, Target.links, List.map_map]
    rfl
  have links : ((target.selectedIndices.map (2 + ·)).zipIdx (target.members.length + 3)).map
      (fun entry => (⟨entry.1, entry.2, .memberToBuilderField⟩ : Edge Relation)) =
        drawn target .memberToBuilderField := by
    rw [List.zipIdx_map, List.zipIdx_eq_map_add, List.map_map, List.map_map, drawn, Target.links,
      List.map_map]
    rfl
  rw [blueprint_eq]
  simp only [edges_fieldTrain, map_placedFields_fst, members, fields, links]
  rfl

/-- The edges of a relation are those that are drawn for it. -/
lemma labelled_blueprint (relation : Relation) :
    Graph.labelled relation target.blueprint.graph.edges = drawn target relation := by
  simp only [edges_blueprint, Graph.labelled_append, labelled_drawn]
  cases relation <;> simp

end

/-- The blueprint of a target is drawn after it. -/
theorem isDrawn_blueprint (target : Target) : target.blueprint.IsDrawn target where
  size := size_blueprint target
  keys := by
    rw [places_blueprint, List.map_map]
    rfl
  distinct := by
    rw [places_blueprint, List.map_map]
    exact (nodup_places target).map Place.key_injective
  nodes := by
    rw [places_blueprint, List.map_map, size_blueprint]
    exact map_nodeNumber target
  elements place inside := by
    obtain ⟨element, stands, belongs⟩ := getElem?_nodeNumber target inside
    exact ⟨_, element, find?_blueprint target inside, stands, belongs⟩
  selected := map_selectedIndices target
  edges relation := by
    rw [labelled_blueprint, map_edge?, drawn, List.map_map]
    rfl

end Blueprint

end FluentGen
