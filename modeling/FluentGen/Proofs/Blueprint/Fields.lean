import FluentGen.Builder.Basic
import FluentGen.Proofs.Blueprint.Train

/-!
# The fields that a blueprint selects

What stands in the blueprint of a target, step by step: which nodes there are, which edges, and what
is kept under which key. The walks along its two trains find the private fields of the target whose
type is known, in the order of their declaration (`Target.privateFields`).
-/

namespace FluentGen

/-- The field that a member is for a builder: only a private field with a type is one. -/
def Member.privateField? : Member → Option Field
  | ⟨name, .field, .inherited, some type⟩ => some ⟨name, type⟩
  | _ => none

namespace Target

/-- The private fields with a type, in the order of their declaration. -/
def privateFields (target : Target) : List Field :=
  target.members.filterMap Member.privateField?

/-- The private fields with a type, each with the node of its member. -/
def placedFields (target : Target) : List (Nat × Field) :=
  (target.members.zipIdx 2).filterMap fun entry => entry.1.privateField?.map (entry.2, ·)

/-- Which nodes the members have does not matter to the fields. -/
lemma map_placedFields (target : Target) :
    target.placedFields.map (·.2) = target.privateFields := by
  have forget : ∀ (members : List Member) (node : Nat),
      ((members.zipIdx node).filterMap fun entry =>
        (entry.1.privateField?.map (entry.2, ·)).map Prod.snd) =
        members.filterMap Member.privateField? := by
    intro members node
    induction members generalizing node with
    | nil => rfl
    | cons member members ih =>
      rw [List.zipIdx_cons, List.filterMap_cons, List.filterMap_cons, ih]
      cases member.privateField? <;> rfl
  rw [placedFields, List.map_filterMap, forget, privateFields]

end Target

namespace Blueprint

/-- A blueprint selects members by the plain test of their kind, visibility and type. -/
lemma selected?_member (member : Member) :
    selected? (.member member) = member.privateField? := by
  obtain ⟨name, kind, visibility, type⟩ := member
  cases kind <;> cases visibility <;> cases type <;> rfl

section

variable (target : Target)

/-- The nodes of a target: its name, its module and its members. -/
def targetNodes : List Element :=
  [Element.ident target.name, Element.package target.package] ++ target.members.map Element.member

/-- The nodes in front of the fields of the builder. -/
def frontNodes : List Element :=
  targetNodes target ++ [Element.builderIdent (.plain (Naming.builderName target.name.text))]

/-- There is a node for each member, one for the name and one for the package. -/
@[simp]
lemma length_targetNodes : (targetNodes target).length = target.members.length + 2 := by
  simp [targetNodes]

/-- The name of the builder adds one node. -/
@[simp]
lemma length_frontNodes : (frontNodes target).length = target.members.length + 3 := by
  simp [frontNodes]

/-- The nodes that a target is entered with. -/
lemma nodes_ofTarget : (ofTarget target).graph.nodes = targetNodes target :=
  addTrain_nodes ..

/-- The edges that a target is entered with join its members. -/
lemma edges_ofTarget :
    (ofTarget target).graph.edges =
      Graph.chain .memberTrain (List.range' 2 target.members.length) := by
  rw [ofTarget, addTrain_edges, List.length_map]
  rfl

/-- The places that a target is entered with. -/
lemma places_ofTarget :
    (ofTarget target).places =
      [(Place.ident.key, 0), (Place.package.key, 1)] ++ stops .member 2 target.members.length := by
  rw [ofTarget, addTrain_places, List.length_map]
  simp only [Nat.zero_add]
  rfl

/-- The name of the builder is linked from the name of the target. -/
lemma addBuilderIdent_ofTarget :
    (ofTarget target).addBuilderIdent =
      ((ofTarget target).add .builderIdent
        (.builderIdent (.plain (Naming.builderName target.name.text)))).link 0
          (target.members.length + 2) .identToBuilderIdent := by
  have origin : (ofTarget target).find? .ident = some 0 := by
    rw [find?, places_ofTarget]
    rfl
  have name : (ofTarget target).graph.nodes[0]? = some (.ident target.name) := by
    rw [nodes_ofTarget]
    rfl
  have count : (ofTarget target).graph.nodes.length = target.members.length + 2 := by
    simp [nodes_ofTarget]
  simp only [addBuilderIdent, origin, name, count]

/-- The nodes once the builder has a name. -/
lemma nodes_addBuilderIdent :
    (ofTarget target).addBuilderIdent.graph.nodes = frontNodes target := by
  simp [addBuilderIdent_ofTarget, Graph.addNode, nodes_ofTarget, frontNodes]

/-- The name of the target leads to the name of the builder. -/
lemma edges_addBuilderIdent :
    (ofTarget target).addBuilderIdent.graph.edges =
      Graph.chain .memberTrain (List.range' 2 target.members.length) ++
        [⟨0, target.members.length + 2, .identToBuilderIdent⟩] := by
  simp [addBuilderIdent_ofTarget, Graph.addNode, edges_ofTarget]

/-- The name of the builder has a place behind the members. -/
lemma places_addBuilderIdent :
    (ofTarget target).addBuilderIdent.places =
      [(Place.ident.key, 0), (Place.package.key, 1)] ++ stops .member 2 target.members.length ++
        [(Place.builderIdent.key, target.members.length + 2)] := by
  simp [addBuilderIdent_ofTarget, places_ofTarget, nodes_ofTarget]

/-- The walk along the members finds the private fields. -/
lemma selection_addBuilderIdent :
    (ofTarget target).addBuilderIdent.selection = target.placedFields := by
  have start : (ofTarget target).addBuilderIdent.find? (.member 0) =
      if 0 < target.members.length then some 2 else none := by
    rw [find?, places_addBuilderIdent]
    simp only [List.lookup_append, lookup_stops (fun _ _ => Place.member.inj)]
    split <;> simp [List.lookup_cons]
  have edges : Graph.labelled .memberTrain (ofTarget target).addBuilderIdent.graph.edges =
      Graph.chain .memberTrain (List.range' 2 (target.members.map Element.member).length) := by
    simp [edges_addBuilderIdent]
  -- without members there is no train to walk along
  by_cases none : target.members = []
  · simp [selection, start, Target.placedFields, none]
  · rw [selection, start, if_pos (List.length_pos_iff.2 none)]
    show Graph.traverse _ _ [Element.ident target.name, .package target.package].length _ = _
    rw [Graph.traverse_chain _ _ (nodes_addBuilderIdent target) edges (by simpa using none),
      List.zipIdx_map, List.filterMap_map]
    simp only [Function.comp_def, Prod.map, selected?_member, id]
    rfl

/-- Links from members to the fields of the builder, which have consecutive nodes. -/
lemma linkFields_eq {plan : Blueprint} {members : List Nat} {node index : Nat}
    (found : ∀ step < members.length,
      plan.find? (.builderField (index + step)) = some (node + step)) :
    linkFields index members plan =
      ⟨⟨plan.graph.nodes, plan.graph.edges ++ (members.zipIdx node).map fun entry =>
        ⟨entry.1, entry.2, .memberToBuilderField⟩⟩, plan.places⟩ := by
  induction members generalizing plan node index with
  | nil => simp [linkFields]
  | cons member members ih =>
    have here : plan.find? (.builderField index) = some node := found 0 (by simp)
    have onward : ∀ step < members.length,
        (plan.link member node .memberToBuilderField).find? (.builderField (index + 1 + step)) =
          some (node + 1 + step) := by
      intro step low
      rw [Nat.add_assoc, Nat.add_assoc, Nat.add_comm 1 step]
      exact found (step + 1) (by simpa using low)
    simp only [linkFields, here, ih onward]
    simp

/-- The blueprint with the fields of the builder, before they are linked from their members. -/
def fieldTrain : Blueprint :=
  (ofTarget target).addBuilderIdent.addTrain .builderField .builderFieldTrain 0 none
    (target.privateFields.map .builderField)

/-- The nodes once the fields are selected. -/
lemma nodes_fieldTrain :
    (fieldTrain target).graph.nodes =
      frontNodes target ++ target.privateFields.map Element.builderField := by
  rw [fieldTrain, addTrain_nodes, nodes_addBuilderIdent]

/-- The edges once the fields are selected. -/
lemma edges_fieldTrain :
    (fieldTrain target).graph.edges =
      Graph.chain .memberTrain (List.range' 2 target.members.length) ++
        [⟨0, target.members.length + 2, .identToBuilderIdent⟩] ++
        Graph.chain .builderFieldTrain
          (List.range' (target.members.length + 3) target.privateFields.length) := by
  rw [fieldTrain, addTrain_edges, edges_addBuilderIdent, nodes_addBuilderIdent]
  simp

/-- The places once the fields are selected. -/
lemma places_fieldTrain :
    (fieldTrain target).places =
      [(Place.ident.key, 0), (Place.package.key, 1)] ++ stops .member 2 target.members.length ++
        [(Place.builderIdent.key, target.members.length + 2)] ++
        stops .builderField (target.members.length + 3) target.privateFields.length := by
  rw [fieldTrain, addTrain_places, places_addBuilderIdent, nodes_addBuilderIdent]
  simp

/-- The fields of the builder are found under their own keys. -/
lemma find?_fieldTrain (index : Nat) :
    (fieldTrain target).find? (.builderField index) =
      if index < target.privateFields.length then some (target.members.length + 3 + index)
      else none := by
  have apart : ∀ other, Place.member other ≠ .builderField index := by simp
  rw [find?, places_fieldTrain]
  simp only [List.lookup_append, lookup_stops (fun _ _ => Place.builderField.inj),
    lookup_stops_eq_none _ _ apart]
  simp [List.lookup_cons]

/-- The blueprint of a target consists of two trains with links between them. -/
lemma blueprint_eq :
    target.blueprint =
      ⟨⟨(fieldTrain target).graph.nodes, (fieldTrain target).graph.edges ++
        ((target.placedFields.map (·.1)).zipIdx (target.members.length + 3)).map fun entry =>
          ⟨entry.1, entry.2, .memberToBuilderField⟩⟩, (fieldTrain target).places⟩ := by
  have count : target.privateFields.length = (target.placedFields.map (·.1)).length := by
    simp [← target.map_placedFields]
  have fields : target.placedFields.map (Element.builderField ·.2) =
      target.privateFields.map .builderField := by
    rw [← target.map_placedFields, List.map_map]
    rfl
  rw [Target.blueprint, withBuilder, addBuilderFields, selection_addBuilderIdent, fields,
    ← fieldTrain]
  apply linkFields_eq
  intro step low
  rw [Nat.zero_add, find?_fieldTrain, count, if_pos low]

end

end Blueprint

namespace Target

/-- The walk along the train of the builder finds the private fields. -/
lemma builderFields_eq (target : Target) : target.builderFields = target.privateFields := by
  have start : target.blueprint.find? (.builderField 0) =
      if 0 < target.privateFields.length then some (target.members.length + 3) else none := by
    rw [Blueprint.blueprint_eq]
    exact Blueprint.find?_fieldTrain target 0
  have nodes : target.blueprint.graph.nodes =
      Blueprint.frontNodes target ++ target.privateFields.map Element.builderField ++ [] := by
    rw [Blueprint.blueprint_eq, List.append_nil, Blueprint.nodes_fieldTrain]
  have edges : Graph.labelled .builderFieldTrain target.blueprint.graph.edges =
      Graph.chain .builderFieldTrain (List.range' (target.members.length + 3)
        (target.privateFields.map Element.builderField).length) := by
    -- the links between the trains have a label of their own
    have links : Graph.labelled .builderFieldTrain
        (((target.placedFields.map (·.1)).zipIdx (target.members.length + 3)).map fun entry =>
          (⟨entry.1, entry.2, .memberToBuilderField⟩ : Edge Relation)) = [] := by
      refine Graph.labelled_eq_nil fun edge inside => ?_
      obtain ⟨entry, -, rfl⟩ := List.mem_map.1 inside
      simp
    rw [Blueprint.blueprint_eq, Graph.labelled_append, links, Blueprint.edges_fieldTrain]
    simp
  rw [builderFields, Blueprint.fields, start]
  by_cases none : target.privateFields = []
  · simp [none]
  · rw [if_pos (List.length_pos_iff.2 none), ← Blueprint.length_frontNodes]
    rw [← Blueprint.length_frontNodes] at edges
    show Graph.traverse _ _ _ _ = _
    rw [Graph.traverse_chain _ _ nodes edges (by simpa using none), List.zipIdx_map,
      List.filterMap_map]
    show (target.privateFields.zipIdx _).filterMap (some ∘ Prod.fst) = _
    rw [List.filterMap_eq_map, List.zipIdx_map_fst]

end Target

end FluentGen
