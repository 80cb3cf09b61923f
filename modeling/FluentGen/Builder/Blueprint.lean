import FluentGen.Graph
import FluentGen.Naming
import FluentGen.Target.Basic

/-!
# Blueprints

A blueprint lays a target out as a graph. The members form a train in the order of their
declaration; the private fields among them are found by a walk along it and form a second train,
the fields of the builder, each linked from the member that it comes from.
-/

namespace FluentGen

/-- What a node of a blueprint stands for. -/
inductive Element where
  | ident (name : Name)
  | package (name : String)
  | member (member : Member)
  | builderIdent (name : Name)
  | builderField (field : Field)
deriving DecidableEq

/-- How two elements of a blueprint are related. -/
inductive Relation where
  /-- The order in which the members are declared. -/
  | memberTrain
  /-- The order in which the fields of the builder are emitted. -/
  | builderFieldTrain
  | memberToBuilderField
  | identToBuilderIdent
deriving DecidableEq

/-- A name for a node of a blueprint. -/
inductive Place where
  | ident
  | package
  | builderIdent
  | member (index : Nat)
  | builderField (index : Nat)
deriving DecidableEq

/-- The key under which the node at a place is kept. -/
def Place.key : Place → String
  | ident => "Ident"
  | package => "Package"
  | builderIdent => "BuilderIdent"
  | member index => "Member" ++ toString index
  | builderField index => "BuilderField" ++ toString index

/-- The graph of a target, with the numbers of the nodes that have a name under their keys. -/
structure Blueprint where
  graph : Graph Element Relation
  places : List (String × Nat)

namespace Blueprint

/-- The number of the node at a place. -/
def find? (plan : Blueprint) (place : Place) : Option Nat :=
  plan.places.lookup place.key

/-- Adds a node at a place. -/
def add (plan : Blueprint) (place : Place) (element : Element) : Blueprint :=
  ⟨plan.graph.addNode element, plan.places ++ [(place.key, plan.graph.nodes.length)]⟩

/-- Adds an edge between two nodes. -/
def link (plan : Blueprint) (source target : Nat) (relation : Relation) : Blueprint :=
  { plan with graph := plan.graph.addEdge source target relation }

/--
Adds nodes in a row, each joined to the one before it. The index of the first place and the node
before it, if there is one, are given.
-/
def addTrain (place : Nat → Place) (relation : Relation) :
    Nat → Option Nat → List Element → Blueprint → Blueprint
  | _, _, [], plan => plan
  | index, before, element :: rest, plan =>
    let node := plan.graph.nodes.length
    let grown := plan.add (place index) element
    let joined := match before with
      | some before => grown.link before node relation
      | none => grown
    addTrain place relation (index + 1) (some node) rest joined

/-- The blueprint of a target alone: its identity and the train of its members. -/
def ofTarget (target : Target) : Blueprint :=
  let identity := (Blueprint.mk Graph.empty []).add .ident (.ident target.name)
    |>.add .package (.package target.package)
  identity.addTrain .member .memberTrain 0 none (target.members.map .member)

/-- Adds the name of the builder, linked from the name of the target. -/
def addBuilderIdent (plan : Blueprint) : Blueprint :=
  match plan.find? .ident with
  | none => plan
  | some origin =>
    match plan.graph.nodes[origin]? with
    | some (.ident name) =>
      let node := plan.graph.nodes.length
      (plan.add .builderIdent (.builderIdent (.plain (Naming.builderName name.text)))).link
        origin node .identToBuilderIdent
    | _ => plan

/-- The field of the builder that a member gives rise to: only a private field with a type does. -/
def selected? : Element → Option Field
  | .member member =>
    if member.kind = .field ∧ member.visibility = .inherited then
      member.type.map (⟨member.name, ·⟩)
    else none
  | _ => none

/-- The fields found by a walk along the members, each with the node of its member. -/
def selection (plan : Blueprint) : List (Nat × Field) :=
  match plan.find? (.member 0) with
  | none => []
  | some start =>
    plan.graph.traverse .memberTrain start fun node element =>
      (selected? element).map (node, ·)

/-- Links members to the fields of the builder, by the indices of the fields. -/
def linkFields : Nat → List Nat → Blueprint → Blueprint
  | _, [], plan => plan
  | index, member :: rest, plan =>
    let linked := match plan.find? (.builderField index) with
      | some field => plan.link member field .memberToBuilderField
      | none => plan
    linkFields (index + 1) rest linked

/-- Adds the train of the builder's fields, each linked from its member. -/
def addBuilderFields (plan : Blueprint) : Blueprint :=
  let found := plan.selection
  plan.addTrain .builderField .builderFieldTrain 0 none (found.map (.builderField ·.2))
    |> linkFields 0 (found.map (·.1))

/-- The blueprint with everything that belongs to the builder. -/
def withBuilder (plan : Blueprint) : Blueprint :=
  plan.addBuilderIdent.addBuilderFields

/-- The fields of the builder, by a walk along their train. -/
def fields (plan : Blueprint) : List Field :=
  match plan.find? (.builderField 0) with
  | none => []
  | some start =>
    plan.graph.traverse .builderFieldTrain start fun _ element =>
      match element with
      | .builderField field => some field
      | _ => none

/-- The name of the builder. -/
def builderIdent? (plan : Blueprint) : Option Name :=
  (plan.find? .builderIdent).bind fun node =>
    match plan.graph.nodes[node]? with
    | some (.builderIdent name) => some name
    | _ => none

end Blueprint

namespace Target

/-- The complete blueprint of a target. -/
def blueprint (target : Target) : Blueprint :=
  (Blueprint.ofTarget target).withBuilder

/-- The fields of a target that its builder manages, in the order of their declaration. -/
def builderFields (target : Target) : List Field :=
  target.blueprint.fields

/-- The setters that fields rely on and the target does not have. -/
def missingSetters (target : Target) (fields : List Field) : List String :=
  (fields.map fun field => Naming.setterName field.name.text).filter (!target.hasMethod ·)

end Target

/-! ## The text of a blueprint -/

/-- An element of a blueprint as JSON. -/
def Element.json : Element → String
  | ident name => jsonObject [("Ident", Text.jsonString name.spelling)]
  | package name => jsonObject [("Package", Text.jsonString name)]
  | member found => jsonObject [("Member", found.json)]
  | builderIdent name => jsonObject [("BuilderIdent", Text.jsonString name.spelling)]
  | builderField field => jsonObject [("BuilderField", field.json)]

/-- The name of a relation. -/
def Relation.label : Relation → String
  | memberTrain => "MemberTrain"
  | builderFieldTrain => "BuilderFieldTrain"
  | memberToBuilderField => "MemberToBuilderField"
  | identToBuilderIdent => "IdentToBuilderIdent"

namespace Blueprint

/-- Numbered texts between braces. -/
def numbered (texts : List String) : String :=
  "\x7b" ++ ", ".intercalate (texts.mapIdx fun index text => toString index ++ ": " ++ text) ++
    "\x7d"

/-- The graph of a blueprint as text: its sizes, its edges, and what stands at nodes and edges. -/
def describe (plan : Blueprint) : String :=
  let edges := plan.graph.edges
  let pairs := ", ".intercalate (edges.map fun edge => s!"({edge.source}, {edge.target})")
  let labels := numbered (edges.map (·.label.label))
  let parts :=
    ["Ty: \x22Directed\x22", s!"node_count: {plan.graph.nodes.length}",
      s!"edge_count: {edges.length}"] ++
    (if edges.isEmpty then [] else ["edges: " ++ pairs]) ++
    ["node weights: " ++ numbered (plan.graph.nodes.map Element.json)] ++
    (if edges.isEmpty then [] else ["edge weights: " ++ labels])
  "Graph \x7b " ++ ", ".intercalate parts ++ " \x7d"

end Blueprint

end FluentGen
