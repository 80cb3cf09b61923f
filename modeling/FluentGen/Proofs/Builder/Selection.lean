import FluentGen.Proofs.Blueprint.Fields
import FluentGen.Proofs.Naming

/-!
# The builder of a target

The builder of a target as a plain record (`Builder.ofTarget_eq`). The detour over the blueprint is
nothing but a filter on the members (`Builder.selects_privateFields`).
-/

namespace FluentGen

namespace Blueprint

/-- The name of the builder is found again behind the members. -/
lemma builderIdent?_blueprint (target : Target) :
    target.blueprint.builderIdent? = some (.plain (Naming.builderName target.name.text)) := by
  have apart : ∀ index, Place.member index ≠ .builderIdent := by simp
  -- it lies between the two trains, and no key of a member is the one of its place
  have place : target.blueprint.find? .builderIdent = some (target.members.length + 2) := by
    rw [blueprint_eq, find?, places_fieldTrain]
    simp only [List.lookup_append, lookup_stops_eq_none _ _ apart]
    simp [List.lookup_cons]
  have node : target.blueprint.graph.nodes[target.members.length + 2]? =
      some (.builderIdent (.plain (Naming.builderName target.name.text))) := by
    rw [blueprint_eq, nodes_fieldTrain, List.getElem?_append_left (by simp), frontNodes]
    simp
  simp only [builderIdent?, place, Option.bind_some, node]

end Blueprint

/-- A type that is a single name. -/
def Tree.named (name : String) : Tree :=
  .node (.type .path) [.node .path [.node .segment [.word (.plain name)]]]

/-- A private field with a type that is a single name. -/
def Member.ofField (name type : String) : Member :=
  ⟨.plain name, .field, .inherited, some (.named type)⟩

/-- A public method. -/
def Member.ofMethod (name : String) : Member :=
  ⟨.plain name, .method, .exported, none⟩

namespace Target

/-- A structure outside of every module. -/
def bare (name : String) (members : List Member) : Target :=
  ⟨.plain name, "", .inherited, members⟩

/-- The builder of a target whose variable has the given name. -/
def builder (target : Target) (holder : Name) : Builder :=
  ⟨target.package, target.name, .plain (Naming.builderName target.name.text), holder,
    target.visibility, target.privateFields⟩

/-- Where the builder of a target is written. -/
def builderPath (target : Target) : String :=
  Path.join (Path.ofPackage target.package) (Naming.builderName target.name.text ++ ".rs")

/-- The builder and the target agree on where the builder is written. -/
lemma relativePath_builder (target : Target) (holder : Name) :
    (target.builder holder).relativePath = target.builderPath :=
  rfl

/-- The builder and the target agree on what the target is called. -/
lemma qualifiedTarget_builder (target : Target) (holder : Name) :
    (target.builder holder).qualifiedTarget = target.qualifiedName :=
  rfl

end Target

namespace Builder

/-- The builder of a target is known but for the name of its variable. -/
lemma ofTarget_eq (target : Target) :
    ofTarget target =
      (Naming.asIdent (Naming.variableName target.name.text)).map target.builder := by
  rw [ofTarget, Blueprint.builderIdent?_blueprint, target.builderFields_eq]
  cases Naming.asIdent (Naming.variableName target.name.text) <;> rfl

/-- Every target but the lone underscore has a builder. -/
lemma ofTarget_cases (target : Target) :
    (target.name.text = "_" ∧ ofTarget target = .error ⟨"_"⟩) ∨
      (target.name.text ≠ "_" ∧ ∃ holder, ofTarget target = .ok (target.builder holder)) := by
  rw [ofTarget_eq]
  rcases Naming.asIdent_variableName target.name.text with ⟨lone, fault⟩ | ⟨named, holder, usable⟩
  · exact .inl ⟨lone, by rw [fault]; rfl⟩
  · exact .inr ⟨named, holder, by rw [usable]; rfl⟩

/-- The lone underscore has none. -/
lemma ofTarget_lone {target : Target} (lone : target.name.text = "_") :
    ofTarget target = .error ⟨"_"⟩ := by
  rcases ofTarget_cases target with ⟨-, fault⟩ | ⟨named, -⟩
  · exact fault
  · exact absurd lone named

/-- A target with any other name has a builder. -/
lemma exists_ofTarget {target : Target} (named : target.name.text ≠ "_") :
    ∃ holder, ofTarget target = .ok (target.builder holder) := by
  rcases ofTarget_cases target with ⟨lone, -⟩ | ⟨-, made⟩
  · exact absurd lone named
  · exact made

/-- Whatever builder a target has is known but for the name of its variable. -/
lemma exists_eq_builder {target : Target} {builder : Builder}
    (made : ofTarget target = .ok builder) : ∃ holder, builder = target.builder holder := by
  rcases ofTarget_cases target with ⟨-, fault⟩ | ⟨-, holder, usable⟩
  · cases fault.symm.trans made
  · exact ⟨holder, Except.ok.inj (made.symm.trans usable)⟩

/-- The name of this variable is an identifier. -/
lemma exists_holder {target : Target} {builder : Builder} (made : ofTarget target = .ok builder) :
    ∃ holder, Naming.asIdent (Naming.variableName target.name.text) = .ok holder ∧
      builder = target.builder holder := by
  rw [ofTarget_eq] at made
  cases usable : Naming.asIdent (Naming.variableName target.name.text) with
  | error fault =>
    rw [usable] at made
    cases made
  | ok holder =>
    rw [usable] at made
    exact ⟨holder, rfl, (Except.ok.inj made).symm⟩

/--
The fields of a builder are the private fields of its target whose type is known, in the order of
their declaration, whichever way they are asked for. Only a target that is called by the lone
underscore has no builder to ask.
-/
theorem selects_privateFields (target : Target) :
    target.builderFields = target.privateFields ∧
    (ofTarget target).map Builder.fields =
      if target.name.text = "_" then .error ⟨"_"⟩ else .ok target.privateFields := by
  refine ⟨target.builderFields_eq, ?_⟩
  rcases ofTarget_cases target with ⟨lone, fault⟩ | ⟨named, holder, usable⟩
  · rw [fault, if_pos lone]
    rfl
  · rw [usable, if_neg named]
    rfl

/-- The lone underscore has a private field and no builder. -/
theorem no_selection_underscore :
    ¬∃ builder, ofTarget (.bare "_" [.ofField "a" "u8"]) = .ok builder ∧
      builder.fields = [⟨.plain "a", .named "u8"⟩] := by
  rintro ⟨builder, made, -⟩
  cases (ofTarget_lone rfl).symm.trans made

end Builder

end FluentGen
