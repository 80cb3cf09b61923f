import FluentGen.Builder.Blueprint
import FluentGen.Path

/-!
# Builders

A builder knows its target, the fields it manages and the names it uses. The manifest is its
description as JSON.
-/

namespace FluentGen

/-- Everything that is needed to write a builder. -/
structure Builder where
  /-- The module of the target. -/
  package : String
  target : Name
  name : Name
  /-- The variable that holds the new object while it is built. -/
  holder : Name
  /-- The visibility of the builder, which is the one of its target. -/
  visibility : Tree
  fields : List Field
deriving DecidableEq

namespace Builder

/-- The builder of a target. There is none if its variable would have no usable name. -/
def ofTarget (target : Target) : Except Naming.Unusable Builder := do
  let name := target.blueprint.builderIdent?.getD (.plain (Naming.builderName target.name.text))
  let holder ← Naming.asIdent (Naming.variableName target.name.text)
  pure ⟨target.package, target.name, name, holder, target.visibility, target.builderFields⟩

/-- The name of the target inside its module. -/
def qualifiedTarget (builder : Builder) : String :=
  qualify builder.package builder.target.text

/-- Where the builder is written, below the directory of all output. -/
def relativePath (builder : Builder) : String :=
  Path.join (Path.ofPackage builder.package) (builder.name.text ++ ".rs")

/-- The setter of a field as JSON: it is named after the field and returns the builder. -/
def setterJson (builder : Builder) (field : Field) : String :=
  jsonObject [("name", Text.jsonString field.name.text), ("field", Text.jsonString field.name.text),
    ("returns", Text.jsonString builder.name.text)]

/-- The builder as JSON. -/
def manifest (builder : Builder) : String :=
  jsonObject [("package", Text.jsonString builder.package),
    ("class_name", Text.jsonString builder.name.text),
    ("target", Text.jsonString builder.target.text),
    ("fields", jsonArray (builder.fields.map Field.json)),
    ("setters", jsonArray (builder.fields.map builder.setterJson))]

end Builder

end FluentGen
