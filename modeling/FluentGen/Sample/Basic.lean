import FluentGen.Builder.Run

/-!
# Samples

Objects with builders, to see builders at work. The record of the setters that have been called is
a part of every object that is shown.
-/

namespace FluentGen

/-- The form of the values of a field. -/
inductive Shape where
  | text
  | byte
  | bytes
  | integer
  | optionalInteger
deriving DecidableEq

/-- The values of a form. -/
abbrev Shape.Value : Shape → Type
  | text => String
  | byte => UInt8
  | bytes => List UInt8
  | integer => Int64
  | optionalInteger => Option Int64

/-- A value of an object that is shown. -/
inductive Datum where
  | text (value : String)
  | byte (value : UInt8)
  | bytes (value : List UInt8)
  | integer (value : Int64)
  | optionalInteger (value : Option Int64)
  | natural (value : UInt64)
  | texts (values : List String)

/-- An object with its builder. -/
structure Sample where
  Field : Type
  [decideField : DecidableEq Field]
  shape : Field → Shape
  /-- The name of a field. -/
  label : Field → String
  Object : Type
  recipe : Recipe Field (fun field => (shape field).Value) Object
  /-- The setters that are on record before any is called. -/
  before : List String
  /-- The values of an object under the names of its fields. -/
  values : Object → List (String × Datum)

attribute [instance] Sample.decideField

namespace Sample

/-- The field with a name. -/
def field? (sample : Sample) (name : String) : Option sample.Field :=
  sample.recipe.fields.find? (sample.label · = name)

/-- The builder of a sample, with a record of the setters. -/
def recorded (sample : Sample) :
    Recipe sample.Field (fun field => (sample.shape field).Value)
      (sample.Object × List String) :=
  sample.recipe.recording sample.label sample.before

/-- The values of an object, with the record of the setters. -/
def describe (sample : Sample) (object : sample.Object × List String) : List (String × Datum) :=
  sample.values object.1 ++ [("calls", .texts object.2)]

end Sample

end FluentGen
