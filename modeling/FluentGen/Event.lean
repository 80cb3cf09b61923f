import FluentGen.Builder.Blueprint
import FluentGen.Syntax.Fault

/-!
# Events

What the generator reports about its work while it is at it.
-/

namespace FluentGen

/-- How important an event is. -/
inductive Level where
  | debug
  | info
  | warn
  | error
deriving DecidableEq

/-- The name of a level. -/
def Level.label : Level → String
  | debug => "DEBUG"
  | info => "INFO"
  | warn => "WARN"
  | error => "ERROR"

/-- A step of the generator. -/
inductive Event where
  /-- A marked structure has generic parameters and is passed over. -/
  | skippedGeneric (package : String) (name : Name)
  /-- So many targets have been found in a file. -/
  | discovered (package : String) (count : Nat)
  /-- The fields of a builder have been chosen. -/
  | selectedFields (target : String) (plan : Blueprint) (count : Nat)
  /-- The code of a builder cannot be laid out, since it does not read back. -/
  | unformatted (target : String) (fault : Fault)
  /-- A builder has been written. -/
  | wrote (element path : String)
  /-- A builder could not be written. -/
  | writeFailed (element path reason : String)
  /-- There is no builder for a target. -/
  | notProduced (target reason : String)

namespace Event

/-- How important an event is. -/
def level : Event → Level
  | skippedGeneric .. => .warn
  | discovered .. => .debug
  | selectedFields .. => .debug
  | unformatted .. => .warn
  | wrote .. => .info
  | writeFailed .. => .error
  | notProduced .. => .debug

/-- What an event says. -/
def message : Event → String
  | skippedGeneric .. => "skipping generic struct, generic parameters are not supported"
  | discovered .. => "discovered marked structs"
  | selectedFields .. => "selected builder fields"
  | unformatted .. => "rendering unformatted tokens"
  | wrote .. => "wrote builder"
  | writeFailed .. => "failed to write builder"
  | notProduced .. => "no builder produced"

/-- The details of an event that are texts. -/
def details : Event → List (String × String)
  | skippedGeneric package name => [("package", package), ("name", name.spelling)]
  | discovered package _ => [("package", package)]
  | selectedFields target plan _ => [("name", target), ("graph", plan.describe)]
  | unformatted target fault => [("name", target), ("error", fault.message)]
  | wrote element path => [("element", element), ("path", path)]
  | writeFailed element path reason => [("element", element), ("path", path), ("error", reason)]
  | notProduced target reason => [("name", target), ("error", reason)]

/-- The details of an event that are numbers. -/
def counts : Event → List (String × Nat)
  | discovered _ count => [("count", count)]
  | selectedFields _ _ count => [("fields", count)]
  | _ => []

end Event

namespace Target

/-- The event of making the builder of a target. -/
def selectionEvent (target : Target) : Event :=
  .selectedFields target.qualifiedName target.blueprint target.builderFields.length

end Target

end FluentGen
