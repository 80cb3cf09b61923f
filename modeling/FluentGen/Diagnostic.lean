import FluentGen.Target.Basic

/-!
# Diagnostics

Messages about targets that have no builder.
-/

namespace FluentGen

/-- A message about a target. -/
structure Diagnostic where
  message : String
  /-- The name of the target. -/
  element : String
deriving DecidableEq

namespace Diagnostic

/-- A diagnostic as a line of text. -/
def text (diagnostic : Diagnostic) : String :=
  s!"error: {diagnostic.message} (`{diagnostic.element}`)"

/-- A diagnostic as JSON. -/
def json (diagnostic : Diagnostic) : String :=
  jsonObject [("kind", Text.jsonString "Error"), ("message", Text.jsonString diagnostic.message),
    ("element", Text.jsonString diagnostic.element)]

/-- A diagnostic as a warning of a build script, with the end of its line. -/
def cargoLine (diagnostic : Diagnostic) : String :=
  "cargo:warning=" ++ diagnostic.text ++ "\n"

/-- What a build script prints about diagnostics. -/
def cargoText (diagnostics : List Diagnostic) : String :=
  String.join (diagnostics.map cargoLine)

end Diagnostic

end FluentGen
