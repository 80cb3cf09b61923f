import FluentGen.Syntax.Tree
import FluentGen.Text.Escape

/-!
# Targets

A target is a structure that a builder is made for: its name, the module it is in, and its members
in the order of their declaration.
-/

namespace FluentGen

/-- What a member of a type is. -/
inductive MemberKind where
  /-- A field of the structure. -/
  | field
  /-- A method of an `impl` block that is not for a trait. -/
  | method
  /-- A constant of such a block. -/
  | constant
deriving DecidableEq

/-- The name of a kind of member. -/
def MemberKind.label : MemberKind → String
  | field => "Field"
  | method => "Method"
  | constant => "Constant"

/-- A member of a target; methods have no type. -/
structure Member where
  name : Name
  kind : MemberKind
  visibility : Visibility
  type : Option Tree
deriving DecidableEq

/-- A field that the builder manages. -/
structure Field where
  name : Name
  type : Tree
deriving DecidableEq

/-- A structure that a builder is made for. -/
structure Target where
  name : Name
  /-- The module of the structure, with double colons; empty if it is not known. -/
  package : String
  /-- The visibility of the structure, as it is written. -/
  visibility : Tree
  members : List Member
deriving DecidableEq

/-- A name inside its module. -/
def qualify (package name : String) : String :=
  if package = "" then name else package ++ "::" ++ name

namespace Target

/-- The name of the target inside its module. -/
def qualifiedName (target : Target) : String :=
  qualify target.package target.name.text

/-- Whether the target has a method of this name. -/
def hasMethod (target : Target) (name : String) : Bool :=
  target.members.any fun member => member.kind = .method ∧ member.name.text = name

end Target

/-! ## JSON texts -/

/-- A JSON object of the entries, in their order. -/
def jsonObject (entries : List (String × String)) : String :=
  "\x7b" ++ ",".intercalate (entries.map fun entry => Text.jsonString entry.1 ++ ":" ++ entry.2) ++
    "\x7d"

/-- A JSON array of the elements. -/
def jsonArray (elements : List String) : String :=
  "[" ++ ",".intercalate elements ++ "]"

/-- A type as JSON. -/
def Tree.json (type : Tree) : String :=
  Text.jsonString type.text

/-- A member as JSON. -/
def Member.json (member : Member) : String :=
  jsonObject [("name", Text.jsonString member.name.text),
    ("kind", Text.jsonString member.kind.label),
    ("vis", Text.jsonString member.visibility.label),
    ("ty", (member.type.map Tree.json).getD "null")]

/-- A field as JSON. -/
def Field.json (field : Field) : String :=
  jsonObject [("name", Text.jsonString field.name.text), ("ty", field.type.json)]

end FluentGen
