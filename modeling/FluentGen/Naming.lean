import FluentGen.Syntax.Reader
import FluentGen.Text.Lowercase

/-!
# Names of generated things

How the names in a builder follow from the names of its target and of its fields.
-/

namespace FluentGen.Naming

/-- The name of the builder of a type. -/
def builderName (target : String) : String :=
  target ++ "Builder"

/-- The name of a variable that holds a value of a type: only its first letter is lowered. -/
def variableName (target : String) : String :=
  match target.toList with
  | [] => ""
  | first :: rest => String.ofList (Text.lowercase first ++ rest)

/-- The name of the method of a target that sets a field. -/
def setterName (field : String) : String :=
  "set_" ++ field

/-- The name that a stored value is bound to, which is not the name of the variable beside it. -/
def bindingName (holder : String) : String :=
  if holder = "value" then "value_" else "value"

/-- A name that neither can be used as it is nor be made raw. -/
structure Unusable where
  name : String
deriving DecidableEq

/-- Why such a name cannot be used. -/
def Unusable.message (fault : Unusable) : String :=
  s!"`r#{fault.name}` cannot be a raw identifier"

/--
A name as an identifier. A keyword is made raw; the ones that refer to a module or an object
cannot be raw and get an underscore instead, and the lone underscore is no name at all.
-/
def asIdent (name : String) : Except Unusable Name :=
  if name ∈ ["crate", "self", "super"] then .ok (.plain (name ++ "_"))
  else if name = "_" ∨ name = "Self" then .error ⟨name⟩
  else if Sight.isIdent (.plain name) then .ok (.plain name)
  else .ok ⟨true, name⟩

end FluentGen.Naming
