import FluentGen.Config
import FluentGen.Layout.Syntax
import FluentGen.Naming
import FluentGen.Output.IoError

/-!
# Failures

Why a call of the generator has no result. A failure is an answer like any other; what halts the
generator leaves no answer at all.
-/

namespace FluentGen

/-- The reason why a call of the generator has no result. -/
inductive Failure where
  /-- A file cannot be read or written. -/
  | io (path : String) (error : IoError)
  /-- A source text does not follow the grammar. -/
  | syntactic (origin : String) (fault : Fault)
  /-- A text is no configuration. -/
  | config (text : String) (reason : Config.Invalid)
  /-- A target does not declare all the setters that its builder calls. -/
  | missingSetters (target : String) (setters : List String)

/-- The wording of a failure. -/
def Failure.message : Failure → String
  | io path error => s!"I/O error on {path}: {error.message}"
  | syntactic origin fault => s!"failed to parse {origin}: {fault.message}"
  | config text reason => s!"invalid configuration: {reason.report text}"
  | missingSetters target setters =>
    s!"`{target}` is missing conventional setters: " ++ ", ".intercalate setters

/-- What halts the generator. -/
inductive Halt where
  /-- The name of a target cannot be turned into that of a variable. -/
  | unusable (name : Naming.Unusable)
  /-- The code of a builder has no layout. -/
  | unprintable (part : Layout.Unprintable)
deriving DecidableEq

/-- The wording of what halts the generator. -/
def Halt.message : Halt → String
  | unusable name => name.message
  | unprintable part => part.message

end FluentGen
