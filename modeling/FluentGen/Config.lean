import FluentGen.Text.Escape
import FluentGen.Toml.Document
import FluentGen.Toml.Report

/-!
# Configuration

How builders are written, and how that is read from a document. Every key may be missing, and other
keys do not matter.
-/

namespace FluentGen

/-- What to do about a target whose setters may be missing. -/
inductive SetterPolicy where
  /-- Write its builder anyway. -/
  | trust
  /-- Write its builder only if it declares every setter. -/
  | validate
deriving DecidableEq

namespace SetterPolicy

/-- The name of a policy. -/
def label : SetterPolicy → String
  | trust => "trust"
  | validate => "validate"

/-- The policy with a name. -/
def ofLabel? (name : String) : Option SetterPolicy :=
  [trust, validate].find? (·.label = name)

end SetterPolicy

/-- How builders are written. -/
structure Config where
  setterPolicy : SetterPolicy := .trust
  /-- Whether a builder gets a comment in front that says where it comes from. -/
  header : Bool := true
deriving DecidableEq

namespace Config

open Toml

/-- Why a value cannot be a part of a configuration. -/
inductive Mismatch where
  | notBoolean (found : String)
  | unknownPolicy (name : String)
  | notPolicy
  | noPolicy
  | manyPolicies
  /-- A policy does not carry a value. -/
  | notEmpty (kind : String)
  | notUnit (found : String)
deriving DecidableEq

/-- The wording of a mismatch. -/
def Mismatch.message : Mismatch → String
  | notBoolean found => s!"invalid type: {found}, expected a boolean"
  | unknownPolicy name => s!"unknown variant `{name}`, expected `trust` or `validate`"
  | notPolicy => "wanted string or table"
  | noPolicy => "wanted exactly 1 element, found 0 elements"
  | manyPolicies => "wanted exactly 1 element, more than 1 element"
  | notEmpty kind => s!"expected empty {kind}"
  | notUnit found => s!"expected table, found {found}"

/-- A mismatch and where it is, if it is not the whole value. -/
abbrev Misplaced :=
  Option Span × Mismatch

/-- How a message shows a value of the wrong type. -/
def shownType : Node → String
  | .scalar (.string text) _ => "string " ++ FluentGen.Text.quoted text
  | .scalar (.integer value) _ => s!"integer `{value}`"
  | .scalar (.float value) _ => s!"floating point `{value.text}`"
  | .scalar (.boolean value) _ => s!"boolean `{value}`"
  | .scalar (.dateTime _) _ => "map"
  | .table _ => "map"
  | .array .. => "sequence"
  | .tables _ => "sequence"

/-- A truth value. -/
def readBoolean (node : Node) : Except Misplaced Bool :=
  match node with
  | .scalar (.boolean value) _ => .ok value
  | _ => .error (node.span?, .notBoolean (shownType node))

/-- The policy with a name. -/
def readName (span : Span) (name : String) : Except Misplaced SetterPolicy :=
  match SetterPolicy.ofLabel? name with
  | some policy => .ok policy
  | none => .error (some span, .unknownPolicy name)

/-- Nothing, which is written as something empty. -/
def readUnit (node : Node) : Except Misplaced Unit :=
  match node with
  | .array elements span =>
    if elements.isEmpty then .ok () else .error (some span, .notEmpty "table")
  | .table content =>
    if content.entries.isEmpty then .ok () else .error (content.span, .notEmpty "table")
  | .tables elements =>
    if elements.isEmpty then .ok () else .error (Table.spanOf elements, .notEmpty "array")
  | .scalar value span => .error (some span, .notUnit value.kind)

/-- A policy, which is its name or a table with nothing under its name. -/
def readPolicy (node : Node) : Except Misplaced SetterPolicy :=
  match node with
  | .scalar (.string name) span => readName span name
  | .table content =>
    match content.entries with
    | [] => .error (content.span, .noPolicy)
    | [(key, node)] => do
      let policy ← readName key.span key.text
      readUnit node
      pure policy
    | _ => .error (content.span, .manyPolicies)
  | _ => .error (node.span?, .notPolicy)

/-- A mismatch with its place, which is the one of the value or else the one of its key. -/
def locate {α : Type} (key : Key) (node : Node) (result : Except Misplaced α) :
    Except (Span × Mismatch) α :=
  result.mapError fun (span, mismatch) => ((span.or node.span?).getD key.span, mismatch)

/-- Changes a configuration by a value under a key. -/
def apply (config : Config) (key : Key) (node : Node) : Except (Span × Mismatch) Config :=
  if key.text = "setter_policy" then do
    pure { config with setterPolicy := ← locate key node (readPolicy node) }
  else if key.text = "header" then do
    pure { config with header := ← locate key node (readBoolean node) }
  else pure config

/-- The configuration that a table describes. The first mismatch counts. -/
def ofTable (table : Table Node) : Except (Span × Mismatch) Config :=
  table.entries.foldlM (fun config (key, node) => config.apply key node) {}

/-- Why a text is not a configuration. -/
inductive Invalid where
  | unreadable (fault : Toml.Fault)
  | unfit (span : Span) (mismatch : Mismatch)
deriving DecidableEq

/-- The report about a text that is not a configuration. -/
def Invalid.report (text : String) : Invalid → String
  | unreadable fault => Toml.report text (fault.span text) fault.message
  | unfit span mismatch => Toml.report text span mismatch.message

/-- The configuration that a text describes. -/
def ofText (text : String) : Except Invalid Config :=
  match Document.ofText text with
  | .error fault => .error (.unreadable fault)
  | .ok table => (ofTable table).mapError fun (span, mismatch) => .unfit span mismatch

end Config

end FluentGen
