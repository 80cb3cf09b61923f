import FluentGen.Builder.Code
import FluentGen.Builder.Run

/-!
# The methods of a builder as programs

The methods of a builder are written in a small part of the language: they fill slots, make a new
object and move the values of slots into it. Here are the forms of this part with their tokens, and
what they do with the slots of a builder and with the objects it makes. A method that refers to
something that is not there does nothing, which is not to be mistaken for a method that changes
nothing.
-/

namespace FluentGen.Builder

open Token

/-! ## Forms -/

/-- A statement in the body of a method. -/
inductive Statement where
  /-- A slot of the builder gets the value of a name. -/
  | fill (slot value : Name)
  /-- A variable gets the default of its type. -/
  | create (holder type : Name)
  /-- The value of a slot, if there is one, is taken, bound, and given to a method of a variable. -/
  | move (binding slot holder method : Name)
deriving DecidableEq

/-- What a body comes to in the end. -/
inductive Ending where
  /-- The default of the result. -/
  | default
  /-- What a name stands for. -/
  | named (name : Name)
deriving DecidableEq

/-- The body of a method. -/
structure Body where
  statements : List Statement
  ending : Ending
deriving DecidableEq

/-- What a method takes. -/
inductive Parameters where
  /-- Nothing, not even a builder. -/
  | nothing
  /-- A builder that the method may change. -/
  | builder
  /-- Such a builder and a value of a type. -/
  | value (name : Name) (type : List Token)

/-- A method with the attributes in front of it. -/
structure Method where
  attributes : List Token
  name : Name
  parameters : Parameters
  result : List Token
  body : Body

/-! ## Tokens -/

/-- The tokens of a statement. -/
def Statement.code : Statement → List Token
  | fill slot value =>
    [word "self"] ++ operator "." ++ [.ident slot] ++ operator "=" ++ optionPath ++
      operator "::" ++ [word "Some"] ++ group .paren [.ident value] ++ operator ";"
  | create holder type =>
    [word "let", word "mut", .ident holder] ++ operator ":" ++ [.ident type] ++ operator "=" ++
      defaultCall ++ operator ";"
  | move binding slot holder method =>
    [word "if", word "let"] ++ optionPath ++ operator "::" ++ [word "Some"] ++
      group .paren [.ident binding] ++ operator "=" ++ optionPath ++ operator "::" ++
      [word "take"] ++ group .paren (mutSelf ++ operator "." ++ [.ident slot]) ++
      group .brace ([.ident holder] ++ operator "." ++ [.ident method] ++
        group .paren [.ident binding] ++ operator ";")

/-- The tokens that a body ends with. -/
def Ending.code : Ending → List Token
  | default => defaultCall
  | named name => [.ident name]

/-- The tokens of a body. -/
def Body.code (body : Body) : List Token :=
  body.statements.flatMap Statement.code ++ body.ending.code

/-- The tokens of what a method takes. -/
def Parameters.code : Parameters → List Token
  | nothing => []
  | builder => mutSelf
  | value name type => mutSelf ++ operator "," ++ [.ident name] ++ operator ":" ++ type

/-- The tokens of a method. -/
def Method.code (method : Method) : List Token :=
  method.attributes ++ [word "pub", word "fn", .ident method.name] ++
    group .paren method.parameters.code ++ operator "->" ++ method.result ++
    group .brace method.body.code

/-! ## Meaning -/

/-- What code refers to: the slots of a builder and the type of the objects that it makes. -/
structure Scene (φ Value β : Type) where
  /-- The slot with a name. -/
  slot? : String → Option φ
  /-- The name of the type of the objects. -/
  target : String
  /-- The default of this type. -/
  default : β
  /-- The methods of this type that take a value. -/
  call : String → Value → β → β

/-- What a name stands for in a method. -/
inductive Meaning (Value β : Type) where
  | builder
  | value (value : Value)
  | object (object : β)

/-- The slots of a builder and the names that are known while one of its methods runs. -/
structure State (φ Value β : Type) where
  slots : Slots fun _ : φ => Value
  names : Slots fun _ : String => Meaning Value β

variable {φ Value β : Type} [DecidableEq φ]

/-- What a statement does. -/
def Statement.run (scene : Scene φ Value β) (state : State φ Value β) :
    Statement → Option (State φ Value β)
  | fill slot value =>
    match state.names "self", scene.slot? slot.text, state.names value.text with
    | some .builder, some field, some (.value value) =>
      some { state with slots := state.slots.fill field value }
    | _, _, _ => none
  | create holder type =>
    if type.text = scene.target then
      some { state with names := state.names.fill holder.text (.object scene.default) }
    else none
  | move binding slot holder method =>
    match state.names "self", scene.slot? slot.text with
    | some .builder, some field =>
      match state.slots field with
      | none => some state
      | some value =>
        -- the bound name is known only here, where it may hide the object
        match (state.names.fill binding.text (.value value)) holder.text with
        | some (.object object) =>
          some ⟨state.slots.clear field,
            state.names.fill holder.text (.object (scene.call method.text value object))⟩
        | _ => none
    | _, _ => none

/-- The names that are known at the beginning of a method. -/
def Parameters.names : Parameters → Option Value → Option (Slots fun _ : String => Meaning Value β)
  | nothing, none => some .empty
  | builder, none => some (Slots.empty.fill "self" .builder)
  | value name _, some argument =>
    some ((Slots.empty.fill "self" .builder).fill name.text (.value argument))
  | _, _ => none

/--
What a method makes, if that is an object, and the slots behind it. The default of the builder
itself has nothing in its slots.
-/
def Method.run (scene : Scene φ Value β) (method : Method) (argument : Option Value)
    (slots : Slots fun _ : φ => Value) : Option (Option β × Slots fun _ : φ => Value) := do
  let names ← method.parameters.names argument
  let state ← method.body.statements.foldlM (Statement.run scene) ⟨slots, names⟩
  match method.body.ending with
  | .default => if method.result = [word "Self"] then some (none, .empty) else none
  | .named name =>
    match state.names name.text with
    | some .builder => some (none, state.slots)
    | some (.object object) => some (some object, state.slots)
    | _ => none

/-! ## The methods of a builder -/

/-- The constructor. -/
def newMethod : Method where
  attributes := documentation ("r\x22" ++ newSummary ++ "\x22")
  name := .plain "new"
  parameters := .nothing
  result := [word "Self"]
  body := ⟨[], .default⟩

/-- The method that fills the slot of a field. -/
def setterMethod (builder : Name) (field : Field) : Method where
  attributes := documentation (Text.stringLiteral (setterSummary field))
  name := field.name
  parameters := .value field.name field.type.tokens
  result := operator "&" ++ [word "mut", .ident builder]
  body := ⟨[.fill field.name field.name], .named (.plain "self")⟩

/-- The statement that moves the value of a field. -/
def moveStatement (holder : Name) (field : Field) : Statement :=
  .move (boundName holder) field.name holder (targetSetter field)

/-- The method that makes the target. -/
def buildMethod (target holder : Name) (fields : List Field) : Method where
  attributes := documentation (Text.stringLiteral (buildSummary target)) ++
    operator "#" ++ group .bracket ([word "allow"] ++
      group .paren ([word "non_snake_case"] ++ operator "," ++ [word "unused_mut"]))
  name := .plain "build"
  parameters := .builder
  result := [.ident target]
  body := ⟨.create holder target :: fields.map (moveStatement holder), .named holder⟩

/-- All methods of a builder. -/
def methods (builder : Builder) : List Method :=
  newMethod :: builder.fields.map (setterMethod builder.name) ++
    [buildMethod builder.target builder.holder builder.fields]

/-- What the methods of a builder refer to, if its target has a default and methods of its own. -/
def scene (builder : Builder) (default : β) (call : String → Value → β → β) :
    Scene (Fin builder.fields.length) Value β where
  slot? text := builder.fields.findFinIdx? (·.name.text = text)
  target := builder.target.text
  default
  call

/-- The method that a call is for, and the value that it is given. -/
def method (builder : Builder) :
    Call (fun _ : Fin builder.fields.length => Value) → Method × Option Value
  | .set index value => (setterMethod builder.name (builder.fields.get index), some value)
  | .build => (buildMethod builder.target builder.holder builder.fields, none)
  | .renew => (newMethod, none)

/-- The objects that calls make one after another when the code of a builder runs. -/
def runCode (builder : Builder) (default : β) (call : String → Value → β → β) :
    List (Call fun _ : Fin builder.fields.length => Value) →
    (Slots fun _ : Fin builder.fields.length => Value) →
    Option (List β × Slots fun _ : Fin builder.fields.length => Value)
  | [], slots => some ([], slots)
  | one :: calls, slots => do
    let (method, argument) := builder.method one
    let (object?, slots) ← method.run (builder.scene default call) argument slots
    let (objects, slots) ← builder.runCode default call calls slots
    some (object?.toList ++ objects, slots)

end FluentGen.Builder
