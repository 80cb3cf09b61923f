import FluentGen.Builder.Basic

/-!
# The code of a builder

The tokens of a builder: a structure with an optional slot for every field, a constructor, one
method per field that fills its slot, and a last method that makes the target and moves every
filled slot into it.
-/

namespace FluentGen.Builder

open Token

/-- A documentation attribute, the text of which is given as a literal. -/
def documentation (literal : String) : List Token :=
  operator "#" ++ group .bracket ([word "doc"] ++ operator "=" ++ [.literal literal])

/-- The tokens of `::core::option::Option`. -/
def optionPath : List Token :=
  path ["core", "option", "Option"]

/-- The tokens of `::core::default::Default::default()`. -/
def defaultCall : List Token :=
  path ["core", "default", "Default", "default"] ++ group .paren []

/-- The tokens of `&mut self`. -/
def mutSelf : List Token :=
  operator "&" ++ [word "mut", word "self"]

/-- The slot of a field. -/
def slot (field : Field) : List Token :=
  [.ident field.name] ++ operator ":" ++ optionPath ++ operator "<" ++ field.type.tokens ++
    operator ">"

/-- The slots of the fields. -/
def slots (fields : List Field) : List (List Token) :=
  fields.map slot

/-- The documentation of a builder. -/
def summary (target : Name) : String :=
  s!"Builder for [`{target.text}`]."

/-- The documentation of the method that fills the slot of a field. -/
def setterSummary (field : Field) : String :=
  s!"Sets `{field.name.text}`."

/-- The documentation of the method that makes the target. -/
def buildSummary (target : Name) : String :=
  s!"Creates a [`{target.text}`] and moves every value set so far into it."

/-- The documentation of the constructor. -/
def newSummary : String :=
  " An empty builder; every field starts unset."

/-- The structure of a builder. -/
def structCode (builder : Builder) : List Token :=
  documentation (Text.stringLiteral (summary builder.target)) ++
    operator "#" ++ group .bracket ([word "derive"] ++ group .paren [word "Default"]) ++
    builder.visibility.tokens ++ [word "struct", .ident builder.name] ++
    group .brace ((operator ",").intercalate (slots builder.fields))

/-- The constructor, which leaves every slot empty. -/
def newCode : List Token :=
  documentation ("r\x22" ++ newSummary ++ "\x22") ++ [word "pub", word "fn", word "new"] ++
    group .paren [] ++ operator "->" ++ [word "Self"] ++ group .brace defaultCall

/-- The method that fills the slot of a field and gives the builder back. -/
def setterCode (builder : Name) (field : Field) : List Token :=
  documentation (Text.stringLiteral (setterSummary field)) ++
    [word "pub", word "fn", .ident field.name] ++
    group .paren (mutSelf ++ operator "," ++ [.ident field.name] ++ operator ":" ++
      field.type.tokens) ++
    operator "->" ++ operator "&" ++ [word "mut", .ident builder] ++
    group .brace ([word "self"] ++ operator "." ++ [.ident field.name] ++ operator "=" ++
      optionPath ++ operator "::" ++ [word "Some"] ++ group .paren [.ident field.name] ++
      operator ";" ++ [word "self"])

/-- The methods that fill the slots of the fields. -/
def setterCodes (builder : Name) (fields : List Field) : List (List Token) :=
  fields.map (setterCode builder)

/-- The setter of the target that takes the value of a field. -/
def targetSetter (field : Field) : Name :=
  .plain (Naming.setterName field.name.text)

/-- The name that the value of a field is bound to while it is moved. -/
def boundName (holder : Name) : Name :=
  .plain (Naming.bindingName holder.spelling)

/-- The statement that moves the value of a field, if there is one, into the target. -/
def moveCode (holder : Name) (field : Field) : List Token :=
  let binding := word (Naming.bindingName holder.spelling)
  [word "if", word "let"] ++ optionPath ++ operator "::" ++ [word "Some"] ++
    group .paren [binding] ++ operator "=" ++ optionPath ++ operator "::" ++ [word "take"] ++
    group .paren (mutSelf ++ operator "." ++ [.ident field.name]) ++
    group .brace ([.ident holder] ++ operator "." ++ [.ident (targetSetter field)] ++
      group .paren [binding] ++ operator ";")

/-- The method that makes the target and moves every value set so far into it. -/
def buildCode (target holder : Name) (fields : List Field) : List Token :=
  documentation (Text.stringLiteral (buildSummary target)) ++
    operator "#" ++ group .bracket ([word "allow"] ++
      group .paren ([word "non_snake_case"] ++ operator "," ++ [word "unused_mut"])) ++
    [word "pub", word "fn", word "build"] ++ group .paren mutSelf ++ operator "->" ++
    [.ident target] ++
    group .brace ([word "let", word "mut", .ident holder] ++ operator ":" ++ [.ident target] ++
      operator "=" ++ defaultCall ++ operator ";" ++ fields.flatMap (moveCode holder) ++
      [.ident holder])

/-- All the code of a builder. -/
def code (builder : Builder) : List Token :=
  builder.structCode ++ [word "impl", .ident builder.name] ++
    group .brace (newCode ++ (setterCodes builder.name builder.fields).flatten ++
      buildCode builder.target builder.holder builder.fields)

end FluentGen.Builder
