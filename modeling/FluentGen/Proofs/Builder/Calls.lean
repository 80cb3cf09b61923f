import FluentGen.Builder.Code
import Mathlib.Tactic.Lemma

/-!
# The calls in the code of a builder

Which methods the tokens of a method call. The method that makes the target calls one setter for
each field, in the order of the fields, and no other method (`Builder.methodCalls_buildCode`).
-/

namespace FluentGen

namespace Token

/-- The method that is called right where the tokens begin: a dot, its name and a parenthesis. -/
def callHere? : List Token → Option Name
  | .punct '.' _ :: .ident name :: .opening .paren :: _ => some name
  | _ => none

/-- The methods that are called anywhere in the tokens, in the order of the calls. -/
def methodCalls : List Token → List Name
  | [] => []
  | token :: rest => (callHere? (token :: rest)).toList ++ methodCalls rest

end Token

namespace Builder

open Token

/-- Moving the value of a field calls the setter of the field, whatever follows. -/
lemma methodCalls_moveCode (holder : Name) (field : Field) (rest : List Token) :
    methodCalls (moveCode holder field ++ rest) = targetSetter field :: methodCalls rest := by
  simp [moveCode, optionPath, mutSelf, methodCalls, callHere?, Token.operator, operatorChars,
    Token.path, group, word]

/-- Moving the values of fields calls their setters one after another. -/
lemma methodCalls_moveCodes (holder : Name) (fields : List Field) (rest : List Token) :
    methodCalls (fields.flatMap (moveCode holder) ++ rest) =
      fields.map targetSetter ++ methodCalls rest := by
  induction fields with
  | nil => rfl
  | cons field fields ih =>
    rw [List.flatMap_cons, List.append_assoc, methodCalls_moveCode, ih]
    rfl

/-- The method that makes the target calls the setters of the fields and nothing else. -/
lemma methodCalls_buildCode (target holder : Name) (fields : List Field) :
    methodCalls (buildCode target holder fields) = fields.map targetSetter := by
  simp [buildCode, documentation, defaultCall, mutSelf, methodCalls_moveCodes, methodCalls,
    callHere?, Token.operator, operatorChars, Token.path, group, word]

/-- The methods that are called by the method that makes the target. -/
def calledSetters (builder : Builder) : List Name :=
  methodCalls (buildCode builder.target builder.holder builder.fields)

/-- They are the setters of the fields. -/
lemma calledSetters_eq (builder : Builder) :
    builder.calledSetters = builder.fields.map targetSetter :=
  methodCalls_buildCode ..

end Builder

end FluentGen
