import FluentGen.Builder.Code
import FluentGen.Proofs.Builder.Selection

/-!
# The methods that a builder declares

Which functions the tokens of an `impl` block declare. The block of a builder declares the
constructor, one method for each field, and the method that makes the target. Two of them share a
name just if a field is called like one of the two that every builder has
(`Builder.declares_once_iff`).
-/

namespace FluentGen

namespace Token

/-- The name that the tokens begin with. -/
def nameHere? : List Token → Option Name
  | .ident name :: _ => some name
  | _ => none

/--
The functions that the tokens declare outside of all brackets, of which so many are open at the
beginning: the names behind the word `fn`.
-/
def functions : Nat → List Token → List Name
  | _, [] => []
  | depth, .opening _ :: rest => functions (depth + 1) rest
  | depth, .closing _ :: rest => functions (depth - 1) rest
  | depth, token :: rest =>
    (if depth = 0 ∧ token = word "fn" then nameHere? rest else none).toList ++
      functions depth rest

/-- How many brackets are open behind the tokens, unless they close more than are open. -/
def depthBehind : Nat → List Token → Option Nat
  | depth, [] => some depth
  | depth, .opening _ :: rest => depthBehind (depth + 1) rest
  | 0, .closing _ :: _ => none
  | depth + 1, .closing _ :: rest => depthBehind depth rest
  | depth, _ :: rest => depthBehind depth rest

/-- Whether the tokens close all brackets that they open, and no others. -/
def IsBalanced (tokens : List Token) : Prop :=
  depthBehind 0 tokens = some 0

instance (tokens : List Token) : Decidable (IsBalanced tokens) :=
  inferInstanceAs (Decidable (depthBehind 0 tokens = some 0))

variable {tokens front rest : List Token} {depth behind : Nat}

/-- What is inside of brackets declares nothing outside of them. -/
lemma functions_inside (ends : depthBehind depth tokens = some behind) (outer : Nat)
    (rest : List Token) :
    functions (depth + (outer + 1)) (tokens ++ rest) = functions (behind + (outer + 1)) rest := by
  fun_induction depthBehind depth tokens with
  | case1 depth =>
    cases ends
    rfl
  | case2 depth delimiter tokens ih =>
    rw [List.cons_append, functions, ← ih ends]
    congr 1
    omega
  | case3 => cases ends
  | case4 depth delimiter tokens ih =>
    rw [List.cons_append, functions, ← ih ends]
    congr 1
    omega
  | case5 depth token tokens opens closesAll closes ih =>
    have passed : functions (depth + (outer + 1)) (token :: (tokens ++ rest)) =
        functions (depth + (outer + 1)) (tokens ++ rest) := by
      cases token with
      | opening delimiter => exact absurd rfl (opens delimiter)
      | closing delimiter =>
        cases depth with
        | zero => exact absurd rfl (closesAll delimiter rfl)
        | succ depth => exact absurd rfl (closes depth delimiter rfl)
      | _ => simp [functions]
    rw [List.cons_append, passed, ih ends]

/-- What stands between brackets declares nothing. -/
lemma functions_group (balanced : IsBalanced tokens) (delimiter : Delimiter) :
    functions 0 (group delimiter tokens ++ rest) = functions 0 rest := by
  have inside := functions_inside balanced 0 (.closing delimiter :: rest)
  simpa [group, functions] using inside

/-- Brackets are counted through one part after the other. -/
lemma depthBehind_append : depthBehind depth (front ++ rest) =
    (depthBehind depth front).bind (depthBehind · rest) := by
  fun_induction depthBehind depth front with
  | case1 => rfl
  | case2 depth delimiter tokens ih => exact ih
  | case3 => rfl
  | case4 depth delimiter tokens ih => exact ih
  | case5 depth token tokens opens closesAll closes ih =>
    rw [List.cons_append, ← ih]
    cases token with
    | opening delimiter => exact absurd rfl (opens delimiter)
    | closing delimiter =>
      cases depth with
      | zero => exact absurd rfl (closesAll delimiter rfl)
      | succ depth => exact absurd rfl (closes depth delimiter rfl)
    | _ => simp [depthBehind]

/-- Two parts that close their brackets do so together. -/
lemma IsBalanced.append (first : IsBalanced front) (second : IsBalanced rest) :
    IsBalanced (front ++ rest) := by
  rw [IsBalanced, depthBehind_append, first]
  exact second

end Token

namespace Builder

open Token

variable {rest : List Token} {maker target holder : Name} {field : Field} {fields : List Field}

/-- An attribute declares nothing. -/
lemma functions_attribute {content : List Token} (balanced : IsBalanced content) :
    functions 0 (operator "#" ++ (group .bracket content ++ rest)) = functions 0 rest :=
  functions_group balanced .bracket

/-- Documentation declares nothing. -/
lemma functions_documentation (literal : String) :
    functions 0 (documentation literal ++ rest) = functions 0 rest := by
  rw [documentation, List.append_assoc]
  exact functions_attribute rfl

/-- The constructor declares a function that is called `new`. -/
lemma functions_newCode : functions 0 (newCode ++ rest) = .plain "new" :: functions 0 rest := by
  rfl

/-- A method declares its name, whatever its parameters, its result and its body are. -/
lemma functions_method {parameters result body : List Token} (name : Name)
    (takes : IsBalanced parameters)
    (gives : ∀ more, functions 0 (result ++ .opening .brace :: more) =
      functions 0 (.opening .brace :: more))
    (does : IsBalanced body) (rest : List Token) :
    functions 0 ([word "pub", word "fn", .ident name] ++ group .paren parameters ++ result ++
      group .brace body ++ rest) = name :: functions 0 rest := by
  have heading (more : List Token) : functions 0 ([word "pub", word "fn", .ident name] ++
      .opening .paren :: more) = name :: functions 0 (.opening .paren :: more) := by
    simp [functions, word, nameHere?, Name.plain]
  simp only [List.append_assoc]
  calc functions 0 ([word "pub", word "fn", .ident name] ++
        (group .paren parameters ++ (result ++ (group .brace body ++ rest))))
      = name :: functions 0
          (group .paren parameters ++ (result ++ (group .brace body ++ rest))) := heading _
    _ = name :: functions 0 (result ++ (group .brace body ++ rest)) := by
        rw [functions_group takes]
    _ = name :: functions 0 (group .brace body ++ rest) := congrArg (name :: ·) (gives _)
    _ = name :: functions 0 rest := by rw [functions_group does]

/-- The method of a field declares a function that is called like the field. -/
lemma functions_setterCode (balanced : IsBalanced field.type.tokens) :
    functions 0 (setterCode maker field ++ rest) = field.name :: functions 0 rest := by
  have front : IsBalanced (mutSelf ++ operator "," ++ [.ident field.name] ++ operator ":") := rfl
  have body : IsBalanced ([word "self"] ++ operator "." ++ [.ident field.name] ++
      operator "=" ++ optionPath ++ operator "::" ++ [word "Some"] ++
      group .paren [.ident field.name] ++ operator ";" ++ [word "self"]) :=
    rfl
  have gives (more : List Token) :
      functions 0 (operator "->" ++ operator "&" ++ [word "mut", .ident maker] ++
        .opening .brace :: more) = functions 0 (.opening .brace :: more) := by
    simp [functions, operator, operatorChars, word, nameHere?, Name.plain]
  have method := functions_method field.name (front.append balanced) gives body rest
  rw [setterCode]
  simpa only [List.append_assoc, functions_documentation] using method

/-- The methods of the fields declare functions that are called like the fields. -/
lemma functions_setterCodes (balanced : ∀ field ∈ fields, IsBalanced field.type.tokens) :
    functions 0 ((setterCodes maker fields).flatten ++ rest) =
      fields.map Field.name ++ functions 0 rest := by
  induction fields with
  | nil => rfl
  | cons field fields ih =>
    rw [setterCodes, List.map_cons, List.flatten_cons, List.append_assoc,
      functions_setterCode (balanced field (.head _)),
      ← setterCodes, ih fun other among => balanced other (.tail _ among)]
    rfl

/-- The statements that move values close their brackets. -/
lemma isBalanced_moveCodes (holder : Name) (fields : List Field) :
    IsBalanced (fields.flatMap (moveCode holder)) := by
  induction fields with
  | nil => rfl
  | cons field fields ih =>
    rw [List.flatMap_cons]
    exact IsBalanced.append rfl ih

/-- The last method declares a function that is called `build`. -/
lemma functions_buildCode : functions 0 (buildCode target holder fields) = [.plain "build"] := by
  have front : IsBalanced ([word "let", word "mut", .ident holder] ++ operator ":" ++
      [.ident target] ++ operator "=" ++ defaultCall ++ operator ";") :=
    rfl
  have last : IsBalanced [.ident holder] := rfl
  have receiver : IsBalanced mutSelf := rfl
  have gives (more : List Token) :
      functions 0 (operator "->" ++ [.ident target] ++ .opening .brace :: more) =
        functions 0 (.opening .brace :: more) := by
    simp [functions, operator, operatorChars, word, nameHere?, Name.plain]
  have method := functions_method (.plain "build") receiver gives
    ((front.append (isBalanced_moveCodes holder fields)).append last) []
  have allowed : IsBalanced ([word "allow"] ++
      group .paren ([word "non_snake_case"] ++ operator "," ++ [word "unused_mut"])) :=
    rfl
  rw [buildCode]
  simp only [List.append_assoc, List.append_nil] at method allowed ⊢
  rw [functions_documentation, functions_attribute allowed]
  exact method

/-- All methods of a builder: the constructor, one for each field, and the one that builds. -/
def methodsCode (builder : Builder) : List Token :=
  newCode ++ (setterCodes builder.name builder.fields).flatten ++
    buildCode builder.target builder.holder builder.fields

/-- They are what the braces of its `impl` block enclose. -/
lemma code_eq_methods (builder : Builder) : builder.code =
    builder.structCode ++ [word "impl", .ident builder.name] ++ group .brace builder.methodsCode :=
  rfl

/-- What all methods of a builder declare. -/
lemma functions_methodsCode (builder : Builder)
    (balanced : ∀ field ∈ builder.fields, IsBalanced field.type.tokens) :
    functions 0 builder.methodsCode =
      .plain "new" :: builder.fields.map Field.name ++ [.plain "build"] := by
  rw [methodsCode, List.append_assoc, functions_newCode, functions_setterCodes balanced,
    functions_buildCode]
  rfl

/-- Names between two others are all different just if none of them is one of the two. -/
lemma nodup_between {first last : String} {names : List String} (apart : first ≠ last)
    (distinct : names.Nodup) :
    (first :: names ++ [last]).Nodup ↔ first ∉ names ∧ last ∉ names := by
  rw [List.cons_append, List.nodup_cons, List.nodup_append]
  simp only [List.mem_append, List.mem_singleton, not_or]
  constructor
  · rintro ⟨⟨absent, -⟩, -, -, disjoint⟩
    exact ⟨absent, fun among => disjoint last among last rfl rfl⟩
  · rintro ⟨absent, alone⟩
    refine ⟨⟨absent, apart⟩, distinct, List.pairwise_singleton _ _, ?_⟩
    rintro name among other rfl rfl
    exact alone among

/-- What the `impl` block of the builder of a target declares. -/
lemma exists_declares {target : Target} {builder : Builder} (made : ofTarget target = .ok builder)
    (balanced : ∀ field ∈ target.privateFields, IsBalanced field.type.tokens) :
    ∃ body,
      builder.code = builder.structCode ++ [word "impl", .ident builder.name] ++
        group .brace body ∧
      functions 0 body =
        .plain "new" :: target.privateFields.map Field.name ++ [.plain "build"] := by
  obtain ⟨holder, rfl⟩ := exists_eq_builder made
  exact ⟨_, code_eq_methods _, functions_methodsCode (target.builder holder) balanced⟩

/--
The `impl` block of a builder declares the constructor, then one method for each private field,
which is called like the field, and then the method that builds. If the fields are called
differently, then two methods share a name just if one of the fields is called `new` or `build`.
The types of the fields may be any whose brackets are closed in turn.
-/
theorem declares_once_iff {target : Target} {builder : Builder}
    (made : ofTarget target = .ok builder)
    (balanced : ∀ field ∈ target.privateFields, IsBalanced field.type.tokens)
    (distinct : (target.privateFields.map (·.name.text)).Nodup) :
    ∃ body,
      builder.code = builder.structCode ++ [word "impl", .ident builder.name] ++
        group .brace body ∧
      functions 0 body =
        .plain "new" :: target.privateFields.map Field.name ++ [.plain "build"] ∧
      (((functions 0 body).map Name.text).Nodup ↔
        ∀ field ∈ target.privateFields, field.name.text ≠ "new" ∧ field.name.text ≠ "build") := by
  obtain ⟨body, placed, declared⟩ := exists_declares made balanced
  refine ⟨body, placed, declared, ?_⟩
  have names : (functions 0 body).map Name.text =
      "new" :: target.privateFields.map (·.name.text) ++ ["build"] := by
    rw [declared]
    simp [Name.plain]
  rw [names, nodup_between (by decide) distinct]
  simp only [List.mem_map, not_exists, not_and]
  constructor
  · rintro ⟨noNew, noBuild⟩ field among
    exact ⟨noNew field among, noBuild field among⟩
  · intro free
    exact ⟨fun field among => (free field among).1, fun field among => (free field among).2⟩

/-- A structure with two fields, one of them with a raw name, and their setters. -/
def rawField : Target :=
  .bare "A" [⟨⟨true, "type"⟩, .field, .inherited, some (.named "u8")⟩, .ofField "b" "u8",
    .ofMethod "set_type", .ofMethod "set_b"]

/-- Its builder declares no method twice. -/
theorem declares_once_rawField :
    ∃ builder body, ofTarget rawField = .ok builder ∧
      builder.code = builder.structCode ++ [word "impl", .ident builder.name] ++
        group .brace body ∧
      (functions 0 body).map Name.text = ["new", "type", "b", "build"] ∧
      ((functions 0 body).map Name.text).Nodup := by
  have named : rawField.name.text ≠ "_" := by decide
  obtain ⟨holder, made⟩ := exists_ofTarget named
  obtain ⟨body, placed, declared, once⟩ := declares_once_iff made (by decide) (by decide)
  exact ⟨_, body, made, placed, by rw [declared]; rfl, once.mpr (by decide)⟩

/-- A structure with a field that is called like the constructor of its builder. -/
def newField : Target :=
  .bare "A" [.ofField "new" "u8", .ofMethod "set_new"]

/-- It has all setters, and its builder declares two methods that are called `new`. -/
theorem new_declared_twice :
    ∃ builder body, ofTarget newField = .ok builder ∧
      newField.missingSetters builder.fields = [] ∧
      (newField.privateFields.map (·.name.text)).Nodup ∧
      builder.code = builder.structCode ++ [word "impl", .ident builder.name] ++
        group .brace body ∧
      (functions 0 body).map Name.text = ["new", "new", "build"] ∧
      ¬((functions 0 body).map Name.text).Nodup := by
  have named : newField.name.text ≠ "_" := by decide
  obtain ⟨holder, made⟩ := exists_ofTarget named
  obtain ⟨body, placed, declared⟩ := exists_declares made (by decide)
  have complete : newField.missingSetters newField.privateFields = [] := by decide
  have names : (functions 0 body).map Name.text = ["new", "new", "build"] := by
    rw [declared]
    rfl
  exact ⟨_, body, made, complete, by decide, placed, names, by rw [names]; decide⟩

end Builder

end FluentGen
