import FluentGen.Builder.Code
import FluentGen.Proofs.Builder.Selection
import FluentGen.Proofs.Token.Display
import FluentGen.Syntax.Grammar

/-!
# The names in the code of a builder

A target that is called by any identifier, keywords and raw ones included, has a builder unless it
is called by the lone underscore, and all names that are made for the builder are identifiers
(`Builder.legal_names`). The method that makes the target binds three different names: the object
itself, the variable, and the values that are moved.
-/

namespace FluentGen

/-! ## Identifiers as text -/

namespace Name

variable {name : Name}

/-- What a legible name is written as is a token, and this is the name. -/
lemma ofText?_spelling (legible : name.isLegible = true) :
    Token.ofText? name.spelling = some [.ident name] := by
  have shown : Token.Shows [] [.ident name] := Token.Shows.ident rfl legible
  have mark : (Token.chars [.ident name]).head? ≠ some Lexer.byteOrderMark := by
    intro first
    have letter := (isWordy_of_isLegible legible).of_mem_spelling (List.mem_of_mem_head? first)
    exact absurd letter (by decide +kernel)
  have whole := Token.ofText?_text shown mark
  rwa [Token.text, Token.chars, Token.spelling, String.ofList_toList] at whole

/-- Every word that a text is read as is legible. -/
lemma isLegible_of_readWord {text : String} (read : Syntax.readWord text = .ok name) :
    name.isLegible = true := by
  cases found : Token.ofText? text with
  | none =>
    simp [Syntax.readWord, Syntax.readText, found, bind, Except.bind] at read
  | some tokens =>
    cases tokens with
    | nil => simp [Syntax.readWord, Syntax.readText, Syntax.readTokens, found, Reader.readAll,
        Reader.anyWord, Scan.start, bind, Except.bind] at read
    | cons token rest =>
      cases token with
      | ident first =>
        have same : first = name := by
          cases rest <;> simp_all [Syntax.readWord, Syntax.readText, Syntax.readTokens,
            Reader.readAll, Reader.anyWord, Scan.start, bind, Except.bind, pure, Except.pure]
        subst same
        exact Token.isLegible_of_ofText found (.head _)
      | _ => simp [Syntax.readWord, Syntax.readText, Syntax.readTokens, found, Reader.readAll,
          Reader.anyWord, Scan.start, bind, Except.bind] at read

/--
A name is an identifier as it is written: it is read as one, so that it is no keyword and none of
the words that cannot be raw.
-/
structure IsProper (name : Name) : Prop where
  read : Syntax.readText (fun _ => Reader.ident) name.spelling = .ok [.word name]
  keyword : name.raw = false → name.text ∉ Sight.keywords
  raw : name.raw = true → name.text ∉ Lexer.neverRaw

/-- A name with the letters of an identifier is one, unless it is a keyword. -/
lemma isProper_of_isLegible (legible : name.isLegible = true)
    (usable : Sight.isIdent name = true) : name.IsProper := by
  refine ⟨?_, fun plain => ?_, ?_⟩
  · rw [Syntax.readText, ofText?_spelling legible]
    simp [Syntax.readTokens, Reader.readAll, Reader.ident, Scan.start, usable]
  · rw [Sight.isIdent, plain, Bool.false_or] at usable
    exact of_decide_eq_true usable
  · obtain ⟨-, -, -, -, -, proper⟩ := exists_of_isLegible legible
    exact proper

end Name

/-! ## Names that are bound -/

namespace Token

/--
The name that is bound right where the tokens begin: a name behind `mut` of which nothing is taken,
or the one in a pattern for a value that is there.
-/
def bindsHere? : List Token → Option Name
  | .ident before :: .ident name :: next :: _ =>
    if before = .plain "mut" ∧ next ≠ .punct '.' false then some name else none
  | .ident before :: .opening .paren :: .ident name :: .closing .paren :: .punct '=' _ :: _ =>
    if before = .plain "Some" then some name else none
  | _ => none

/-- The names that are bound anywhere in the tokens, in their order. -/
def boundNames : List Token → List Name
  | [] => []
  | token :: rest => (bindsHere? (token :: rest)).toList ++ boundNames rest

end Token

namespace Builder

open Token

/-- Moving the value of a field binds the value. -/
lemma boundNames_moveCode (holder : Name) (field : Field) (rest : List Token) :
    boundNames (moveCode holder field ++ rest) = boundName holder :: boundNames rest := by
  simp [moveCode, optionPath, mutSelf, boundNames, bindsHere?, Token.operator, operatorChars,
    Token.path, group, word, Name.plain, boundName]

/-- Moving the values of fields binds them one after another, under one name. -/
lemma boundNames_moveCodes (holder : Name) (fields : List Field) (rest : List Token) :
    boundNames (fields.flatMap (moveCode holder) ++ rest) =
      fields.map (fun _ => boundName holder) ++ boundNames rest := by
  induction fields with
  | nil => rfl
  | cons field fields ih =>
    rw [List.flatMap_cons, List.append_assoc, boundNames_moveCode, ih]
    rfl

/-- The method that makes the target binds the object itself, the variable and the values. -/
lemma boundNames_buildCode (target holder : Name) (fields : List Field) :
    boundNames (buildCode target holder fields) =
      .plain "self" :: holder :: fields.map fun _ => boundName holder := by
  simp [buildCode, documentation, defaultCall, mutSelf, boundNames_moveCodes, boundNames,
    bindsHere?, Token.operator, operatorChars, Token.path, group, word, Name.plain]

/-- The names that are made for a builder are identifiers, and none of them hides another. -/
structure WellNamed (builder : Builder) : Prop where
  holder : builder.holder.IsProper
  name : builder.name.IsProper
  plain : builder.name.raw = false
  binding : (boundName builder.holder).IsProper
  setters : ∀ field ∈ builder.fields, field.name.isLegible = true → (targetSetter field).IsProper
  bound : boundNames (buildCode builder.target builder.holder builder.fields) =
    .plain "self" :: builder.holder :: builder.fields.map fun _ => boundName builder.holder
  apart : ["self", builder.holder.text, (boundName builder.holder).text].Nodup

/-- The names that the method binds are different, even without a mark of raw identifiers. -/
lemma nodup_boundNames {name : String} {holder : Name} (made : Naming.asIdent name = .ok holder) :
    ["self", holder.text, (boundName holder).text].Nodup := by
  have object : holder.text ≠ "self" := Naming.text_ne_self made
  have value : holder.text ≠ (boundName holder).text := Naming.text_ne_bindingName made
  have other : (boundName holder).text ≠ "self" := by
    rw [boundName, Name.plain, Naming.bindingName]
    split <;> decide
  simpa using ⟨⟨object.symm, other.symm⟩, value⟩

/-- The builder of a target with a legible name is well named. -/
lemma wellNamed_builder {target : Target} {holder : Name}
    (legible : target.name.isLegible = true)
    (made : Naming.asIdent (Naming.variableName target.name.text) = .ok holder) :
    (target.builder holder).WellNamed where
  holder := Name.isProper_of_isLegible
    (Naming.isLegible_of_asIdent (Naming.isLegible_variableName legible) made)
    (Naming.isIdent_of_asIdent made)
  name := Name.isProper_of_isLegible (Naming.isLegible_builderName legible)
    (Naming.isIdent_builderName target.name.text)
  plain := rfl
  binding := Name.isProper_of_isLegible (Naming.isLegible_bindingName holder.spelling)
    (Naming.isIdent_bindingName holder.spelling)
  setters _ _ named := Name.isProper_of_isLegible (Naming.isLegible_setterName named)
    (Naming.isIdent_setterName _)
  bound := boundNames_buildCode _ _ _
  apart := nodup_boundNames made

/--
A target that is called by an identifier of any sort has no builder if and only if it is called by
the lone underscore, whatever its members are. All names that are made for a builder are
identifiers, and the method that makes the target binds the object itself, the variable and the
moved values under three names that differ even without a mark of raw identifiers.
-/
theorem legal_names {target : Target} {text : String}
    (written : Syntax.readWord text = .ok target.name) :
    ((∃ fault, ofTarget target = .error fault) ↔ target.name.text = "_") ∧
    ∀ builder, ofTarget target = .ok builder → builder.WellNamed := by
  constructor
  · rcases ofTarget_cases target with ⟨lone, fault⟩ | ⟨named, holder, made⟩
    · simp [lone, fault]
    · simp [named, made]
  · intro builder made
    obtain ⟨holder, usable, rfl⟩ := exists_holder made
    exact wellNamed_builder (Name.isLegible_of_readWord written) usable

/-- The variable of a raw name is a keyword, and is made raw in its turn. -/
theorem legal_names_keyword :
    Syntax.readWord "r#Type" = .ok ⟨true, "Type"⟩ ∧
    ofTarget ⟨⟨true, "Type"⟩, "", .inherited, [.ofField "value" "u8"]⟩ =
      .ok ⟨"", ⟨true, "Type"⟩, .plain "TypeBuilder", ⟨true, "type"⟩, .inherited,
        [⟨.plain "value", .named "u8"⟩]⟩ ∧
    WellNamed ⟨"", ⟨true, "Type"⟩, .plain "TypeBuilder", ⟨true, "type"⟩, .inherited,
      [⟨.plain "value", .named "u8"⟩]⟩ := by
  have written : Syntax.readWord "r#Type" = .ok ⟨true, "Type"⟩ := by decide +kernel
  have made : ofTarget ⟨⟨true, "Type"⟩, "", .inherited, [.ofField "value" "u8"]⟩ =
      .ok ⟨"", ⟨true, "Type"⟩, .plain "TypeBuilder", ⟨true, "type"⟩, .inherited,
        [⟨.plain "value", .named "u8"⟩]⟩ := by
    rw [ofTarget_eq]
    decide +kernel
  exact ⟨written, made, (legal_names written).2 _ made⟩

end Builder

end FluentGen
