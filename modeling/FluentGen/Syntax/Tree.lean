import FluentGen.Token.Basic
import FluentGen.Visibility

/-!
# Syntax trees

A tree keeps every token of what was read, grouped into nodes that say what they are. Operators
lose the spacing they had in the source, so two trees are equal exactly when they have the same
structure; the tokens inside a macro call are kept as written.

`Tree.tokens` writes a tree back. It changes the order of generic arguments: lifetimes come first
there, and each argument takes the comma along that followed it. It also leaves out empty lists of
generic parameters and of bounds.
-/

namespace FluentGen

/-- The kinds of types. -/
inductive TypeKind where
  | array
  | bareFn
  | implTrait
  | infer
  | macroCall
  | never
  | paren
  | path
  | pointer
  | reference
  | slice
  | traitObject
  | tuple
  /-- A type that is only kept as text. -/
  | verbatim
deriving DecidableEq

/-- The name of a kind of type. -/
def TypeKind.label : TypeKind → String
  | array => "Array"
  | bareFn => "BareFn"
  | implTrait => "ImplTrait"
  | infer => "Infer"
  | macroCall => "Macro"
  | never => "Never"
  | paren => "Paren"
  | path => "Path"
  | pointer => "Ptr"
  | reference => "Reference"
  | slice => "Slice"
  | traitObject => "TraitObject"
  | tuple => "Tuple"
  | verbatim => "other"

/-- The kinds of expressions. -/
inductive ExprKind where
  | array
  | assign
  | asyncBlock
  | await
  | binary
  | block
  | breaking
  | call
  | cast
  | closure
  | conditional
  | constBlock
  | continuing
  | field
  | forLoop
  | index
  | infer
  | letting
  | literal
  | loop
  | macroCall
  | matching
  | methodCall
  | paren
  | path
  | range
  | rawAddress
  | reference
  | repetition
  | returning
  | record
  | tryBlock
  | tryOperator
  | tuple
  | unary
  | unsafeBlock
  /-- An expression that is only kept as text. -/
  | verbatim
  | whileLoop
  | yielding
deriving DecidableEq

/-- The kinds of patterns. -/
inductive PatternKind where
  | alternatives
  | binding
  | constBlock
  | literal
  | macroCall
  | paren
  | path
  /-- A range; it may be open at one of its ends. -/
  | range (isOpen : Bool)
  | record
  | reference
  /-- The pattern `..`. -/
  | rest
  | slice
  | tuple
  | tupleRecord
  /-- A pattern that is only kept as text. -/
  | verbatim
  | wildcard
deriving DecidableEq

/-- The places where declarations stand. -/
inductive Region where
  | file
  | foreignBlock
  | traitBody
  | implBody
deriving DecidableEq

/-- The kinds of declarations. -/
inductive ItemKind where
  | constant
  | crate
  | enumeration
  | foreignBlock
  | function
  /-- An `impl` block, for a trait or not. -/
  | implementation (ofTrait : Bool)
  | imports
  | macroCall
  | module
  | static
  | record
  | trait
  | traitAlias
  | typeAlias
  | union
  /-- A declaration that is only kept as text. -/
  | verbatim (region : Region)
deriving DecidableEq

/-- What a node of a syntax tree is. -/
inductive Kind where
  | type (kind : TypeKind)
  | expr (kind : ExprKind)
  | pattern (kind : PatternKind)
  | item (kind : ItemKind)
  /-- A path of segments separated by `::`. -/
  | path
  /-- A name in a path together with its generic arguments. -/
  | segment
  /-- The part in angle brackets that begins a qualified path. -/
  | qualifier
  /-- Generic arguments with their angle brackets. -/
  | angled
  /-- Declared generic parameters with their angle brackets. -/
  | parameters
  /-- The entries between angle brackets, which are written with the lifetimes first. -/
  | entries
  | lifetimeEntry
  /-- An entry that gives an associated type or constant. -/
  | binding
  /-- An entry that bounds an associated type. -/
  | constraint
  | typeParam
  | constParam
  /-- The argument list in parentheses of a trait such as `Fn`, with its result. -/
  | callSignature
  /-- The lifetimes that a type or bound is quantified over. -/
  | binder
  | bound
  /-- A bound that is only kept as text. -/
  | boundText
  /-- The captured parameters of an `impl` type. -/
  | capture
  | argument
  /-- The result type of a function, with its arrow. -/
  | result
  /-- The calling convention of a function. -/
  | convention
  /-- Bounds behind a colon, which are written only if there are any. -/
  | bounds
  /-- Conditions on generic parameters, which are written only if there are any. -/
  | conditions
  | condition
  | attribute
  /-- An attribute that is a mere path. -/
  | marker
  /-- An attribute that has arguments or a value. -/
  | setting
  | visibility (degree : Visibility)
  | field
  | namedFields
  | tupleFields
  | variant
  | parameter
  | receiver
  | fieldPattern
  | macroCall
  /-- An expression with a semicolon. -/
  | statement
  | letStatement
  | macroStatement
  | arm
  | fieldValue
  | label
  | useTree
deriving DecidableEq

/-- Whether nodes of a kind only keep the text that they stand for. -/
def Kind.isText : Kind → Bool
  | type .verbatim => true
  | expr .verbatim => true
  | pattern .verbatim => true
  | item (.verbatim _) => true
  | boundText => true
  | _ => false

/-- Whether nodes of a kind are declarations. -/
def Kind.isItem : Kind → Bool
  | item _ => true
  | _ => false

/-- A tree over the tokens of a piece of source text. -/
inductive Tree where
  | word (name : Name)
  | symbol (text : String)
  | lifetime (name : Name)
  | literal (text : String)
  | verbatim (tokens : List Token)
  | group (delimiter : Delimiter) (parts : List Tree)
  | node (kind : Kind) (parts : List Tree)

namespace Tree

/-- The kind of a node. -/
def kind? : Tree → Option Kind
  | node kind _ => some kind
  | _ => none

/-- The direct parts of a tree. -/
def parts : Tree → List Tree
  | node _ parts => parts
  | group _ parts => parts
  | _ => []

/-- Whether the tree is a node of the given kind. -/
def isA (kind : Kind) (tree : Tree) : Bool :=
  tree.kind? = some kind

/-- The first direct part of the given kind. -/
def child? (kind : Kind) (tree : Tree) : Option Tree :=
  tree.parts.find? (·.isA kind)

/-- The direct parts of the given kind. -/
def children (kind : Kind) (tree : Tree) : List Tree :=
  tree.parts.filter (·.isA kind)

/-- A visibility without any qualifier. -/
def inherited : Tree :=
  node (.visibility .inherited) []

/-- Whether the tree is a comma. -/
def isComma : Tree → Bool
  | symbol text => text == ","
  | _ => false

/-- The direct parts that are not commas. -/
def members (tree : Tree) : List Tree :=
  tree.parts.filter (!·.isComma)

mutual

/-- Whether two trees are the same. -/
def same : Tree → Tree → Bool
  | word a, word b => a == b
  | symbol a, symbol b => a == b
  | lifetime a, lifetime b => a == b
  | literal a, literal b => a == b
  | verbatim a, verbatim b => a == b
  | group d a, group e b => d == e && sameAll a b
  | node k a, node l b => k == l && sameAll a b
  | _, _ => false

/-- Whether two lists of trees are the same. -/
def sameAll : List Tree → List Tree → Bool
  | [], [] => true
  | a :: as, b :: bs => same a b && sameAll as bs
  | _, _ => false

end

mutual

/-- Trees are the same just if they are compared as the same. -/
theorem same_iff (a b : Tree) : same a b = true ↔ a = b := by
  cases a <;> cases b <;> simp [same, sameAll_iff]

/-- So are lists of trees. -/
theorem sameAll_iff (as bs : List Tree) : sameAll as bs = true ↔ as = bs := by
  cases as <;> cases bs <;> simp [sameAll, same_iff, sameAll_iff]

end

instance : DecidableEq Tree := fun a b =>
  decidable_of_iff (same a b = true) (same_iff a b)

/-- An entry between angle brackets as it is written. -/
structure Entry where
  isLifetime : Bool
  tokens : List Token
  comma : Bool

/-- The entries with the lifetimes before all others. -/
def Entry.arrange (entries : List Entry) : List Entry :=
  entries.filter (·.isLifetime) ++ entries.filter (!·.isLifetime)

/-- The tokens of the entries, with a comma wherever two of them would touch. -/
def Entry.tokensOf : List Entry → List Token
  | [] => []
  | [entry] => entry.tokens ++ if entry.comma then Token.operator "," else []
  | entry :: rest => entry.tokens ++ Token.operator "," ++ tokensOf rest

mutual

/-- The tokens of a tree. -/
def tokens : Tree → List Token
  | word name => [.ident name]
  | symbol text => Token.operator text
  | lifetime name => Token.lifetime name
  | literal text =>
    match text.toList with
    | '-' :: rest => [.punct '-' false, .literal (String.ofList rest)]
    | _ => [.literal text]
  | verbatim tokens => tokens
  | group delimiter parts => Token.group delimiter (tokensAll parts)
  | node kind parts =>
    match kind, parts with
    | .entries, parts => Entry.tokensOf (Entry.arrange (entriesOf parts))
    | .parameters, [_, node .entries [], _] => []
    | .bounds, [_] => []
    | .conditions, [_] => []
    | _, parts => tokensAll parts

/-- The tokens of trees that follow one another. -/
def tokensAll : List Tree → List Token
  | [] => []
  | tree :: rest => tree.tokens ++ tokensAll rest

/-- The entries of a list, each with the comma that follows it. -/
def entriesOf : List Tree → List Entry
  | [] => []
  | tree :: rest =>
    if tree.isComma then entriesOf rest else
    let comma := match rest with
      | next :: _ => next.isComma
      | [] => false
    ⟨tree.isA .lifetimeEntry, tree.tokens, comma⟩ :: entriesOf rest

end

/-- The text of a tree. -/
def text (tree : Tree) : String :=
  Token.text tree.tokens

end Tree

end FluentGen
