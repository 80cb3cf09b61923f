import FluentGen.Syntax.Grammar
import FluentGen.Target.Basic

/-!
# Finding targets

A target comes either from a single declaration or from the structures of a file that are marked
for it. In a file, the members of the `impl` blocks that belong to a structure are found as well.
-/

namespace FluentGen

namespace Tree

/-- The name right after a word of a declaration. -/
def nameAfter (introduction : String) : List Tree → Option Name
  | .word first :: .word second :: rest =>
    if first = .plain introduction then some second
    else nameAfter introduction (.word second :: rest)
  | _ :: rest => nameAfter introduction rest
  | [] => none

/-- The name that a word of a declaration introduces. -/
def declaredName? (introduction : String) (item : Tree) : Option Name :=
  nameAfter introduction item.parts

/-- The visibility of a declaration as it is written. -/
def qualifier (item : Tree) : Tree :=
  (item.parts.find? fun part => part.kind?.any fun kind =>
    match kind with
    | .visibility _ => true
    | _ => false).getD inherited

/-- The visibility of a declaration. -/
def degree (item : Tree) : Visibility :=
  match item.qualifier.kind? with
  | some (.visibility degree) => degree
  | _ => .inherited

/-- The first part that is a type. -/
def type? (item : Tree) : Option Tree :=
  item.parts.find? fun part => part.kind?.any fun kind =>
    match kind with
    | .type _ => true
    | _ => false

/-- Whether a declaration has generic parameters; empty angle brackets are none. -/
def isGeneric (item : Tree) : Bool :=
  (item.child? .parameters).any fun parameters =>
    (parameters.child? .entries).any (!·.parts.isEmpty)

/-- The last segment of a path. -/
def lastSegment? (path : Tree) : Option Tree :=
  (path.children .segment).getLast?

/-- The name of a path segment. -/
def segmentName? (segment : Tree) : Option Name :=
  match segment.parts.head? with
  | some (.word name) => some name
  | _ => none

end Tree

/-- The attribute that marks a structure. -/
def markName : Name :=
  .plain "builder"

/-- Whether an attribute of a structure is the mark, under any path and without arguments. -/
def isMark (candidate : Tree) : Bool :=
  candidate.parts.any fun brackets =>
    (brackets.child? .marker).any fun marker =>
      (marker.child? .path).any fun path =>
        (path.lastSegment?.bind Tree.segmentName?) = some markName

/-- Whether one of the attributes is the mark. -/
def isMarked (attributes : List Tree) : Bool :=
  attributes.any isMark

namespace Member

/-- A field of a structure as a member. -/
def ofField? (field : Tree) : Option Member := do
  let name ← field.parts.findSome? fun part =>
    match part with
    | .word name => some name
    | _ => none
  pure ⟨name, .field, field.degree, field.type?⟩

/-- The fields of a structure as members; fields without names are none. -/
def ofStruct (item : Tree) : List Member :=
  match item.child? .namedFields with
  | some fields => fields.parts.flatMap fun braces => (braces.children .field).filterMap ofField?
  | none => []

/-- A part of an `impl` block as a member. -/
def ofImplPart? (part : Tree) : Option Member :=
  match part.kind? with
  | some (.item .function) =>
    (part.declaredName? "fn").map fun name => ⟨name, .method, part.degree, none⟩
  | some (.item .constant) =>
    (part.declaredName? "const").map fun name => ⟨name, .constant, part.degree, part.type?⟩
  | _ => none

/-- The members that an `impl` block declares. -/
def ofImpl (item : Tree) : List Member :=
  item.parts.flatMap fun part =>
    match part with
    | .group .brace parts => parts.filterMap ofImplPart?
    | _ => []

end Member

namespace Target

/-- The target that a structure is, whatever its generic parameters are. -/
def ofStruct? (package : String) (item : Tree) : Option Target :=
  (item.declaredName? "struct").map fun name =>
    ⟨name, package, item.qualifier, Member.ofStruct item⟩

/-- Why a declaration cannot have a builder. -/
inductive Rejection where
  | notStruct
  | generic
deriving DecidableEq

/-- The wording of a rejection. -/
def Rejection.message : Rejection → String
  | notStruct => "Builder can only be derived for structs"
  | generic => "Builder does not support generic parameters"

/-- The target that a single declaration is. -/
def ofDeclaration (package : String) (item : Tree) : Except Rejection Target :=
  match ofStruct? package item with
  | some target =>
    if !item.isA (.item .record) then .error .notStruct
    else if item.isGeneric then .error .generic
    else .ok target
  | none => .error .notStruct

/-- Whether an `impl` block belongs to a target: the last name of its type is the target's. -/
def ownsImpl (target : Target) (item : Tree) : Bool :=
  item.isA (.item (.implementation false)) && !item.isGeneric &&
    match item.type? with
    | some (.node (.type .path) [path]) =>
      !Rules.isQualified path && path.lastSegment?.any fun segment =>
        segment.segmentName? = some target.name &&
          (segment.child? .angled).all fun arguments =>
            (arguments.child? .entries).all (·.parts.isEmpty)
    | _ => false

/-- Adds members behind the ones there are. -/
def withMembers (members : List Member) (target : Target) : Target :=
  { target with members := target.members ++ members }

/-- Gives the members of an `impl` block to the first target that it belongs to. -/
def assign (item : Tree) : List Target → List Target
  | [] => []
  | target :: rest =>
    if target.ownsImpl item then target.withMembers (Member.ofImpl item) :: rest
    else target :: assign item rest

/-- Whether an item is a structure that is marked. -/
def isMarkedStruct (item : Tree) : Bool :=
  item.isA (.item .record) && isMarked (item.children .attribute)

/-- The targets among the items of a file. -/
def discover (package : String) (items : List Tree) : List Target :=
  let targets := (items.filter fun item => isMarkedStruct item && !item.isGeneric).filterMap
    (ofStruct? package)
  items.foldl (fun targets item => assign item targets) targets

/-- The marked structures of a file that have generic parameters, for which there is no target. -/
def skipped (items : List Tree) : List Name :=
  (items.filter fun item => isMarkedStruct item && item.isGeneric).filterMap
    (·.declaredName? "struct")

end Target

/-- The part of a source text that is to be read: not its mark, and not a line for a shell. -/
def sourceBody (text : List Char) : List Char :=
  let text := Lexer.withoutMark text
  match text with
  | '#' :: '!' :: rest =>
    if (Lexer.afterBlanks rest).head? = some '[' then text else text.dropWhile (· ≠ '\n')
  | _ => text

/-- The items of a source file. -/
def readSource (text : String) : Except Fault (List Tree) :=
  Syntax.readText Rules.file (String.ofList (sourceBody text.toList))

end FluentGen
