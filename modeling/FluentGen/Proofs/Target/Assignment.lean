import FluentGen.Proofs.Syntax.Members
import FluentGen.Proofs.Target.Discovery

/-!
# Where the members of a file go

Every `impl` block that is for the name of a target gives its members to exactly one target, the
first one of that name, and all other blocks give theirs to none (`Target.discover_distributes`).
Where blocks stand among the other items does not matter. A later target of the same name never has
any method (`Target.hasMethod_discover_iff`), not even one that is declared for it
(`Target.starved_conditional`).
-/

namespace FluentGen

namespace Tree

/--
An `impl` block that is not for a trait and has no generic parameters, for a type that is given by a
path without a qualifier, the last segment of which is the name without arguments.
-/
structure IsInherentFor (name : Name) (block : Tree) : Prop where
  inherent : block.isA (.item (.implementation false)) = true
  plain : block.isGeneric = false
  named : ∃ path segment, block.type? = some (.node (.type .path) [path]) ∧
    Rules.isQualified path = false ∧ path.lastSegment? = some segment ∧
    segment.segmentName? = some name ∧
    ∀ arguments, segment.child? .angled = some arguments →
      ∀ entries, arguments.child? .entries = some entries → entries.parts = []

/-- A block has a function of a name between its braces, which may be raw. -/
def DeclaresFunction (name : String) (block : Tree) : Prop :=
  ∃ parts, .group .brace parts ∈ block.parts ∧ ∃ part ∈ parts,
    part.isA (.item .function) = true ∧
    ∃ declared, part.declaredName? "fn" = some declared ∧ declared.text = name

/-- An item is an `impl` block, for a trait or not. -/
def isImpl (item : Tree) : Bool :=
  item.isA (.item (.implementation false)) || item.isA (.item (.implementation true))

/-- The fields with names of a structure, in their order. -/
def fieldNodes (item : Tree) : List Tree :=
  match item.child? .namedFields with
  | some fields => fields.parts.flatMap (·.children .field)
  | none => []

/-- The functions and constants between the braces of a block, in their order. -/
def declarations (block : Tree) : List Tree :=
  block.parts.flatMap fun part =>
    match part with
    | .group .brace parts =>
      parts.filter fun part => part.isA (.item .function) || part.isA (.item .constant)
    | _ => []

/-- A block is for the one name at the end of its type. -/
lemma IsInherentFor.name_unique {name other : Name} {block : Tree}
    (here : block.IsInherentFor name) (there : block.IsInherentFor other) : name = other := by
  obtain ⟨path, segment, type, -, last, called, -⟩ := here.named
  obtain ⟨path', segment', type', -, last', called', -⟩ := there.named
  rw [type] at type'
  cases type'
  rw [last] at last'
  cases last'
  rw [called] at called'
  exact Option.some.inj called'

end Tree

/-! ## Members of structures and blocks -/

/-- What is made of every element stands in its place. -/
lemma forall₂_filterMap {α β : Type} {made : α → Option β} {goal : α → β → Prop} {elements : List α}
    (each : ∀ element ∈ elements, ∃ result, made element = some result ∧ goal element result) :
    List.Forall₂ goal elements (elements.filterMap made) := by
  induction elements with
  | nil => exact .nil
  | cons element elements ih =>
    obtain ⟨⟨result, here, holds⟩, others⟩ := List.forall_mem_cons.1 each
    rw [List.filterMap_cons_some here]
    exact .cons holds (ih others)

namespace Member

/-- A member is a field: its name is the first word of the field. -/
structure IsField (field : Tree) (member : Member) : Prop where
  named : ∃ front back, field.parts = front ++ .word member.name :: back ∧
    ∀ part ∈ front, Rules.NoWord part
  kind : member.kind = .field
  visibility : member.visibility = field.degree
  type : member.type = field.type?

/-- A member is a function or a constant of a block. -/
inductive IsDeclared : Tree → Member → Prop where
  | method {part : Tree} {name : Name} : part.isA (.item .function) = true →
    part.declaredName? "fn" = some name → IsDeclared part ⟨name, .method, part.degree, none⟩
  | constant {part : Tree} {name : Name} : part.isA (.item .constant) = true →
    part.declaredName? "const" = some name →
    IsDeclared part ⟨name, .constant, part.degree, part.type?⟩

/-- A field that has a name is a member. -/
lemma exists_ofField {field : Tree} (named : field.HasName) :
    ∃ member, ofField? field = some member ∧ IsField field member := by
  obtain ⟨front, name, back, parts, plain⟩ := named
  refine ⟨⟨name, .field, field.degree, field.type?⟩, ?_, ⟨front, back, parts, plain⟩, rfl, rfl, rfl⟩
  refine Option.bind_eq_some_iff.2 ⟨name, ?_, rfl⟩
  rw [parts, List.findSome?_append, List.findSome?_eq_none_iff.2]
  · rfl
  · intro part inside
    split
    · next word => exact absurd rfl (plain _ inside word)
    · rfl

/-- The members of a structure are the fields of its body. -/
lemma ofStruct_eq (item : Tree) : ofStruct item = item.fieldNodes.filterMap ofField? := by
  rw [ofStruct, Tree.fieldNodes]
  cases item.child? .namedFields with
  | some fields => exact (List.filterMap_flatMap ..).symm
  | none => rfl

/-- The members of a structure are its fields with names. -/
lemma forall₂_ofStruct {item : Tree} (named : ∀ part ∈ item.parts, part.NamesFields) :
    List.Forall₂ IsField item.fieldNodes (ofStruct item) := by
  rw [ofStruct_eq]
  refine forall₂_filterMap fun field inside => exists_ofField ?_
  rw [Tree.fieldNodes] at inside
  split at inside
  · next fields found =>
    obtain ⟨group, among, inside⟩ := List.mem_flatMap.1 inside
    obtain ⟨inside, isField⟩ := List.mem_filter.1 inside
    exact named fields (List.mem_of_find?_eq_some found) (List.find?_some found) group among field
      inside isField
  · cases inside

/-- The members of a block are the functions and constants that it declares. -/
lemma ofImpl_eq (block : Tree) : ofImpl block = block.declarations.filterMap ofImplPart? := by
  have others (part : Tree) (other : (part.isA (.item .function) || part.isA (.item .constant)) =
      false) : ofImplPart? part = none := by
    cases part with
    | node kind parts => cases kind with
      | item kind => cases kind <;> first | rfl | cases other
      | _ => rfl
    | _ => rfl
  rw [ofImpl, Tree.declarations, List.filterMap_flatMap]
  congr
  funext part
  cases part with
  | group delimiter parts => cases delimiter with
    | brace =>
      show parts.filterMap ofImplPart? = _
      rw [List.filterMap_filter]
      congr
      funext part
      split
      · rfl
      · next other => exact others part (Bool.not_eq_true _ ▸ other)
    | _ => rfl
  | _ => rfl

/-- A part of a block that is looked for and has a name is a member. -/
lemma exists_ofImplPart {part : Tree} (named : part.NamesPart)
    (meant : (part.isA (.item .function) || part.isA (.item .constant)) = true) :
    ∃ member, ofImplPart? part = some member ∧ IsDeclared part member := by
  rcases Bool.or_eq_true_iff.1 meant with function | constant
  · obtain ⟨name, called⟩ := named.1 function
    have kind : part.kind? = some (.item .function) := of_decide_eq_true function
    exact ⟨_, by simp only [ofImplPart?, kind, called, Option.map_some], .method function called⟩
  · obtain ⟨name, called⟩ := named.2 constant
    have kind : part.kind? = some (.item .constant) := of_decide_eq_true constant
    exact ⟨_, by simp only [ofImplPart?, kind, called, Option.map_some], .constant constant called⟩

/-- The members of blocks are their functions and constants. -/
lemma forall₂_ofImpl {blocks : List Tree}
    (named : ∀ block ∈ blocks, ∀ part ∈ block.parts, part.NamesParts) :
    List.Forall₂ IsDeclared (blocks.flatMap Tree.declarations) (blocks.flatMap ofImpl) := by
  have same : blocks.flatMap ofImpl = (blocks.flatMap Tree.declarations).filterMap ofImplPart? := by
    rw [List.filterMap_flatMap]
    exact congrArg (blocks.flatMap ·) (funext ofImpl_eq)
  rw [same]
  refine forall₂_filterMap fun part inside => ?_
  obtain ⟨block, among, inside⟩ := List.mem_flatMap.1 inside
  obtain ⟨group, within, inside⟩ := List.mem_flatMap.1 inside
  split at inside
  · next parts =>
    obtain ⟨inside, meant⟩ := List.mem_filter.1 inside
    exact exists_ofImplPart (named block among _ within parts rfl part inside) meant
  · cases inside

/-- A method of a block is a function in it. -/
lemma declaresFunction {member : Member} {block : Tree}
    (declared : member ∈ ofImpl block) (method : member.kind = .method) :
    block.DeclaresFunction member.name.text := by
  obtain ⟨group, inside, found⟩ := List.mem_flatMap.1 declared
  split at found
  · next parts =>
    obtain ⟨part, among, found⟩ := List.mem_filterMap.1 found
    refine ⟨parts, inside, part, among, ?_⟩
    rw [ofImplPart?] at found
    split at found
    · next kind =>
      obtain ⟨name, named, rfl⟩ := Option.map_eq_some_iff.1 found
      exact ⟨by simp [Tree.isA, kind], name, named, rfl⟩
    · obtain ⟨name, named, rfl⟩ := Option.map_eq_some_iff.1 found
      cases method
    · cases found
  · cases found

/-- A function of a block is a method in it. -/
lemma exists_method {name : String} {block : Tree} (declared : block.DeclaresFunction name) :
    ∃ member ∈ ofImpl block, member.kind = .method ∧ member.name.text = name := by
  obtain ⟨parts, inside, part, among, function, called, named, rfl⟩ := declared
  have kind : part.kind? = some (.item .function) := of_decide_eq_true function
  refine ⟨⟨called, .method, part.degree, none⟩, List.mem_flatMap.2 ⟨_, inside, ?_⟩, rfl, rfl⟩
  exact List.mem_filterMap.2 ⟨part, among, by simp only [ofImplPart?, kind, named, Option.map_some]⟩

/-- What a structure declares by itself are fields. -/
lemma kind_of_mem_ofStruct {item : Tree} {member : Member} (inside : member ∈ ofStruct item) :
    member.kind = .field := by
  rw [ofStruct_eq] at inside
  obtain ⟨field, -, found⟩ := List.mem_filterMap.1 inside
  rw [ofField?] at found
  obtain ⟨name, -, same⟩ := Option.bind_eq_some_iff.1 found
  cases same
  rfl

end Member

namespace Target

/-! ## Owners of blocks -/

/-- A target owns the blocks that are for its name. -/
lemma ownsImpl_iff {target : Target} {block : Tree} :
    target.ownsImpl block = true ↔ block.IsInherentFor target.name := by
  constructor
  · intro owned
    simp only [ownsImpl, Bool.and_eq_true, Bool.not_eq_true'] at owned
    obtain ⟨⟨inherent, plain⟩, named⟩ := owned
    refine ⟨inherent, plain, ?_⟩
    split at named
    · next path type =>
      simp only [Bool.and_eq_true, Bool.not_eq_true', Option.any_eq_true] at named
      obtain ⟨unqualified, segment, last, name, bare⟩ := named
      refine ⟨path, segment, type, unqualified, last, of_decide_eq_true name, ?_⟩
      intro arguments angled entries within
      rw [angled, Option.all_some, within, Option.all_some] at bare
      exact List.isEmpty_iff.1 bare
    · cases named
  · rintro ⟨inherent, plain, path, segment, type, unqualified, last, named, bare⟩
    have arguments : (segment.child? .angled).all (fun arguments =>
        (arguments.child? .entries).all (·.parts.isEmpty)) = true := by
      rw [Option.all_eq_true]
      intro arguments angled
      rw [Option.all_eq_true]
      intro entries within
      exact List.isEmpty_iff.2 (bare arguments angled entries within)
    simp [ownsImpl, inherent, plain, type, unqualified, last, named, arguments]

/-- The place of the first target that a block belongs to. -/
def owner? (targets : List Target) (block : Tree) : Option Nat :=
  targets.findIdx? (·.ownsImpl block)

/-- A block belongs to the first target that owns it, or to one of the others. -/
lemma owner?_cons (target : Target) (targets : List Target) (block : Tree) :
    owner? (target :: targets) block =
      if target.ownsImpl block then some 0 else (owner? targets block).map (· + 1) :=
  List.findIdx?_cons

/-- Only the names of the targets matter. -/
lemma owner?_congr {targets others : List Target}
    (same : targets.map (·.name) = others.map (·.name)) (block : Tree) :
    owner? targets block = owner? others block := by
  have byName (targets : List Target) : owner? targets block =
      (targets.map (·.name)).findIdx? fun name => ownsImpl ⟨name, "", .inherited, []⟩ block := by
    rw [List.findIdx?_map]
    rfl
  rw [byName, byName, same]

/-- The owner of a block is the first target of the name that the block is for. -/
lemma owner?_eq_some_iff {targets : List Target} {block : Tree} {place : Nat} :
    owner? targets block = some place ↔ ∃ target, targets[place]? = some target ∧
      block.IsInherentFor target.name ∧
      ∀ earlier ∈ targets.take place, earlier.name ≠ target.name := by
  rw [owner?, List.findIdx?_eq_some_iff_getElem]
  constructor
  · rintro ⟨short, owned, unowned⟩
    have inherent := ownsImpl_iff.1 owned
    refine ⟨targets[place], List.getElem?_eq_getElem short, inherent, fun earlier among same => ?_⟩
    obtain ⟨before, first, rfl⟩ := List.mem_take_iff_getElem.1 among
    exact unowned before (by omega) (ownsImpl_iff.2 (same ▸ inherent))
  · rintro ⟨target, here, inherent, first⟩
    obtain ⟨short, rfl⟩ := List.getElem?_eq_some_iff.1 here
    refine ⟨short, ownsImpl_iff.2 inherent, fun before earlier owned => ?_⟩
    refine first targets[before] (List.mem_take_iff_getElem.2 ⟨before, by omega, rfl⟩) ?_
    exact (ownsImpl_iff.1 owned).name_unique inherent

/-- A block has an owner if it is for the name of a target. -/
lemma owner?_isSome_iff {targets : List Target} {block : Tree} :
    (owner? targets block).isSome = true ↔
      ∃ target ∈ targets, block.IsInherentFor target.name := by
  rw [owner?, List.findIdx?_isSome, List.any_eq_true]
  exact exists_congr fun target => and_congr_right fun _ => ownsImpl_iff

/-! ## What discovery makes of blocks -/

/-- Without more members a target stays as it is. -/
@[simp]
lemma withMembers_nil : withMembers [] = id := by
  funext target
  simp [withMembers]

/-- Members may be added in two parts. -/
lemma withMembers_withMembers (first second : List Member) (target : Target) :
    (target.withMembers first).withMembers second = target.withMembers (first ++ second) := by
  simp [withMembers]

/-- Members that are added change no name. -/
lemma map_name_assign (block : Tree) (targets : List Target) :
    (assign block targets).map (·.name) = targets.map (·.name) := by
  induction targets with
  | nil => rfl
  | cons target targets ih =>
    rw [assign]
    split
    · rfl
    · rw [List.map_cons, ih, List.map_cons]

/-- Of all targets only the owner of a block gets its members. -/
lemma getElem?_assign (block : Tree) (targets : List Target) (place : Nat) :
    (assign block targets)[place]? = targets[place]?.map (withMembers
      (if owner? targets block = some place then Member.ofImpl block else [])) := by
  induction targets generalizing place with
  | nil => rfl
  | cons target targets ih =>
    rw [assign, owner?_cons]
    cases owned : target.ownsImpl block with
    | true => cases place <;> simp
    | false =>
      cases place with
      | zero => simp
      | succ place =>
        by_cases mine : owner? targets block = some place <;> simp [ih, mine]

/-- After all blocks every target has the members of those that it owns, in their order. -/
lemma getElem?_foldl_assign (blocks : List Tree) (targets : List Target) (place : Nat) :
    (blocks.foldl (fun targets block => assign block targets) targets)[place]? =
      targets[place]?.map (withMembers
        ((blocks.filter (owner? targets · = some place)).flatMap Member.ofImpl)) := by
  induction blocks generalizing targets with
  | nil => simp
  | cons block blocks ih =>
    have owners (other : Tree) : owner? (assign block targets) other = owner? targets other :=
      owner?_congr (map_name_assign block targets) other
    simp only [List.foldl_cons, ih, getElem?_assign, Option.map_map, owners]
    refine congrArg (targets[place]?.map ·) (funext fun target => ?_)
    rw [Function.comp_apply, withMembers_withMembers, List.filter_cons]
    split <;> simp_all

/-- The marked structures of a file that have no generic parameters, in their order. -/
def structures (items : List Tree) : List Tree :=
  items.filter fun item => isMarkedStruct item && !item.isGeneric

/-- What discovery does with the targets of the structures is as long as nothing is lost. -/
lemma getElem?_discover (package : String) (items : List Tree) (place : Nat) :
    (discover package items)[place]? = (origins package items)[place]?.map (withMembers
      ((items.filter (owner? (origins package items) · = some place)).flatMap Member.ofImpl)) :=
  getElem?_foldl_assign items (origins package items) place

/-- The targets are called like the structures that they come from. -/
lemma map_name_discover (package : String) (items : List Tree) :
    (discover package items).map (·.name) = (origins package items).map (·.name) := by
  have grown := grown_discover package items
  generalize discover package items = targets, origins package items = starts at grown
  induction grown with
  | nil => rfl
  | cons here _ ih => rw [List.map_cons, List.map_cons, ih, here.name_eq]

/-- An item that is no block leaves the targets as they are. -/
lemma assign_of_other {item : Tree} (other : item.isImpl = false) (targets : List Target) :
    assign item targets = targets := by
  have unowned (target : Target) : target.ownsImpl item = false := by
    rw [Tree.isImpl, Bool.or_eq_false_iff] at other
    simp [ownsImpl, other.1]
  induction targets with
  | nil => rfl
  | cons target targets ih => simp [assign, unowned, ih]

/-- Discovery only looks at marked structures and, apart from them, at blocks. -/
lemma discover_eq_foldl (package : String) (items : List Tree) :
    discover package items = (items.filter Tree.isImpl).foldl
      (fun targets block => assign block targets)
      (origins package (items.filter isMarkedStruct)) := by
  have marked : origins package (items.filter isMarkedStruct) = origins package items := by
    rw [origins, List.filter_filter, origins]
    congr 2
    funext item
    cases isMarkedStruct item <;> simp
  rw [marked, List.foldl_filter]
  show items.foldl _ (origins package items) = _
  congr 1
  funext targets item
  cases block : item.isImpl with
  | true => rfl
  | false => exact assign_of_other block targets

/-- In a source text every such structure is a target. -/
lemma forall₂_origins (package : String) {source : String} {items : List Tree}
    (read : readSource source = .ok items) :
    List.Forall₂ (fun item target => ofStruct? package item = some target) (structures items)
      (origins package items) := by
  refine forall₂_filterMap fun item inside => ?_
  obtain ⟨inside, meant⟩ := List.mem_filter.1 inside
  have record : item.isA (.item .record) = true :=
    (Bool.and_eq_true_iff.1 (Bool.and_eq_true_iff.1 meant).1).1
  obtain ⟨-, name, -, named, -⟩ := declaredName_of_readSource read inside record
  exact ⟨_, by rw [ofStruct?, named, Option.map_some], by rw [ofStruct?, named, Option.map_some]⟩

/-- A target is made of a structure and of blocks: the fields come first, then the rest in order. -/
structure MadeOf (package : String) (item : Tree) (blocks : List Tree) (target : Target) :
    Prop where
  name : item.declaredName? "struct" = some target.name
  package : target.package = package
  visibility : target.visibility = item.qualifier
  members : ∃ fields declared, target.members = fields ++ declared ∧
    List.Forall₂ Member.IsField item.fieldNodes fields ∧
    List.Forall₂ Member.IsDeclared (blocks.flatMap Tree.declarations) declared

/-- The targets of a source text are made of its structures and of the blocks that they own. -/
lemma madeOf_discover (package : String) {source : String} {items : List Tree}
    (read : readSource source = .ok items) {place : Nat} {item : Tree} {target : Target}
    (declared : (structures items)[place]? = some item)
    (found : (discover package items)[place]? = some target) :
    MadeOf package item (items.filter (owner? (discover package items) · = some place)) target := by
  have owners : owner? (origins package items) = owner? (discover package items) :=
    funext fun block => (owner?_congr (map_name_discover package items) block).symm
  rw [getElem?_discover, owners] at found
  obtain ⟨origin, start, rfl⟩ := Option.map_eq_some_iff.1 found
  obtain ⟨short, rfl⟩ := List.getElem?_eq_some_iff.1 declared
  obtain ⟨short', rfl⟩ := List.getElem?_eq_some_iff.1 start
  have made := (forall₂_origins package read).get short short'
  obtain ⟨name, named, same⟩ := Option.map_eq_some_iff.1 made
  have inside : (structures items)[place] ∈ structures items := List.getElem_mem short
  obtain ⟨inside, meant⟩ := List.mem_filter.1 inside
  have record : (structures items)[place].isA (.item .record) = true :=
    (Bool.and_eq_true_iff.1 (Bool.and_eq_true_iff.1 meant).1).1
  simp only [List.get_eq_getElem] at same named
  rw [← same]
  refine ⟨named, rfl, rfl, _, _, rfl,
    Member.forall₂_ofStruct (namesFields_of_readSource read inside record),
    Member.forall₂_ofImpl fun block among => ?_⟩
  obtain ⟨among, owned⟩ := List.mem_filter.1 among
  obtain ⟨owner, -, inherent, -⟩ := owner?_eq_some_iff.1 (of_decide_eq_true owned)
  exact namesParts_of_readSource read among inherent.inherent

/--
What discovery finds in a source text depends on its marked structures and its `impl` blocks alone,
each in their order. The targets are the structures without generic parameters, each with its fields
and behind them what the blocks declare that it owns. Every block that is for the name of a target
has exactly one owner, the first target of that name, and no other block has one.
-/
theorem discover_distributes (package : String) {source : String} {items : List Tree}
    (read : readSource source = .ok items) :
    (∀ others : List Tree, others.filter isMarkedStruct = items.filter isMarkedStruct →
      others.filter Tree.isImpl = items.filter Tree.isImpl →
      discover package others = discover package items) ∧
    (discover package items).length = (structures items).length ∧
    (∀ place item target, (structures items)[place]? = some item →
      (discover package items)[place]? = some target →
      MadeOf package item (items.filter (owner? (discover package items) · = some place))
        target) ∧
    ∀ block ∈ items,
      ((owner? (discover package items) block).isSome = true ↔
        ∃ target ∈ discover package items, block.IsInherentFor target.name) ∧
      ∀ place, owner? (discover package items) block = some place ↔
        ∃ target, (discover package items)[place]? = some target ∧
          block.IsInherentFor target.name ∧
          ∀ earlier ∈ (discover package items).take place, earlier.name ≠ target.name := by
  refine ⟨fun others marked blocks => ?_, ?_, fun place item target => madeOf_discover package read,
    fun block _ => ⟨owner?_isSome_iff, fun place => owner?_eq_some_iff⟩⟩
  · rw [discover_eq_foldl, marked, blocks, ← discover_eq_foldl]
  · rw [(forall₂_origins package read).length_eq, (grown_discover package items).length_eq]

/-- A structure between blocks, with blocks that are for a trait or for another type. -/
def scattered : String :=
  "impl A { fn set_a(&mut self, a: u8) {} type T = u8; const K: u8 = 1; } enum E {} " ++
    "#[builder] pub struct A { pub a: u8, b: u8 } impl T for A { fn lost(&self) {} } " ++
    "#[builder] struct B; impl m::A { fn last() {} } impl <X as Y>::A { fn other() {} }"

/-- Of five functions and a constant three go to the first target, and none to the second. -/
theorem discover_distributes_scattered :
    ∃ items item target, readSource scattered = .ok items ∧
      (structures items)[0]? = some item ∧ (discover "m" items)[0]? = some target ∧
      target.members.map (fun member => (member.name.spelling, member.kind)) =
        [("a", .field), ("b", .field), ("set_a", .method), ("K", .constant),
          ("last", .method)] ∧
      MadeOf "m" item (items.filter (owner? (discover "m" items) · = some 0)) target ∧
      items.map (owner? (discover "m" items)) = [some 0, none, none, none, none, some 0, none] := by
  have shape : (readSource scattered).map (fun items => ((discover "m" items).map fun target =>
        target.members.map fun member => (member.name.spelling, member.kind),
      items.map (owner? (discover "m" items)))) =
      .ok ([[("a", .field), ("b", .field), ("set_a", .method), ("K", .constant),
        ("last", .method)], []], [some 0, none, none, none, none, some 0, none]) := by
    unfold scattered
    simp only [readSource_eq, String.toList_append]
    rw [String.toList_ofList, String.toList_ofList, String.toList_ofList]
    decide +kernel
  cases read : readSource scattered with
  | error fault =>
    rw [read] at shape
    cases shape
  | ok items =>
    rw [read] at shape
    simp only [Except.map, Except.ok.injEq, Prod.mk.injEq] at shape
    obtain ⟨members, owners⟩ := shape
    obtain ⟨-, count, made, -⟩ := discover_distributes "m" read
    have two : (discover "m" items).length = 2 := by simpa using congrArg List.length members
    obtain ⟨first, second, targets⟩ := List.length_eq_two.1 two
    obtain ⟨item, other, declared⟩ := List.length_eq_two.1 (count.symm.trans two)
    have here : (structures items)[0]? = some item := by rw [declared]; rfl
    have there : (discover "m" items)[0]? = some first := by rw [targets]; rfl
    refine ⟨items, item, first, rfl, here, there, ?_, made 0 item first here there, owners⟩
    rw [targets] at members
    exact (List.cons.inj members).1

/-- A structure and a block for a type that a trait has under the name of the structure. -/
def projected : String :=
  "#[builder] struct A { a: u8 } impl <X as Y>::A { fn set_a(&mut self, a: u8) {} }"

/-- The type that a block is for is given by a path that ends in a name without arguments. -/
def endsIn (name : Name) (block : Tree) : Bool :=
  match block.type? with
  | some (.node (.type .path) [path]) => path.lastSegment?.any fun segment =>
    segment.segmentName? = some name && (segment.child? .angled).isNone
  | _ => false

/-- Such a block is for no trait and has no generic parameters, but gives its function to none. -/
theorem projected_lost :
    ∃ items, readSource projected = .ok items ∧
      ((items.filter (·.isA (.item (.implementation false)))).map fun block =>
        (block.isGeneric, endsIn (.plain "A") block, (Member.ofImpl block).map (·.name))) =
          [(false, true, [.plain "set_a"])] ∧
      ((discover "" items).map fun target => (target.name, target.members.map (·.name))) =
        [(.plain "A", [.plain "a"])] := by
  have shape : (readSource projected).map (fun items =>
      ((items.filter (·.isA (.item (.implementation false)))).map fun block =>
        (block.isGeneric, endsIn (.plain "A") block, (Member.ofImpl block).map (·.name)),
      (discover "" items).map fun target => (target.name, target.members.map (·.name)))) =
      .ok ([(false, true, [.plain "set_a"])], [(.plain "A", [.plain "a"])]) := by
    unfold projected
    rw [readSource_eq, String.toList_ofList]
    decide +kernel
  cases read : readSource projected with
  | error fault =>
    rw [read] at shape
    cases shape
  | ok items =>
    rw [read] at shape
    simp only [Except.map, Except.ok.injEq, Prod.mk.injEq] at shape
    exact ⟨items, rfl, shape⟩

/-! ## Methods of targets that share a name -/

/-- The methods of an owner are the functions of the blocks for its name; others have none. -/
lemma hasMethod_discover_iff {package : String} {items : List Tree} {before after : List Target}
    {target : Target} (found : discover package items = before ++ target :: after)
    (name : String) :
    target.hasMethod name = true ↔ (∀ earlier ∈ before, earlier.name ≠ target.name) ∧
      ∃ block ∈ items, block.IsInherentFor target.name ∧ block.DeclaresFunction name := by
  have owners : owner? (origins package items) = owner? (discover package items) :=
    funext fun block => (owner?_congr (map_name_discover package items) block).symm
  have here : (discover package items)[before.length]? = some target := by simp [found]
  have first : (discover package items).take before.length = before := by simp [found]
  have grown := here
  rw [getElem?_discover, owners] at grown
  obtain ⟨origin, start, same⟩ := Option.map_eq_some_iff.1 grown
  have fields : ∀ member ∈ origin.members, member.kind = .field := by
    obtain ⟨item, -, made⟩ := List.mem_filterMap.1 (List.mem_of_getElem? start)
    obtain ⟨called, -, rfl⟩ := Option.map_eq_some_iff.1 made
    exact fun member => Member.kind_of_mem_ofStruct
  have owned (block : Tree) : owner? (discover package items) block = some before.length ↔
      (∀ earlier ∈ before, earlier.name ≠ target.name) ∧ block.IsInherentFor target.name := by
    rw [owner?_eq_some_iff, here, first]
    simp [and_comm]
  simp only [hasMethod, List.any_eq_true, decide_eq_true_eq]
  constructor
  · rintro ⟨member, inside, method, called⟩
    rw [← same, withMembers, List.mem_append] at inside
    rcases inside with inside | inside
    · rw [fields member inside] at method
      cases method
    · obtain ⟨block, among, declared⟩ := List.mem_flatMap.1 inside
      obtain ⟨among, mine⟩ := List.mem_filter.1 among
      obtain ⟨alone, inherent⟩ := (owned block).1 (of_decide_eq_true mine)
      exact ⟨alone, block, among, inherent, called ▸ Member.declaresFunction declared method⟩
  · rintro ⟨alone, block, among, inherent, declared⟩
    obtain ⟨member, inside, method, called⟩ := Member.exists_method declared
    refine ⟨member, ?_, method, called⟩
    rw [← same, withMembers, List.mem_append]
    exact .inr (List.mem_flatMap.2 ⟨block, List.mem_filter.2 ⟨among,
      decide_eq_true ((owned block).2 ⟨alone, inherent⟩)⟩, inside⟩)

/--
The first target of its name has a method for every function in every block of the source text that
is for its name. A target behind another one of the same name has no method at all.
-/
theorem hasMethod_discover {package source : String} {items : List Tree}
    (read : readSource source = .ok items) {before after : List Target} {target : Target}
    (found : discover package items = before ++ target :: after) :
    ((∀ earlier ∈ before, earlier.name ≠ target.name) →
      ∀ block ∈ items, block.IsInherentFor target.name → ∀ part ∈ block.declarations,
        part.isA (.item .function) = true →
        ∃ name, part.declaredName? "fn" = some name ∧ target.hasMethod name.text = true) ∧
    ((∃ earlier ∈ before, earlier.name = target.name) →
      ∀ name, target.hasMethod name = false) := by
  constructor
  · intro alone block among inherent part inside function
    obtain ⟨group, within, inside⟩ := List.mem_flatMap.1 inside
    split at inside
    · next parts =>
      obtain ⟨inside, -⟩ := List.mem_filter.1 inside
      have named := namesParts_of_readSource read among inherent.inherent _ within parts rfl
      obtain ⟨name, called⟩ := (named part inside).1 function
      exact ⟨name, called, (hasMethod_discover_iff found name.text).2 ⟨alone, block, among, inherent,
        parts, within, part, inside, function, name, called, rfl⟩⟩
    · cases inside
  · rintro ⟨earlier, inside, same⟩ name
    rw [← Bool.not_eq_true, hasMethod_discover_iff found]
    exact fun ⟨alone, _⟩ => alone earlier inside same

/-- Two structures of one name under different conditions, and the setter for both. -/
def conditional : String :=
  "#[builder] #[cfg(a)] struct A { x: u8 } #[builder] #[cfg(b)] struct A { x: u8 } " ++
    "impl A { fn set_x(&mut self, x: u8) {} }"

/-- They are two targets of one name. -/
lemma exists_conditional :
    ∃ items first second, readSource conditional = .ok items ∧
      discover "" items = [] ++ first :: [second] ∧
      discover "" items = [first] ++ second :: [] ∧
      first.name = second.name ∧ first.hasMethod "set_x" = true := by
  have shape : (readSource conditional).map (fun items => (discover "" items).map fun target =>
      (target.name, target.hasMethod "set_x")) =
      .ok [(.plain "A", true), (.plain "A", false)] := by
    unfold conditional
    simp only [readSource_eq, String.toList_append]
    rw [String.toList_ofList, String.toList_ofList]
    decide +kernel
  cases read : readSource conditional with
  | error fault =>
    rw [read] at shape
    cases shape
  | ok items =>
    rw [read] at shape
    simp only [Except.map, Except.ok.injEq] at shape
    obtain ⟨first, second, targets⟩ := List.length_eq_two.1
      (by simpa using congrArg List.length shape)
    rw [targets] at shape
    simp only [List.map_cons, List.map_nil, List.cons.injEq, Prod.mk.injEq] at shape
    exact ⟨items, first, second, rfl, targets, targets, shape.1.1.trans shape.2.1.1.symm,
      shape.1.2⟩

/-- The first of the two has the setter, and the second has no method. -/
theorem hasMethod_discover_conditional :
    ∃ items first second, readSource conditional = .ok items ∧
      discover "" items = [first, second] ∧ first.hasMethod "set_x" = true ∧
      ∀ name, second.hasMethod name = false := by
  obtain ⟨items, first, second, read, -, targets, same, declared⟩ := exists_conditional
  obtain ⟨-, none⟩ := hasMethod_discover read targets
  exact ⟨items, first, second, read, targets, declared,
    none ⟨first, List.mem_singleton_self first, same⟩⟩

/-- The second does not have the function of a block in the text that is for its name. -/
theorem starved_conditional :
    ∃ items first second, readSource conditional = .ok items ∧
      discover "" items = [first, second] ∧
      (∃ block ∈ items, block.IsInherentFor second.name ∧ block.DeclaresFunction "set_x") ∧
      second.hasMethod "set_x" = false := by
  obtain ⟨items, first, second, read, alone, targets, same, declared⟩ := exists_conditional
  obtain ⟨-, block, among, inherent, declares⟩ := (hasMethod_discover_iff alone _).1 declared
  refine ⟨items, first, second, read, targets,
    ⟨block, among, same ▸ inherent, declares⟩, ?_⟩
  rw [← Bool.not_eq_true, hasMethod_discover_iff targets]
  exact fun ⟨alone, _⟩ => alone first (List.mem_singleton_self first) same

end Target

end FluentGen
