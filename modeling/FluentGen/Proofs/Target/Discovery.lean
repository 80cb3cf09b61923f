import FluentGen.Proofs.Builder.Selection
import FluentGen.Target.Discovery
import Mathlib.Data.List.Forall2

/-!
# What the targets of a file are made of

Every target of a file is the target of its structure with members of `impl` blocks behind the
fields (`Target.grown_discover`). The blocks are some of those in the file that belong to it, and
what they add is no field, so that it does not matter to the builder.
-/

namespace FluentGen

/-- What an `impl` block declares is a method or a constant. -/
lemma Member.kind_of_mem_ofImpl {member : Member} {block : Tree}
    (declared : member ∈ Member.ofImpl block) : member.kind ≠ .field := by
  simp only [ofImpl, List.mem_flatMap] at declared
  obtain ⟨part, -, declared⟩ := declared
  split at declared
  · obtain ⟨inner, -, found⟩ := List.mem_filterMap.1 declared
    rw [ofImplPart?] at found
    split at found
    · obtain ⟨name, -, rfl⟩ := Option.map_eq_some_iff.1 found
      exact nofun
    · obtain ⟨name, -, rfl⟩ := Option.map_eq_some_iff.1 found
      exact nofun
    · cases found
  · cases declared

namespace Target

/-- A target with members behind its own, each of an `impl` block among the items that it owns. -/
def Grown (items : List Tree) (origin target : Target) : Prop :=
  ∃ members, target = origin.withMembers members ∧
    ∀ member ∈ members, ∃ block ∈ items,
      origin.ownsImpl block = true ∧ member ∈ Member.ofImpl block

namespace Grown

variable {items : List Tree} {origin target : Target}

/-- A target may have no such members. -/
lemma refl (items : List Tree) (origin : Target) : Grown items origin origin :=
  ⟨[], by simp [withMembers], nofun⟩

/-- A target that has grown is called the same. -/
lemma name_eq (grown : Grown items origin target) : target.name = origin.name := by
  obtain ⟨members, rfl, -⟩ := grown
  rfl

/-- A target that has grown owns the same blocks. -/
lemma ownsImpl_eq (grown : Grown items origin target) (block : Tree) :
    target.ownsImpl block = origin.ownsImpl block := by
  obtain ⟨members, rfl, -⟩ := grown
  rfl

/-- One more block among the items adds its members. -/
lemma withMembers (grown : Grown items origin target) {block : Tree} (inside : block ∈ items)
    (owned : target.ownsImpl block = true) :
    Grown items origin (target.withMembers (Member.ofImpl block)) := by
  rw [grown.ownsImpl_eq] at owned
  obtain ⟨members, rfl, declared⟩ := grown
  refine ⟨members ++ Member.ofImpl block, ?_, fun member added => ?_⟩
  · simp [Target.withMembers]
  · rcases List.mem_append.1 added with earlier | later
    · exact declared member earlier
    · exact ⟨block, inside, owned, later⟩

/-- The fields of a target that has grown are those that it had. -/
lemma privateFields_eq (grown : Grown items origin target) :
    target.privateFields = origin.privateFields := by
  obtain ⟨members, rfl, declared⟩ := grown
  have none : members.filterMap Member.privateField? = [] := by
    refine List.filterMap_eq_nil_iff.2 fun member added => ?_
    obtain ⟨block, -, -, declared⟩ := declared member added
    have other := Member.kind_of_mem_ofImpl declared
    obtain ⟨name, kind, visibility, type⟩ := member
    cases kind with
    | field => exact absurd rfl other
    | method => rfl
    | constant => rfl
  show (origin.members ++ members).filterMap _ = _
  rw [List.filterMap_append, none, List.append_nil]
  rfl

/-- A target that has grown has the same builder. -/
lemma ofTarget_eq (grown : Grown items origin target) :
    Builder.ofTarget target = Builder.ofTarget origin := by
  have same : target.builder = origin.builder := by
    funext holder
    rw [builder, builder, grown.privateFields_eq]
    obtain ⟨members, rfl, -⟩ := grown
    rfl
  rw [Builder.ofTarget_eq, Builder.ofTarget_eq, same, grown.name_eq]

/-- Targets that have grown have the same builders. -/
lemma map_ofTarget {origins targets : List Target}
    (grown : List.Forall₂ (Grown items) origins targets) :
    targets.map Builder.ofTarget = origins.map Builder.ofTarget := by
  induction grown with
  | nil => rfl
  | cons here _ ih => rw [List.map_cons, List.map_cons, ih, here.ofTarget_eq]

/-- Targets that have grown from two lists are two lists. -/
lemma exists_append {origins others targets : List Target}
    (grown : List.Forall₂ (Grown items) (origins ++ others) targets) :
    ∃ front back, targets = front ++ back ∧ List.Forall₂ (Grown items) origins front ∧
      List.Forall₂ (Grown items) others back := by
  refine ⟨targets.take origins.length, targets.drop origins.length,
    (List.take_append_drop ..).symm, ?_, ?_⟩
  · simpa using List.forall₂_take origins.length grown
  · simpa using List.forall₂_drop origins.length grown

end Grown

/-- The targets of the structures in a file, before the `impl` blocks are looked at. -/
def origins (package : String) (items : List Tree) : List Target :=
  (items.filter fun item => isMarkedStruct item && !item.isGeneric).filterMap (ofStruct? package)

/-- The structures of two parts of a file come one after the other. -/
lemma origins_append (package : String) (before after : List Tree) :
    origins package (before ++ after) = origins package before ++ origins package after := by
  rw [origins, List.filter_append, List.filterMap_append]
  rfl

/-- Assigning one of the items to a target lets that target grow. -/
lemma grown_assign {items : List Tree} {block : Tree} (inside : block ∈ items)
    {origins targets : List Target} (grown : List.Forall₂ (Grown items) origins targets) :
    List.Forall₂ (Grown items) origins (assign block targets) := by
  induction grown with
  | nil => exact .nil
  | cons here others ih =>
    rw [assign]
    split
    · next owned => exact .cons (here.withMembers inside owned) others
    · exact .cons here ih

/-- Every target of a file is that of a structure, grown by blocks of the file. -/
lemma grown_discover (package : String) (items : List Tree) :
    List.Forall₂ (Grown items) (origins package items) (discover package items) := by
  -- the loop over the blocks starts from the targets of the structures
  have loop : ∀ blocks : List Tree, (∀ block ∈ blocks, block ∈ items) → ∀ targets,
      List.Forall₂ (Grown items) (origins package items) targets →
      List.Forall₂ (Grown items) (origins package items)
        (blocks.foldl (fun targets block => assign block targets) targets) := by
    intro blocks
    induction blocks with
    | nil => exact fun _ _ grown => grown
    | cons block blocks ih =>
      intro inside targets grown
      obtain ⟨here, others⟩ := List.forall_mem_cons.1 inside
      exact ih others _ (grown_assign here grown)
  refine loop items (fun _ inside => inside) _ (List.forall₂_same.2 fun origin _ => ?_)
  exact .refl items origin

/-- The targets of a file around one of its items: before it, for it, and behind it. -/
lemma exists_discover_append (package : String) (before after : List Tree) (item : Tree) :
    ∃ front own back, discover package (before ++ item :: after) = front ++ (own ++ back) ∧
      List.Forall₂ (Grown (before ++ item :: after)) (origins package before) front ∧
      List.Forall₂ (Grown (before ++ item :: after)) (origins package [item]) own ∧
      List.Forall₂ (Grown (before ++ item :: after)) (origins package after) back := by
  have grown := grown_discover package (before ++ item :: after)
  rw [show origins package (before ++ item :: after) =
    origins package before ++ (origins package [item] ++ origins package after) by
      rw [← origins_append, ← origins_append, List.singleton_append]] at grown
  obtain ⟨front, rest, whole, first, others⟩ := Grown.exists_append grown
  obtain ⟨own, back, rfl, second, third⟩ := Grown.exists_append others
  exact ⟨front, own, back, whole, first, second, third⟩

end Target

end FluentGen
