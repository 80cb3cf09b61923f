import FluentGen.Proofs.Syntax.Record
import FluentGen.Proofs.Target.Discovery

/-!
# Declarations and files

A marked structure in a file has the builder that it would have if it stood alone, and none for the
same reasons (`Target.discover_agrees`). What else is in the file does not matter.
-/

namespace FluentGen.Target

/-- A marked structure is refused exactly if nothing is found for it in a file. -/
lemma ofDeclaration_of_marked (package : String) {item : Tree}
    (marked : isMarkedStruct item = true) :
    ((∃ rejection, ofDeclaration package item = .error rejection) ∧ origins package [item] = []) ∨
      ∃ target, ofDeclaration package item = .ok target ∧ origins package [item] = [target] := by
  have record : item.isA (.item .record) = true := (Bool.and_eq_true_iff.1 marked).1
  cases made : ofStruct? package item with
  | none => exact .inl ⟨⟨.notStruct, by rw [ofDeclaration, made]⟩, by simp [origins, made]⟩
  | some target =>
    cases generic : item.isGeneric with
    | true =>
      exact .inl ⟨⟨.generic, by simp [ofDeclaration, made, record, generic]⟩,
        by simp [origins, generic]⟩
    | false =>
      exact .inr ⟨target, by simp [ofDeclaration, made, record, generic],
        by simp [origins, marked, generic, made]⟩

/-- The target of a marked structure that would not be refused, among those of its file. -/
lemma exists_grown_of_declared {package : String} (before after : List Tree) {item : Tree}
    (marked : isMarkedStruct item = true) {declared : Target}
    (made : ofDeclaration package item = .ok declared) :
    ∃ front target back, discover package (before ++ item :: after) = front ++ target :: back ∧
      front.length = (discover package before).length ∧
      Grown (before ++ item :: after) declared target := by
  obtain ⟨front, own, back, whole, first, second, -⟩ :=
    exists_discover_append package before after item
  rcases ofDeclaration_of_marked package marked with ⟨⟨rejection, refused⟩, -⟩ |
    ⟨found, same, one⟩
  · rw [refused] at made
    cases made
  · rw [same] at made
    cases made
    rw [one, List.forall₂_cons_left_iff] at second
    obtain ⟨target, rest, here, none, rfl⟩ := second
    cases none
    exact ⟨front, target, back, whole,
      first.length_eq.symm.trans (grown_discover package before).length_eq, here⟩

/--
A marked structure of a file is found unless it would be refused if it stood alone, and then it has
the same builder as it has alone, wherever it stands and whatever else is in the file. The targets
of what stands before and behind it have the builders that they would have without it. Read as a
declaration, the item of the file is the same tree.
-/
theorem discover_agrees (package : String) (before after : List Tree) {item : Tree}
    (marked : isMarkedStruct item = true) :
    (∃ front own back, discover package (before ++ item :: after) = front ++ (own ++ back) ∧
      front.map Builder.ofTarget = (discover package before).map Builder.ofTarget ∧
      back.map Builder.ofTarget = (discover package after).map Builder.ofTarget ∧
      ((∃ rejection, ofDeclaration package item = .error rejection) ↔ own = []) ∧
      ∀ declared, ofDeclaration package item = .ok declared →
        ∃ target, own = [target] ∧ Builder.ofTarget target = Builder.ofTarget declared) ∧
    ∀ read scan rest, Rules.item read scan = .ok ([item], rest) →
      Rules.dataItem read scan = .ok ([item], rest) := by
  refine ⟨?_, fun read scan rest ran => Rules.dataItem_of_item ran List.mem_cons_self
    (Bool.and_eq_true_iff.1 marked).1⟩
  obtain ⟨front, own, back, whole, first, second, third⟩ :=
    exists_discover_append package before after item
  refine ⟨front, own, back, whole, ?_, ?_, ?_⟩
  · rw [Grown.map_ofTarget first, Grown.map_ofTarget (grown_discover package before)]
  · rw [Grown.map_ofTarget third, Grown.map_ofTarget (grown_discover package after)]
  · rcases ofDeclaration_of_marked package marked with ⟨⟨rejection, refused⟩, none⟩ |
      ⟨declared, made, one⟩
    · rw [none, List.forall₂_nil_left_iff] at second
      refine ⟨⟨fun _ => second, fun _ => ⟨rejection, refused⟩⟩, fun target made => ?_⟩
      rw [refused] at made
      cases made
    · rw [one, List.forall₂_cons_left_iff] at second
      obtain ⟨target, rest, here, none, rfl⟩ := second
      cases none
      refine ⟨⟨?_, nofun⟩, fun other same => ?_⟩
      · rintro ⟨rejection, refused⟩
        rw [made] at refused
        cases refused
      · rw [made] at same
        cases same
        exact ⟨target, rfl, here.ofTarget_eq⟩

/-- A structure behind a block that belongs to it has one member alone and two in its file. -/
theorem discover_agrees_amid :
    ∃ block item other, readSource
        "impl A { fn set_a(&mut self, a: u8) {} } #[builder] pub struct A { a: u8 } mod b {}" =
          .ok [block, item, other] ∧ isMarkedStruct item = true ∧
      ∃ declared target, ofDeclaration "m" item = .ok declared ∧
        discover "m" [block, item, other] = [target] ∧
        declared.members.length = 1 ∧ target.members.length = 2 ∧
        Builder.ofTarget target = Builder.ofTarget declared := by
  have counts : (readSource
      "impl A { fn set_a(&mut self, a: u8) {} } #[builder] pub struct A { a: u8 } mod b {}").map
        (fun items => (items.map isMarkedStruct, (discover "m" items).map (·.members.length),
          items.map fun item => (ofDeclaration "m" item).toOption.map (·.members.length))) =
      .ok ([false, true, false], [2], [none, some 1, none]) := by
    rw [readSource_eq, String.toList_ofList]
    decide +kernel
  cases read : readSource
      "impl A { fn set_a(&mut self, a: u8) {} } #[builder] pub struct A { a: u8 } mod b {}" with
  | error fault =>
    rw [read] at counts
    cases counts
  | ok items =>
    rw [read] at counts
    simp only [Except.map, Except.ok.injEq, Prod.mk.injEq] at counts
    obtain ⟨marks, found, alone⟩ := counts
    obtain ⟨block, item, other, rfl⟩ := List.length_eq_three.1
      (by simpa using congrArg List.length marks)
    simp only [List.map_cons, List.map_nil, List.cons.injEq] at marks alone
    obtain ⟨-, marked, -⟩ := marks
    obtain ⟨⟨front, own, back, whole, -, -, -, same⟩, -⟩ :=
      discover_agrees "m" [block] [other] marked
    cases made : ofDeclaration "m" item with
    | error rejection =>
      rw [made] at alone
      cases alone.2.1
    | ok declared =>
      obtain ⟨target, rfl, builders⟩ := same declared made
      have only : discover "m" [block, item, other] = [target] := by
        have one := congrArg List.length found
        rw [← List.singleton_append, whole] at one ⊢
        simp only [List.length_map, List.length_append, List.length_singleton] at one
        rw [List.length_eq_zero_iff.1 (by omega : front.length = 0),
          List.length_eq_zero_iff.1 (by omega : back.length = 0)]
        rfl
      rw [only] at found
      refine ⟨block, item, other, rfl, marked, declared, target, made, only, ?_, ?_, builders⟩
      · rw [made] at alone
        exact Option.some.inj alone.2.1
      · simpa using found

end FluentGen.Target
