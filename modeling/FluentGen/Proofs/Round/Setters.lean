import FluentGen.Proofs.Round.Outcome
import FluentGen.Proofs.Target.Assignment
import FluentGen.Proofs.Target.Declaration

/-!
# What a check promises about a source text

If setters are checked, a marked structure is written only if its source text declares a function
for every private field in an `impl` block for the structure (`Round.written_declares`). The block
is told by the last name of its type, and the function by its name alone, so that a block for
another type of the same name and a function of another shape pass as well
(`Round.written_elsewhere`).
-/

namespace FluentGen

namespace Target

/-- What a structure declares by itself are fields. -/
lemma kind_of_mem_declared {package : String} {item : Tree} {declared : Target}
    (made : ofDeclaration package item = .ok declared) {member : Member}
    (inside : member ∈ declared.members) : member.kind = .field := by
  have members : declared.members = Member.ofStruct item := by
    rw [ofDeclaration] at made
    split at made
    · next target found =>
      obtain ⟨name, -, rfl⟩ := Option.map_eq_some_iff.1 found
      split at made
      · cases made
      · split at made
        · cases made
        · cases made
          rfl
    · cases made
  exact Member.kind_of_mem_ofStruct (members ▸ inside)

/-- A method of a target that has grown is declared in a block among the items. -/
lemma Grown.exists_declares {items : List Tree} {origin target : Target}
    (grown : Grown items origin target) (fields : ∀ member ∈ origin.members, member.kind = .field)
    {name : String} (declared : target.hasMethod name = true) :
    ∃ block ∈ items, block.IsInherentFor origin.name ∧ block.DeclaresFunction name := by
  obtain ⟨members, rfl, each⟩ := grown
  simp only [hasMethod, Target.withMembers, List.any_append, Bool.or_eq_true, List.any_eq_true,
    Bool.decide_and, Bool.and_eq_true, decide_eq_true_eq] at declared
  rcases declared with ⟨member, inside, method, -⟩ | ⟨member, inside, method, rfl⟩
  · rw [fields member inside] at method
    cases method
  · obtain ⟨block, among, owned, from_⟩ := each member inside
    exact ⟨block, among, ownsImpl_iff.1 owned, Member.declaresFunction from_ method⟩

end Target

namespace Round

variable {σ : Type} {output : Output σ} {config : Config}

/-- A target that is written when setters are checked has all of them. -/
lemma hasMethod_of_produce (validates : config.setterPolicy = .validate) {target : Target}
    {work after : Work σ} {path : String}
    (produced : produce output config target work = .ok (.ok path, after)) {field : Field}
    (inside : field ∈ target.privateFields) :
    target.hasMethod (Naming.setterName field.name.text) = true := by
  have named : target.name.text ≠ "_" := ((exists_produce_iff output work).1 ⟨_, produced⟩).1
  have admitted : rejects config target = false := by
    by_contra turned
    rw [produce_rejected output work named (by simpa using turned)] at produced
    cases produced
  by_contra missing
  have lacking : Naming.setterName field.name.text ∈ target.lackingSetters := by
    rw [Target.lackingSetters, Target.missingSetters, List.mem_filter]
    exact ⟨List.mem_map_of_mem inside, by simpa using missing⟩
  have none : target.lackingSetters = [] := by simpa [rejects, validates] using admitted
  rw [none] at lacking
  cases lacking

/--
If setters are checked in a round over a source text, and the builder of a marked structure in the
text is written, there is for every private field of the structure an `impl` block in the text that
is for a type of the name of the structure and has a function called like the setter of the field.
-/
theorem written_declares (validates : config.setterPolicy = .validate) {package source : String}
    {work final : Work σ} {summary : Summary}
    (ran : runSource output config package source work = .ok (.ok summary, final)) :
    ∃ items results, readSource source = .ok items ∧
      outcomes output config (Target.discover package items)
        (work.note (discoveryEvents package items (Target.discover package items))) =
          .ok results ∧
      summary = results.foldr Summary.count .empty ∧
      ∀ before item after declared path, items = before ++ item :: after →
        Target.isMarkedStruct item = true → Target.ofDeclaration package item = .ok declared →
        results[(Target.discover package before).length]? = some (.ok path) →
        ∀ field ∈ declared.privateFields, ∃ block ∈ items, block.IsInherentFor declared.name ∧
          block.DeclaresFunction (Naming.setterName field.name.text) := by
  obtain ⟨items, read, ran⟩ := exists_of_runSource ran
  obtain ⟨results, came, counted⟩ := exists_outcomes ran
  refine ⟨items, results, read, came, counted, ?_⟩
  rintro before item after declared path rfl marked made written field inside
  obtain ⟨front, target, back, whole, place, grown⟩ :=
    Target.exists_grown_of_declared before after marked made
  rw [whole] at came
  rw [← place] at written
  obtain ⟨earlier, later, produced⟩ := exists_produce_of_outcomes came written
  exact grown.exists_declares (fun member => Target.kind_of_mem_declared made)
    (hasMethod_of_produce validates produced (by rwa [grown.privateFields_eq]))

/-- Counting a single path comes from an outcome with that path. -/
lemma head_of_count {results : List (Except Failure String)} {path : String}
    (counted : ⟨[path], 0⟩ = results.foldr Summary.count .empty) :
    results[0]? = some (.ok path) := by
  cases results with
  | nil => cases counted
  | cons outcome results =>
    cases outcome with
    | ok written =>
      simp only [List.foldr_cons, Summary.count, Summary.mk.injEq, List.cons.injEq] at counted
      rw [counted.1.1]
      rfl
    | error failure => simp [Summary.count] at counted

/-- A structure with a private field and the setter for it. -/
def settled : String :=
  "#[builder] struct A { a: u8 } impl A { fn set_a(&mut self, a: u8) {} }"

/-- A structure with a private field and a setter of another type of the same name. -/
def strayed : String :=
  "#[builder] struct A { a: u8 } impl other::A { fn set_a(&mut self, a: u8) {} }"

/-- A structure with a private field and a function that is called like the setter for it. -/
def misshapen : String :=
  "#[builder] struct A { a: u8 } impl A { fn set_a() {} }"

/-- A structure with a private field and a method that is called like the setter for it. -/
def checkedTarget : Target :=
  .bare "A" [.ofField "a" "u8", ⟨.plain "set_a", .method, .inherited, none⟩]

/-- There is a layout of its builder. -/
def Laid.checked : Laid where
  target := checkedTarget
  holder := .plain "a"
  usable := rfl
  laid := by decide +kernel

/-- There is a builder for it although setters are checked. -/
lemma exists_runSource_checked (source : String)
    (found : (readSource source).map (Target.discover "") = .ok [checkedTarget]) :
    ∃ after, runSource (.memory fun _ => false) ⟨.validate, true⟩ "" source (.start .empty) =
      .ok (.ok ⟨["ABuilder.rs"], 0⟩, after) := by
  obtain ⟨after, ran, -⟩ := runSource_memory found
    (List.forall_mem_singleton.2 ⟨Laid.checked.proceeds ⟨.validate, true⟩, by decide⟩)
    (.start .empty)
  have path : [checkedTarget].map Target.builderPath = ["ABuilder.rs"] := by decide +kernel
  exact ⟨after, path ▸ ran⟩

/-- A structure with a setter is written, and the setter is in a block of its text. -/
theorem written_declares_settled :
    ∃ items after, readSource settled = .ok items ∧
      runSource (.memory fun _ => false) ⟨.validate, true⟩ "" settled (.start .empty) =
        .ok (.ok ⟨["ABuilder.rs"], 0⟩, after) ∧
      ∃ block ∈ items, block.IsInherentFor (.plain "A") ∧ block.DeclaresFunction "set_a" := by
  obtain ⟨after, ran⟩ := exists_runSource_checked settled (by
    unfold settled
    rw [readSource_eq, String.toList_ofList]
    decide +kernel)
  obtain ⟨items, results, read, -, counted, each⟩ := written_declares rfl ran
  refine ⟨items, after, read, ran, ?_⟩
  have shape : (readSource settled).map (fun items =>
      (items.map Target.isMarkedStruct, items.map fun item =>
        (Target.ofDeclaration "" item).toOption)) =
      .ok ([true, false], [some (.bare "A" [.ofField "a" "u8"]), none]) := by
    unfold settled
    rw [readSource_eq, String.toList_ofList]
    decide +kernel
  rw [read] at shape
  simp only [Except.map, Except.ok.injEq, Prod.mk.injEq] at shape
  obtain ⟨item, block, rfl⟩ := List.length_eq_two.1 (by simpa using congrArg List.length shape.1)
  simp only [List.map_cons, List.map_nil, List.cons.injEq] at shape
  obtain ⟨⟨marked, -⟩, alone, -⟩ := shape
  cases made : Target.ofDeclaration "" item with
  | error rejection =>
    rw [made] at alone
    cases alone
  | ok declared =>
    rw [made] at alone
    cases alone
    exact each [] item [block] _ _ rfl marked made (head_of_count counted)
      ⟨.plain "a", .named "u8"⟩ (by decide)

/-- The names in the path of the type that a block is for. -/
def selfNames (block : Tree) : List Name :=
  match block.type? with
  | some (.node (.type .path) [path]) => (path.children .segment).filterMap Tree.segmentName?
  | _ => []

/-- How many objects and how many other arguments a function takes. -/
def argumentCounts (function : Tree) : Nat × Nat :=
  match function.parts.find? (fun part => part matches .group .paren _) with
  | some arguments => ((arguments.children .receiver).length,
      (arguments.children .parameter).length)
  | none => (0, 0)

/-- The functions between the braces of a block, each with its name and what it takes. -/
def functionShapes (block : Tree) : List (Option Name × Nat × Nat) :=
  block.parts.flatMap fun part =>
    match part with
    | .group .brace parts => (parts.filter (·.isA (.item .function))).map fun function =>
      (function.declaredName? "fn", argumentCounts function)
    | _ => []

/-- What a block is for, and the functions in it. -/
structure BlockShape where
  names : List Name
  functions : List (Option Name × Nat × Nat)
deriving DecidableEq

/-- The blocks of a text that are not for traits. -/
def blockShapes (items : List Tree) : List BlockShape :=
  (items.filter (·.isA (.item (.implementation false)))).map fun block =>
    ⟨selfNames block, functionShapes block⟩

/-- A text is written, and its blocks are known, from what its items are found to be. -/
lemma exists_shapes (source : String) (shape : List BlockShape)
    (shaped : (readSource source).map (fun items => (Target.discover "" items,
        (items.filter Target.isMarkedStruct).map fun item => (Target.ofDeclaration "" item).toOption,
        blockShapes items)) =
      .ok ([checkedTarget], [some (.bare "A" [.ofField "a" "u8"])], shape)) :
    ∃ items after, readSource source = .ok items ∧
      (items.filter Target.isMarkedStruct).map (fun item =>
        (Target.ofDeclaration "" item).toOption) = [some (.bare "A" [.ofField "a" "u8"])] ∧
      runSource (.memory fun _ => false) ⟨.validate, true⟩ "" source (.start .empty) =
        .ok (.ok ⟨["ABuilder.rs"], 0⟩, after) ∧
      blockShapes items = shape := by
  cases read : readSource source with
  | error fault =>
    rw [read] at shaped
    cases shaped
  | ok items =>
    rw [read] at shaped
    simp only [Except.map, Except.ok.injEq, Prod.mk.injEq] at shaped
    obtain ⟨found, alone, blocks⟩ := shaped
    obtain ⟨after, ran⟩ := exists_runSource_checked source (by rw [read, Except.map, found])
    exact ⟨items, after, rfl, alone, ran, blocks⟩

/--
A structure with a private field is written although the only block of the text is for another type
of its name, and although the only function of the text takes neither an object nor a value.
-/
theorem written_elsewhere :
    (∃ items after, readSource strayed = .ok items ∧
      (items.filter Target.isMarkedStruct).map (fun item =>
        (Target.ofDeclaration "" item).toOption) = [some (.bare "A" [.ofField "a" "u8"])] ∧
      runSource (.memory fun _ => false) ⟨.validate, true⟩ "" strayed (.start .empty) =
        .ok (.ok ⟨["ABuilder.rs"], 0⟩, after) ∧
      blockShapes items = [⟨[.plain "other", .plain "A"], [(some (.plain "set_a"), 1, 1)]⟩]) ∧
    ∃ items after, readSource misshapen = .ok items ∧
      (items.filter Target.isMarkedStruct).map (fun item =>
        (Target.ofDeclaration "" item).toOption) = [some (.bare "A" [.ofField "a" "u8"])] ∧
      runSource (.memory fun _ => false) ⟨.validate, true⟩ "" misshapen (.start .empty) =
        .ok (.ok ⟨["ABuilder.rs"], 0⟩, after) ∧
      blockShapes items = [⟨[.plain "A"], [(some (.plain "set_a"), 0, 0)]⟩] := by
  refine ⟨exists_shapes strayed _ ?_, exists_shapes misshapen _ ?_⟩
  · unfold strayed
    rw [readSource_eq, String.toList_ofList]
    decide +kernel
  · unfold misshapen
    rw [readSource_eq, String.toList_ofList]
    decide +kernel

end Round

end FluentGen
