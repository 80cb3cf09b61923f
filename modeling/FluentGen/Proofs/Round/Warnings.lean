import FluentGen.Proofs.Builder.Banner
import FluentGen.Proofs.Round.Outcome

/-!
# Warnings of a build script

Every diagnostic is printed as one line, as long as neither its message nor its element breaks the
line. Identifiers never do, so that the lines of a round are in order just if no module of a target
that is reported has a line feed (`Round.warns_in_lines`).
-/

namespace FluentGen

/-- The lines of a printed text, each without the line feed that ends it. -/
def Text.lines (text : String) : List (List Char) :=
  (text.toList.splitOn '\n').dropLast

open Text

/-- A field that a builder manages has the name of its member. -/
lemma Member.name_of_privateField? {member : Member} {field : Field}
    (shown : member.privateField? = some field) : member.name = field.name := by
  obtain ⟨name, kind, visibility, type⟩ := member
  cases kind <;> cases visibility <;> cases type <;> cases shown
  rfl

namespace Diagnostic

/-- What is printed of a diagnostic on its line. -/
def warning (diagnostic : Diagnostic) : List Char :=
  ("cargo:warning=" ++ diagnostic.text).toList

/-- No part of the diagnostic breaks its line. -/
def IsOneLine (diagnostic : Diagnostic) : Prop :=
  '\n' ∉ diagnostic.message.toList ∧ '\n' ∉ diagnostic.element.toList

/-- A warning has no line feed just if what it tells is one line. -/
lemma feed_mem_warning (diagnostic : Diagnostic) :
    '\n' ∉ diagnostic.warning ↔ diagnostic.IsOneLine := by
  have front : '\n' ∉ "cargo:warning=".toList := by decide
  have label : '\n' ∉ "error: ".toList := by decide
  have between : '\n' ∉ " (`".toList := by decide
  have back : '\n' ∉ "`)".toList := by decide
  simp only [warning, text, IsOneLine, toString, String.toList_append, List.mem_append, front,
    label, between, back, false_or, or_false, not_or]

/-- The lines that are printed are the pieces of what is printed of each diagnostic. -/
lemma lines_cargoText (diagnostics : List Diagnostic) :
    lines (cargoText diagnostics) = diagnostics.flatMap (·.warning.splitOn '\n') := by
  induction diagnostics with
  | nil => rfl
  | cons diagnostic diagnostics ih =>
    have printed : (cargoText (diagnostic :: diagnostics)).toList =
        diagnostic.warning ++ '\n' :: (cargoText diagnostics).toList := by
      unfold cargoText
      rw [List.map_cons, String.join_cons, String.toList_append]
      unfold cargoLine
      rw [String.toList_append, List.append_assoc]
      rfl
    rw [lines, printed, List.splitOn_append_cons_self, List.dropLast_append_of_ne_nil
      (List.splitOn_ne_nil _ _), List.flatMap_cons, ← ih, lines]

/-- One line is printed for each diagnostic, and one more for each line feed in one of them. -/
lemma length_lines_cargoText (diagnostics : List Diagnostic) :
    (lines (cargoText diagnostics)).length =
      diagnostics.length + (diagnostics.flatMap warning).count '\n' := by
  have pieces : ∀ text : List Char, (text.splitOn '\n').length = text.count '\n' + 1 := by
    intro text
    induction text with
    | nil => rfl
    | cons c text ih =>
      rw [List.splitOn_cons_eq_if_modifyHead, List.count_cons]
      split <;> simp_all
  rw [lines_cargoText]
  induction diagnostics with
  | nil => rfl
  | cons diagnostic diagnostics ih =>
    rw [List.flatMap_cons, List.length_append, ih, pieces, List.flatMap_cons, List.count_append,
      List.length_cons]
    omega

/-- As many lines as diagnostics are printed just if no diagnostic breaks its line. -/
lemma length_lines_eq_iff (diagnostics : List Diagnostic) :
    (lines (cargoText diagnostics)).length = diagnostics.length ↔
      ∀ diagnostic ∈ diagnostics, diagnostic.IsOneLine := by
  simp only [length_lines_cargoText, Nat.add_eq_left, List.count_eq_zero, List.mem_flatMap,
    not_exists, not_and, feed_mem_warning]

/-- If none does, the lines are the warnings in the order of the diagnostics. -/
lemma lines_of_isOneLine {diagnostics : List Diagnostic}
    (whole : ∀ diagnostic ∈ diagnostics, diagnostic.IsOneLine) :
    lines (cargoText diagnostics) = diagnostics.map warning := by
  rw [lines_cargoText, List.map_eq_flatMap]
  apply List.flatMap_congr
  intro diagnostic mem
  exact List.splitOn_eq_singleton ((feed_mem_warning diagnostic).2 (whole diagnostic mem))

end Diagnostic

namespace Target

/-- The names of the target and of its members are identifiers. -/
def IsWordy (target : Target) : Prop :=
  target.name.IsWordy ∧ ∀ member ∈ target.members, member.name.IsWordy

variable {target : Target}

/-- A setter that is missing is called after a field, which has no line feed in its name. -/
lemma IsWordy.feed_notMem_lackingSetters (wordy : target.IsWordy) {setter : String}
    (lacking : setter ∈ target.lackingSetters) : '\n' ∉ setter.toList := by
  rw [lackingSetters, missingSetters, List.mem_filter, List.mem_map] at lacking
  obtain ⟨⟨field, selected, rfl⟩, -⟩ := lacking
  obtain ⟨member, mem, shown⟩ := List.mem_filterMap.1 selected
  have name := (wordy.2 member mem).feed_notMem
  rw [Member.name_of_privateField? shown] at name
  simp [Naming.setterName, name]

/-- What a round may report about a target. -/
def IsToldBy (target : Target) (diagnostic : Diagnostic) : Prop :=
  diagnostic = target.writeReport ∨
    ∃ setter ∈ target.lackingSetters, diagnostic = target.missingReport setter

/-- What tells of a target names it. -/
lemma IsToldBy.element_eq {diagnostic : Diagnostic} (told : target.IsToldBy diagnostic) :
    diagnostic.element = target.qualifiedName := by
  rcases told with rfl | ⟨setter, -, rfl⟩ <;> rfl

/-- No message about identifiers breaks its line. -/
lemma IsToldBy.feed_notMem {diagnostic : Diagnostic} (told : target.IsToldBy diagnostic)
    (wordy : target.IsWordy) : '\n' ∉ diagnostic.message.toList := by
  rcases told with rfl | ⟨setter, lacking, rfl⟩
  · have message : '\n' ∉ "Failed to write file for element".toList := by decide
    exact message
  · have message : (target.missingReport setter).message.toList =
        "missing conventional setter `".toList ++ setter.toList ++ "`".toList := by
      rw [← String.toList_append, ← String.toList_append]
      rfl
    rw [message, List.mem_append, List.mem_append]
    rintro ((front | inside) | back)
    · exact absurd front (by decide)
    · exact wordy.feed_notMem_lackingSetters lacking inside
    · exact absurd back (by decide)

/-- A diagnostic about identifiers is one line just if the module of its target is. -/
lemma IsToldBy.isOneLine_iff {diagnostic : Diagnostic} (told : target.IsToldBy diagnostic)
    (wordy : target.IsWordy) : diagnostic.IsOneLine ↔ '\n' ∉ target.package.toList := by
  rw [Diagnostic.IsOneLine, told.element_eq, feed_mem_qualifiedName wordy.1]
  exact and_iff_right (told.feed_notMem wordy)

end Target

namespace Round

open Diagnostic

section

variable {σ : Type} {output : Output σ} {config : Config}

/-- A text that cannot be written is the only reason to report its builder. -/
lemma diagnostics_deliver (output : Output σ) (target : Target) (holder : Name) (text : String)
    (work : Work σ) : ∃ told, (deliver output (target.builder holder) text work).2.diagnostics =
      work.diagnostics ++ told ∧ ∀ diagnostic ∈ told, target.IsToldBy diagnostic := by
  rw [deliver]
  rcases output.write (target.builder holder).relativePath text work.output with
    ⟨error | written, state⟩
  · exact ⟨[target.writeReport], rfl, List.forall_mem_singleton.2 (.inl rfl)⟩
  · exact ⟨[], (List.append_nil _).symm, List.forall_mem_nil _⟩

/-- What is reported while one target has its turn is about this target. -/
lemma produce_tells {target : Target} {work after : Work σ} {outcome : Except Failure String}
    (produced : produce output config target work = .ok (outcome, after)) :
    ∃ told, after.diagnostics = work.diagnostics ++ told ∧
      ∀ diagnostic ∈ told, target.IsToldBy diagnostic := by
  obtain ⟨named, turned⟩ := (exists_produce_iff output work).1 ⟨_, produced⟩
  cases verdict : rejects config target with
  | true =>
    rw [produce_rejected output work named verdict] at produced
    cases produced
    refine ⟨_, rfl, ?_⟩
    intro diagnostic mem
    obtain ⟨setter, lacking, rfl⟩ := List.mem_map.1 mem
    exact .inr ⟨setter, lacking, rfl⟩
  | false =>
    obtain ⟨text, written⟩ := turned.resolve_left (by simp [verdict])
    obtain ⟨holder, made⟩ := Builder.exists_ofTarget named
    obtain ⟨events, delivered⟩ := produce_admitted output work verdict made written
    have last : after = _ := (congrArg Prod.snd (Except.ok.inj (delivered.symm.trans produced))).symm
    rw [last]
    exact diagnostics_deliver output target holder text _

/-- What a round reports is about its targets. -/
lemma run_tells {targets : List Target} {work after : Work σ} {summary : Summary}
    (ran : run output config targets work = .ok (summary, after)) :
    ∃ told, after.diagnostics = work.diagnostics ++ told ∧
      ∀ diagnostic ∈ told, ∃ target ∈ targets, target.IsToldBy diagnostic := by
  induction targets generalizing work summary with
  | nil =>
    cases ran
    exact ⟨[], (List.append_nil _).symm, List.forall_mem_nil _⟩
  | cons target targets ih =>
    obtain ⟨⟨outcome, next⟩, produced, ran⟩ := exists_of_bind ran
    obtain ⟨⟨counted, last⟩, others, ran⟩ := exists_of_bind ran
    cases ran
    obtain ⟨here, reported, about⟩ := produce_tells produced
    obtain ⟨later, onward, others⟩ := ih others
    refine ⟨here ++ later, ?_, ?_⟩
    · rw [onward, diagnostics_noteOutcome, reported, List.append_assoc]
    · intro diagnostic mem
      rcases List.mem_append.1 mem with first | second
      · exact ⟨target, List.mem_cons_self, about diagnostic first⟩
      · obtain ⟨other, among, told⟩ := others diagnostic second
        exact ⟨other, List.mem_cons_of_mem _ among, told⟩

end

/--
As many lines as diagnostics are printed just if no diagnostic breaks its line, and then each line
is the warning of one diagnostic, in their order. In a round over targets that are called by
identifiers, this comes down to the modules of those targets that are reported.
-/
theorem warns_in_lines (diagnostics : List Diagnostic) :
    (((lines (cargoText diagnostics)).length = diagnostics.length ↔
        ∀ diagnostic ∈ diagnostics, diagnostic.IsOneLine) ∧
      ((∀ diagnostic ∈ diagnostics, diagnostic.IsOneLine) →
        lines (cargoText diagnostics) = diagnostics.map warning)) ∧
    ∀ {σ : Type} (output : Output σ) (config : Config) (targets : List Target) (state : σ)
      (summary : Summary) (after : Work σ), (∀ target ∈ targets, target.IsWordy) →
      run output config targets (.start state) = .ok (summary, after) →
      ((lines (cargoText after.diagnostics)).length = after.diagnostics.length ↔
        ∀ target ∈ targets, target.qualifiedName ∈ after.diagnostics.map (·.element) →
          '\n' ∉ target.package.toList) := by
  refine ⟨⟨length_lines_eq_iff diagnostics, lines_of_isOneLine⟩, ?_⟩
  intro σ output config targets state summary after wordy ran
  obtain ⟨told, reported, about⟩ := run_tells ran
  rw [length_lines_eq_iff, reported, Work.start, List.nil_append]
  constructor
  · intro whole target mem known
    obtain ⟨diagnostic, listed, element⟩ := List.mem_map.1 known
    rw [← Target.feed_mem_qualifiedName (wordy target mem).1, ← element]
    exact (whole diagnostic listed).2
  · intro clean diagnostic listed
    obtain ⟨target, mem, told⟩ := about diagnostic listed
    refine (told.isOneLine_iff (wordy target mem)).2 (clean target mem ?_)
    exact List.mem_map.2 ⟨diagnostic, listed, told.element_eq⟩

/-- A target that lacks a setter, in a module of the given name. -/
def starved (package : String) : Target :=
  { Target.bare "A" [.ofField "a" "u8"] with package := package }

/-- Such a target is reported once. -/
lemma exists_run_starved (package : String) : ∃ summary after,
    run (.guarded fun _ => none) ⟨.validate, true⟩ [starved package] (.start .empty) =
      .ok (summary, after) ∧
    after.diagnostics = [⟨"missing conventional setter `set_a`", qualify package "A"⟩] := by
  have named : "A" ≠ "_" := by decide
  have turned : Proceeds ⟨.validate, true⟩ (starved package) := ⟨named, .inl rfl⟩
  obtain ⟨after, ran, -, reported⟩ :=
    run_guarded (fun _ => none) (List.forall_mem_singleton.2 turned) (.start .empty)
  exact ⟨_, after, ran, reported⟩

/-- A report about a target in an orderly module is one line. -/
theorem warns_in_lines_orderly : ∃ summary after,
    run (.guarded fun _ => none) ⟨.validate, true⟩ [starved "a::b"] (.start .empty) =
      .ok (summary, after) ∧
    after.diagnostics.length = 1 ∧ (lines (cargoText after.diagnostics)).length = 1 := by
  obtain ⟨summary, after, ran, reported⟩ := exists_run_starved "a::b"
  have wordy : (starved "a::b").IsWordy := by
    refine ⟨?_, List.forall_mem_singleton.2 ?_⟩
    · exact List.all_iff_forall_prop.1 (by decide)
    · exact List.all_iff_forall_prop.1 (by decide)
  have whole := ((warns_in_lines after.diagnostics).2 _ _ _ _ _ _ (List.forall_mem_singleton.2 wordy) ran).2
    (List.forall_mem_singleton.2 fun _ => by decide)
  have once : after.diagnostics.length = 1 := by rw [reported]; rfl
  exact ⟨summary, after, ran, once, whole.trans once⟩

/-- Behind a line feed in a module a line begins that is no warning. -/
theorem warns_in_lines_broken : ∃ summary after,
    run (.guarded fun _ => none) ⟨.validate, true⟩ [starved "a\ncargo:rustc-cfg=b"]
      (.start .empty) = .ok (summary, after) ∧
    after.diagnostics.length = 1 ∧
    lines (cargoText after.diagnostics) =
      ["cargo:warning=error: missing conventional setter `set_a` (`a".toList,
        "cargo:rustc-cfg=b::A`)".toList] := by
  obtain ⟨summary, after, ran, reported⟩ := exists_run_starved "a\ncargo:rustc-cfg=b"
  refine ⟨summary, after, ran, ?_, ?_⟩
  · rw [reported]
    rfl
  · rw [reported]
    decide

end Round

end FluentGen
