import FluentGen.Proofs.Builder.Location
import FluentGen.Proofs.Output.Store
import FluentGen.Proofs.Round.Outcome
import FluentGen.Proofs.Target.Declaration
import FluentGen.Proofs.Token.Lexer

/-!
# What a round keeps

The builders in a store after a round over a source text that does not check setters. The path of a
builder tells its target from all others with another name, so that only a later target of the same
name can take it (`Round.written_kept`), which happens without a trace (`Round.written_lost`).
-/

namespace FluentGen

namespace Target

/-- Every target of a file is that of a marked structure in it, grown by blocks. -/
lemma exists_of_mem_discover {package : String} {items : List Tree} {target : Target}
    (inside : target ∈ discover package items) :
    ∃ item ∈ items, isMarkedStruct item = true ∧
      ∃ origin, ofStruct? package item = some origin ∧ Grown items origin target := by
  have among : ∀ {origins targets}, List.Forall₂ (Grown items) origins targets →
      target ∈ targets → ∃ origin ∈ origins, Grown items origin target := by
    intro origins targets grown inside
    induction grown with
    | nil => cases inside
    | cons here _ ih =>
      rcases List.mem_cons.1 inside with rfl | later
      · exact ⟨_, List.mem_cons_self, here⟩
      · obtain ⟨origin, inside, grown⟩ := ih later
        exact ⟨origin, List.mem_cons_of_mem _ inside, grown⟩
  obtain ⟨origin, found, grown⟩ := among (grown_discover package items) inside
  obtain ⟨item, kept, made⟩ := List.mem_filterMap.1 found
  obtain ⟨inside, marked⟩ := List.mem_filter.1 kept
  exact ⟨item, inside, (Bool.and_eq_true_iff.1 marked).1, origin, made, grown⟩

/-- The targets in a source text are called by identifiers, and are all in the same module. -/
lemma isWordy_of_mem_discover {package source : String} {items : List Tree}
    (read : readSource source = .ok items) {target : Target}
    (inside : target ∈ discover package items) :
    target.package = package ∧ target.name.IsWordy := by
  obtain ⟨item, among, marked, origin, made, grown⟩ := exists_of_mem_discover inside
  obtain ⟨tokens, name, lexed, named, token⟩ := declaredName_of_readSource read among
    (Bool.and_eq_true_iff.1 marked).1
  rw [ofStruct?, named] at made
  obtain ⟨members, rfl, -⟩ := grown
  cases made
  exact ⟨rfl, Token.isWordy_of_ofText lexed token⟩

/-- The builders of targets in one module have different paths if the targets' names differ. -/
lemma samePath_builderPath {target other : Target} (package : target.package = other.package)
    (wordy : target.name.IsWordy) (wordy' : other.name.IsWordy)
    (apart : target.name.text ≠ other.name.text) :
    Store.samePath target.builderPath other.builderPath = false := by
  refine beq_eq_false_iff_ne.2 fun same => apart ?_
  rw [Builder.builderPath_eq_join, Builder.builderPath_eq_join, package] at same
  have files := (Builder.isFileName_fileName wordy).eq_of_components_join
    (Builder.isFileName_fileName wordy') same
  exact (String.append_left_inj _).1 files

/-- A text of the builder of a target is one of a builder that the target has. -/
lemma exists_builder_of_source {target : Target} {config : Config} {text : String}
    (written : target.source config = .ok text) :
    ∃ builder, Builder.ofTarget target = .ok builder ∧ builder.source config.header = .ok text ∧
      builder.relativePath = target.builderPath := by
  rcases Builder.ofTarget_cases target with ⟨-, fault⟩ | ⟨-, holder, made⟩
  · rw [source, fault] at written
    cases written
  · rw [source_of_builder made] at written
    cases laid : (target.builder holder).source config.header with
    | error part =>
      rw [laid] at written
      cases written
    | ok body =>
      rw [laid] at written
      cases written
      exact ⟨_, made, laid, rfl⟩

end Target

namespace Round

section

variable (refusal : String → Option IoError) {config : Config}

/-- What a target that passes leaves in a store. -/
lemma exists_leave {target : Target} (proceeds : Proceeds config target)
    (admitted : rejects config target = false) (passes : fails refusal config target = false)
    (store : Store) :
    ∃ text, target.source config = .ok text ∧
      leave refusal config store target = store.insert target.builderPath text := by
  obtain ⟨text, written⟩ := proceeds.2.resolve_left (by simp [admitted])
  exact ⟨text, written, by rw [leave, passes, written]⟩

/-- Targets leave what is under the paths of others alone. -/
lemma get?_foldl_leave {targets : List Target} {path : String}
    (apart : ∀ target ∈ targets, Store.samePath target.builderPath path = false)
    (store : Store) :
    (targets.foldl (leave refusal config) store).get? path = store.get? path := by
  induction targets generalizing store with
  | nil => rfl
  | cons target targets ih =>
    obtain ⟨here, others⟩ := List.forall_mem_cons.1 apart
    rw [List.foldl_cons, ih others, leave]
    split
    · rw [Store.get?_insert, here]
      rfl
    · rfl

end

/--
After a round over a source text that does not check setters and writes into a store, no target has
failed, and every target that is not followed by another one of its name has its builder in the
store, whatever was there before.
-/
theorem written_kept {config : Config} (trusts : config.setterPolicy = .trust)
    {package source : String} {work after : Work Store} {summary : Summary}
    (ran : runSource (.memory fun _ => false) config package source work =
      .ok (.ok summary, after)) :
    summary.failed = 0 ∧ ∃ items, readSource source = .ok items ∧
      ∀ front target back, Target.discover package items = front ++ target :: back →
        (∀ other ∈ back, other.name.text ≠ target.name.text) →
        ∃ builder text, Builder.ofTarget target = .ok builder ∧
          builder.source config.header = .ok text ∧
          after.output.get? builder.relativePath = some text := by
  obtain ⟨items, read, ran⟩ := exists_of_runSource ran
  have admitted (target : Target) : rejects config target = false := by simp [rejects, trusts]
  have passes (target : Target) : fails (fun _ => none) config target = false := by
    rw [fails, admitted]
    rfl
  have proceeds := (exists_run_iff _ _ _).1 ⟨_, ran⟩
  obtain ⟨final, again, output, -⟩ := run_guarded (fun _ => none) proceeds
    (work.note (discoveryEvents package items (Target.discover package items)))
  obtain ⟨rfl, rfl⟩ := Prod.mk.inj (Except.ok.inj (again.symm.trans ran))
  refine ⟨?_, items, read, fun front target back whole last => ?_⟩
  · rw [foldr_tally]
    exact List.countP_eq_zero.2 fun target _ => by simp [passes]
  · have wordy (other : Target) (inside : other ∈ target :: back) :
        other.package = package ∧ other.name.IsWordy :=
      Target.isWordy_of_mem_discover read
        (whole ▸ List.mem_append_right front inside)
    obtain ⟨samePackage, isWordy⟩ := wordy target List.mem_cons_self
    -- the targets behind it have other paths
    have apart : ∀ other ∈ back,
        Store.samePath other.builderPath target.builderPath = false := by
      intro other inside
      obtain ⟨otherPackage, otherWordy⟩ := wordy other (List.mem_cons_of_mem _ inside)
      exact Target.samePath_builderPath (otherPackage.trans samePackage.symm) otherWordy isWordy
        (last other inside)
    obtain ⟨text, written, left⟩ := exists_leave (fun _ => none)
      (proceeds target (by rw [whole]; simp)) (admitted target) (passes target)
      (front.foldl (leave (fun _ => none) config) work.output)
    obtain ⟨builder, made, laid, path⟩ := Target.exists_builder_of_source written
    refine ⟨builder, text, made, laid, ?_⟩
    rw [path, output, whole, List.foldl_append, List.foldl_cons, get?_foldl_leave _ apart]
    show Store.get? (leave _ _ (front.foldl _ work.output) target) _ = _
    rw [left, Store.get?_insert]
    simp [Store.samePath]

/-- Two structures of different names. -/
def distinct : String :=
  "#[builder] struct A { x: u8 } #[builder] struct B;"

/-- Two structures of one name, of which only one is ever compiled. -/
def clashing : String :=
  "#[builder] #[cfg(a)] struct A { x: u8 } #[builder] #[cfg(b)] struct A { y: u8 }"

/-- The structure that comes first among those of one name. -/
def overwritten : Target :=
  .bare "A" [.ofField "x" "u8"]

/-- The structure that comes last among them. -/
def overwriting : Target :=
  .bare "A" [.ofField "y" "u8"]

/-- There is a layout of the builder of the first one. -/
def Laid.overwritten : Laid where
  target := Round.overwritten
  holder := .plain "a"
  usable := rfl
  laid := by decide +kernel

/-- There is a layout of the builder of the last one. -/
def Laid.overwriting : Laid where
  target := Round.overwriting
  holder := .plain "a"
  usable := rfl
  laid := by decide +kernel

/-- A target that never halts a round passes one that does not check setters. -/
lemma Laid.passes (sample : Laid) :
    Proceeds ⟨.trust, true⟩ sample.target ∧ rejects ⟨.trust, true⟩ sample.target = false :=
  ⟨sample.proceeds _, rfl⟩

/-- Both builders of two structures with different names are kept. -/
theorem written_kept_distinct :
    ∃ after, runSource (.memory fun _ => false) ⟨.trust, true⟩ "" distinct (.start .empty) =
        .ok (.ok ⟨["ABuilder.rs", "BBuilder.rs"], 0⟩, after) ∧
      ∀ target ∈ [Target.bare "A" [.ofField "x" "u8"], .bare "B" []],
        ∃ builder text, Builder.ofTarget target = .ok builder ∧ builder.source true = .ok text ∧
          after.output.get? builder.relativePath = some text := by
  have found : (readSource distinct).map (Target.discover "") =
      .ok [.bare "A" [.ofField "x" "u8"], .bare "B" []] := by
    unfold distinct
    rw [readSource_eq, String.toList_ofList]
    decide +kernel
  obtain ⟨after, ran, -⟩ := runSource_memory found (List.forall_mem_cons.2
    ⟨Laid.overwritten.passes, List.forall_mem_singleton.2 Laid.bareB.passes⟩) (.start .empty)
  have paths : [Target.bare "A" [.ofField "x" "u8"], .bare "B" []].map Target.builderPath =
      ["ABuilder.rs", "BBuilder.rs"] := by
    decide +kernel
  rw [paths] at ran
  obtain ⟨-, items, read, kept⟩ := written_kept rfl ran
  rw [read] at found
  refine ⟨after, ran, List.forall_mem_cons.2 ⟨?_, List.forall_mem_singleton.2 ?_⟩⟩
  · exact kept [] _ _ (Except.ok.inj found) (by decide)
  · exact kept [_] _ [] (Except.ok.inj found) nofun

/--
Of two structures with one name only the builder of the last one is kept, although the round says
that both have been written.
-/
theorem written_lost :
    ∃ after own other,
      (readSource clashing).map (Target.discover "") = .ok [overwritten, overwriting] ∧
      runSource (.memory fun _ => false) ⟨.trust, true⟩ "" clashing (.start .empty) =
        .ok (.ok ⟨["ABuilder.rs", "ABuilder.rs"], 0⟩, after) ∧
      overwritten.source ⟨.trust, true⟩ = .ok own ∧ overwritten.builderPath = "ABuilder.rs" ∧
      after.output.get? "ABuilder.rs" = some other ∧ other ≠ own := by
  have found : (readSource clashing).map (Target.discover "") =
      .ok [overwritten, overwriting] := by
    unfold clashing
    rw [readSource_eq, String.toList_ofList]
    decide +kernel
  have first : Proceeds ⟨.trust, true⟩ overwritten ∧ rejects ⟨.trust, true⟩ overwritten = false :=
    Laid.overwritten.passes
  have second : Proceeds ⟨.trust, true⟩ overwriting ∧ rejects ⟨.trust, true⟩ overwriting = false :=
    Laid.overwriting.passes
  obtain ⟨after, ran, output⟩ := runSource_memory found
    (List.forall_mem_cons.2 ⟨first, List.forall_mem_singleton.2 second⟩) (.start .empty)
  obtain ⟨own, laid, left⟩ := exists_leave (fun _ => none) first.1 first.2 rfl .empty
  obtain ⟨other, laid', left'⟩ := exists_leave (fun _ => none) second.1 second.2 rfl
    (leave (fun _ => none) ⟨.trust, true⟩ .empty overwritten)
  have path : overwritten.builderPath = "ABuilder.rs" := by decide +kernel
  have path' : overwriting.builderPath = "ABuilder.rs" := by decide +kernel
  rw [List.map_cons, List.map_singleton, path, path'] at ran
  refine ⟨after, own, other, found, ran, laid, path, ?_, ?_⟩
  · rw [output, List.foldl_cons, List.foldl_cons, List.foldl_nil]
    show Store.get? (leave _ _ (leave _ _ .empty overwritten) overwriting) _ = _
    rw [left', path', Store.get?_insert]
    simp [Store.samePath]
  · rintro rfl
    have apart : (overwritten.builder (.plain "a")).source true ≠
        (overwriting.builder (.plain "a")).source true := by
      decide +kernel
    obtain ⟨builder, made, text, -⟩ := Target.exists_builder_of_source laid
    obtain ⟨builder', made', text', -⟩ := Target.exists_builder_of_source laid'
    cases made.symm.trans (Builder.ofTarget_eq overwritten)
    cases made'.symm.trans (Builder.ofTarget_eq overwriting)
    exact apart (text.trans text'.symm)

end Round

end FluentGen
