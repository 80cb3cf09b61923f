import FluentGen.Proofs.Output.Store
import FluentGen.Proofs.Round.Accounting

/-!
# Rounds that are repeated

A round over the same targets that starts from what the first one has left changes nothing in the
store, comes to the same and reports the same once more (`Round.run_repeats`). Targets that share a
path overwrite one another again in the same order.
-/

namespace FluentGen.Round

section

variable (refusal : String → Option IoError) (config : Config)

/-- The text that a target puts into a store, and the path that it puts it under. -/
def deposit? (target : Target) : Option (String × String) :=
  match fails refusal config target, target.source config with
  | false, .ok text => some (target.builderPath, text)
  | _, _ => none

variable {refusal config}

/-- What a target leaves is its deposit. -/
lemma leave_eq (store : Store) (target : Target) :
    leave refusal config store target =
      match deposit? refusal config target with
      | some file => store.insert file.1 file.2
      | none => store := by
  rw [leave, deposit?]
  cases fails refusal config target with
  | true => rfl
  | false => cases target.source config <;> rfl

/-- What targets leave are their deposits, one after another. -/
lemma foldl_leave (targets : List Target) (store : Store) :
    targets.foldl (leave refusal config) store =
      store.insertAll (targets.filterMap (deposit? refusal config)) := by
  induction targets generalizing store with
  | nil => rfl
  | cons target targets ih =>
    rw [List.foldl_cons, ih, leave_eq, List.filterMap_cons]
    cases deposit? refusal config target <;> rfl

/-- What targets leave they may leave once more. -/
lemma foldl_leave_foldl_leave (targets : List Target) (store : Store) :
    targets.foldl (leave refusal config) (targets.foldl (leave refusal config) store) =
      targets.foldl (leave refusal config) store := by
  rw [foldl_leave, foldl_leave, Store.insertAll_insertAll]

end

/--
A second round over targets that proceed leaves the store as the first one has left it, has the same
summary, and adds the same diagnostics once more.
-/
theorem run_repeats (refusal : String → Option IoError) (config : Config) (targets : List Target)
    (work : Work Store) (proceeds : ∀ target ∈ targets, Proceeds config target) :
    ∃ summary after again reported,
      run (.guarded refusal) config targets work = .ok (summary, after) ∧
      run (.guarded refusal) config targets after = .ok (summary, again) ∧
      again.output = after.output ∧
      after.diagnostics = work.diagnostics ++ reported ∧
      again.diagnostics = after.diagnostics ++ reported := by
  obtain ⟨after, ran, output, reported⟩ := run_guarded refusal proceeds work
  obtain ⟨again, repeated, output', reported'⟩ := run_guarded refusal proceeds after
  refine ⟨_, after, again, _, ran, repeated, ?_, reported, reported'⟩
  rw [output', output, foldl_leave_foldl_leave]

/-- A structure without a setter, two structures of one name, and a structure with another one. -/
def sharing : List Target :=
  [.bare "A" [.ofField "a" "u8"], .bare "B" [], .bare "B" [.ofField "b" "u8", .ofMethod "set_b"],
    .bare "C" []]

/-- The one of them that has a setter. -/
def Laid.settable : Laid where
  target := .bare "B" [.ofField "b" "u8", .ofMethod "set_b"]
  holder := .plain "b"
  usable := rfl
  laid := by decide +kernel

/-- None of them halts a round. -/
lemma proceeds_sharing : ∀ target ∈ sharing, Proceeds ⟨.validate, true⟩ target := by
  have lacking : Proceeds ⟨.validate, true⟩ (.bare "A" [.ofField "a" "u8"]) :=
    ⟨by decide, .inl (by decide)⟩
  exact List.forall_mem_cons.2 ⟨lacking, List.forall_mem_cons.2 ⟨Laid.bareB.proceeds _,
    List.forall_mem_cons.2 ⟨Laid.settable.proceeds _,
      List.forall_mem_singleton.2 (Laid.bareC.proceeds _)⟩⟩⟩

/--
Of four targets one lacks a setter, two share a path that is in the store with another spelling, and
one is refused. A second round over them leaves the store alone.
-/
theorem run_repeats_sharing :
    ∃ after again,
      run (.memory (· == "CBuilder.rs")) ⟨.validate, true⟩ sharing
          (.start ⟨[("BBuilder.rs/", "")]⟩) =
        .ok (⟨["BBuilder.rs", "BBuilder.rs"], 2⟩, after) ∧
      run (.memory (· == "CBuilder.rs")) ⟨.validate, true⟩ sharing after =
        .ok (⟨["BBuilder.rs", "BBuilder.rs"], 2⟩, again) ∧
      again.output = after.output ∧
      again.diagnostics = after.diagnostics ++ after.diagnostics := by
  obtain ⟨summary, after, again, reported, ran, repeated, same, first, second⟩ := run_repeats
    (fun path => if path == "CBuilder.rs" then some .readOnly else none) ⟨.validate, true⟩ sharing
    (.start ⟨[("BBuilder.rs/", "")]⟩) proceeds_sharing
  have summed : sharing.foldr (tally (fun path => if path == "CBuilder.rs" then some .readOnly
      else none) ⟨.validate, true⟩) .empty = ⟨["BBuilder.rs", "BBuilder.rs"], 2⟩ := by
    decide +kernel
  obtain ⟨known, ran', -⟩ := run_guarded
    (fun path => if path == "CBuilder.rs" then some .readOnly else none) proceeds_sharing
    (.start ⟨[("BBuilder.rs/", "")]⟩)
  obtain ⟨rfl, rfl⟩ := Prod.mk.inj (Except.ok.inj (ran.symm.trans ran'))
  rw [summed] at ran repeated
  have started : after.diagnostics = reported := first
  exact ⟨after, again, ran, repeated, same, by rw [second, started]⟩

/--
There is nothing to repeat of a round over the lone underscore, nor of one over a structure with a
type that has no layout.
-/
theorem no_repetition_halted :
    (¬∃ summary after again reported,
      run (.guarded fun _ => none) ⟨.trust, true⟩ [.bare "_" []] (.start .empty) =
        .ok (summary, after) ∧
      run (.guarded fun _ => none) ⟨.trust, true⟩ [.bare "_" []] after = .ok (summary, again) ∧
      again.output = after.output ∧ after.diagnostics = reported ∧
      again.diagnostics = after.diagnostics ++ reported) ∧
    ¬∃ summary after again reported,
      run (.guarded fun _ => none) ⟨.trust, true⟩ [textual] (.start .empty) =
        .ok (summary, after) ∧
      run (.guarded fun _ => none) ⟨.trust, true⟩ [textual] after = .ok (summary, again) ∧
      again.output = after.output ∧ after.diagnostics = reported ∧
      again.diagnostics = after.diagnostics ++ reported := by
  have halted {target : Target} (stops : ¬Proceeds ⟨.trust, true⟩ target) (result) :
      run (.guarded fun _ => none) ⟨.trust, true⟩ [target] (.start .empty) ≠ .ok result :=
    fun ran => stops ((exists_run_iff _ _ _).1 ⟨_, ran⟩ _ List.mem_cons_self)
  constructor
  · rintro ⟨summary, after, -, -, ran, -⟩
    exact halted (fun proceeds => proceeds.1 rfl) _ ran
  · rintro ⟨summary, after, -, -, ran, -⟩
    exact halted (not_proceeds_textual .trust) _ ran

end FluentGen.Round
