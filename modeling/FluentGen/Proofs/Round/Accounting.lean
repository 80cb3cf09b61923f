import FluentGen.Proofs.Round.Step

/-!
# The accounts of a round

A round that writes into a store which refuses some of the paths: how many targets are written and
how many fail, what is reported about each of them, and what is in the store in the end. A target
that fails leaves no trace but its own diagnostics (`Round.run_accounts`).
-/

namespace FluentGen.Round

section

variable (refusal : String → Option IoError) (config : Config)

/-- Whether a target fails: it is turned away, or the path of its builder is refused. -/
def fails (target : Target) : Bool :=
  rejects config target || (refusal target.builderPath).isSome

/-- What a round reports about a target. -/
def reports (target : Target) : List Diagnostic :=
  if rejects config target then target.lackingSetters.map target.missingReport
  else if (refusal target.builderPath).isSome then [target.writeReport]
  else []

/-- What a target leaves in a store. -/
def leave (store : Store) (target : Target) : Store :=
  match fails refusal config target, target.source config with
  | false, .ok text => store.insert target.builderPath text
  | _, _ => store

/-- How a target adds to the outcome of the targets behind it. -/
def tally (target : Target) (rest : Summary) : Summary :=
  if fails refusal config target then { rest with failed := rest.failed + 1 }
  else { rest with written := target.builderPath :: rest.written }

end

section

variable {refusal : String → Option IoError} {config : Config} {target : Target}

/-- A target that fails leaves nothing. -/
lemma leave_of_fails (failing : fails refusal config target = true) (store : Store) :
    leave refusal config store target = store := by
  rw [leave, failing]

/-- A target that does not fail is not reported. -/
lemma reports_of_not_fails (passing : fails refusal config target = false) :
    reports refusal config target = [] := by
  obtain ⟨admitted, accepted⟩ := Bool.or_eq_false_iff.1 passing
  rw [reports, admitted, accepted]
  rfl

/-- One target of a round: its outcome, what it leaves in the store and what is reported. -/
lemma produce_guarded (refusal : String → Option IoError) (proceeds : Proceeds config target)
    (work : Work Store) :
    ∃ outcome after, produce (.guarded refusal) config target work = .ok (outcome, after) ∧
      (∀ rest : Summary, rest.count outcome = tally refusal config target rest) ∧
      after.output = leave refusal config work.output target ∧
      after.diagnostics = work.diagnostics ++ reports refusal config target := by
  cases verdict : rejects config target with
  | true =>
    have failing : fails refusal config target = true := by rw [fails, verdict, Bool.true_or]
    refine ⟨_, _, produce_rejected _ work proceeds.1 verdict, fun rest => ?_, ?_, ?_⟩
    · rw [tally, if_pos failing]
      rfl
    · rw [leave_of_fails failing]
      rfl
    · rw [reports, if_pos verdict]
  | false =>
    obtain ⟨text, written⟩ := proceeds.2.resolve_left (by simp [verdict])
    obtain ⟨holder, made⟩ := Builder.exists_ofTarget proceeds.1
    obtain ⟨events, produced⟩ := produce_admitted (.guarded refusal) work verdict made written
    refine ⟨_, _, produced, ?_⟩
    -- the target has a text, so that only the store can still refuse it
    simp only [tally, leave, reports, fails, verdict, written, Output.guarded,
      Target.relativePath_builder, Target.qualifiedTarget_builder]
    cases refusal target.builderPath with
    | none => exact ⟨fun rest => rfl, rfl, (List.append_nil _).symm⟩
    | some error => exact ⟨fun rest => rfl, rfl, rfl⟩

/-- Noting an outcome leaves the output alone. -/
@[simp]
lemma output_noteOutcome {σ : Type} (outcome : Except Failure String) (work : Work σ) :
    (noteOutcome target outcome work).output = work.output := by
  cases outcome <;> rfl

/-- Noting an outcome is no diagnostic. -/
@[simp]
lemma diagnostics_noteOutcome {σ : Type} (outcome : Except Failure String) (work : Work σ) :
    (noteOutcome target outcome work).diagnostics = work.diagnostics := by
  cases outcome <;> rfl

/-- A round comes to something just if all its targets proceed. -/
lemma exists_run_iff {σ : Type} (output : Output σ) (targets : List Target) (work : Work σ) :
    (∃ result, run output config targets work = .ok result) ↔
      ∀ target ∈ targets, Proceeds config target := by
  induction targets generalizing work with
  | nil => exact ⟨fun _ => nofun, fun _ => ⟨_, rfl⟩⟩
  | cons target targets ih =>
    rw [List.forall_mem_cons, ← exists_produce_iff output work, run]
    cases produced : produce output config target work with
    | error halt => simp [bind, Except.bind]
    | ok result =>
      obtain ⟨outcome, next⟩ := result
      rw [← ih (noteOutcome target outcome next)]
      simp only [bind, Except.bind]
      cases run output config targets (noteOutcome target outcome next) with
      | error halt => simp
      | ok rest => simp [pure, Except.pure]

/-- A round over targets that proceed, target by target. -/
lemma run_guarded (refusal : String → Option IoError) {targets : List Target}
    (proceeds : ∀ target ∈ targets, Proceeds config target) (work : Work Store) :
    ∃ after, run (.guarded refusal) config targets work =
        .ok (targets.foldr (tally refusal config) .empty, after) ∧
      after.output = targets.foldl (leave refusal config) work.output ∧
      after.diagnostics = work.diagnostics ++ targets.flatMap (reports refusal config) := by
  induction targets generalizing work with
  | nil => exact ⟨work, rfl, rfl, (List.append_nil _).symm⟩
  | cons target targets ih =>
    obtain ⟨here, others⟩ := List.forall_mem_cons.1 proceeds
    obtain ⟨outcome, next, produced, counted, output, reported⟩ :=
      produce_guarded refusal here work
    -- the others start from whatever work the first has left
    obtain ⟨after, ran, onward, more⟩ := ih others (noteOutcome target outcome next)
    refine ⟨after, ?_, ?_, ?_⟩
    · rw [run, produced]
      show run _ _ _ _ >>= _ = _
      rw [ran, List.foldr_cons, ← counted]
      rfl
    · rw [onward, output_noteOutcome, output, List.foldl_cons]
    · rw [more, diagnostics_noteOutcome, reported, List.flatMap_cons, List.append_assoc]

/-- The outcome of all targets lists the paths of those that pass, and counts those that fail. -/
lemma foldr_tally (targets : List Target) :
    targets.foldr (tally refusal config) .empty =
      ⟨(targets.filter fun target => !fails refusal config target).map Target.builderPath,
        targets.countP (fails refusal config)⟩ := by
  induction targets with
  | nil => rfl
  | cons target targets ih =>
    rw [List.foldr_cons, ih, tally]
    cases verdict : fails refusal config target <;> simp [verdict]

/-- Targets that fail may be left out when it comes to the store. -/
lemma foldl_leave_filter (targets : List Target) (store : Store) :
    (targets.filter fun target => !fails refusal config target).foldl
      (leave refusal config) store = targets.foldl (leave refusal config) store := by
  rw [List.foldl_filter]
  congr
  funext store target
  cases verdict : fails refusal config target with
  | true => exact (leave_of_fails verdict store).symm
  | false => rfl

/--
A round over targets that proceed accounts for every one of them: those that do not fail are
written under their paths, those that do are counted and reported. The paths and the store are the
same as if only the former had been there.
-/
theorem run_accounts (refusal : String → Option IoError) (config : Config) (targets : List Target)
    (work : Work Store) (proceeds : ∀ target ∈ targets, Proceeds config target) :
    ∃ summary after, run (.guarded refusal) config targets work = .ok (summary, after) ∧
      summary.written.length + summary.failed = targets.length ∧
      summary.written = (targets.filter fun target =>
        !fails refusal config target).map Target.builderPath ∧
      after.diagnostics = work.diagnostics ++ targets.flatMap (reports refusal config) ∧
      ∃ calm rest, run (.guarded refusal) config
          (targets.filter fun target => !fails refusal config target) (.start work.output) =
            .ok (calm, rest) ∧
        calm.written = summary.written ∧ calm.failed = 0 ∧
        rest.diagnostics = [] ∧ rest.output = after.output := by
  obtain ⟨after, ran, output, reported⟩ := run_guarded refusal proceeds work
  -- the same round without the targets that fail
  obtain ⟨rest, again, same, quiet⟩ := run_guarded refusal
    (fun target inside => proceeds target (List.mem_of_mem_filter inside)) (.start work.output)
  refine ⟨_, after, ran, ?_, ?_, reported, _, rest, again, ?_, ?_, ?_, ?_⟩
  · rw [foldr_tally, List.length_map, ← List.countP_eq_length_filter, Nat.add_comm]
    simpa using (List.length_eq_countP_add_countP (fails refusal config)).symm
  · rw [foldr_tally]
  · rw [foldr_tally, foldr_tally, List.filter_filter]
    simp
  · rw [foldr_tally]
    exact List.countP_eq_zero.2 fun target inside => by simpa using List.of_mem_filter inside
  · rw [quiet, List.flatMap_eq_nil_iff.2 fun target inside =>
      reports_of_not_fails (by simpa using List.of_mem_filter inside)]
    rfl
  · rw [same, output]
    exact foldl_leave_filter targets work.output

/-- Of three targets one lacks a setter, one is written and one is refused. -/
theorem run_accounts_mixed :
    ∃ summary after, run (.memory (· == "CBuilder.rs")) ⟨.validate, true⟩
        [.bare "A" [.ofField "a" "u8"], .bare "B" [], .bare "C" []] (.start .empty) =
          .ok (summary, after) ∧
      summary.written = ["BBuilder.rs"] ∧ summary.failed = 2 ∧
      after.diagnostics = [⟨"missing conventional setter `set_a`", "A"⟩,
        ⟨"Failed to write file for element", "C"⟩] := by
  have lacking : Proceeds ⟨.validate, true⟩ (.bare "A" [.ofField "a" "u8"]) :=
    ⟨by decide, .inl (by decide)⟩
  obtain ⟨summary, after, ran, total, written, reported, -⟩ := run_accounts
    (fun path => if path == "CBuilder.rs" then some .readOnly else none) ⟨.validate, true⟩ _
    (.start .empty) (List.forall_mem_cons.2 ⟨lacking, List.forall_mem_cons.2
      ⟨Laid.bareB.proceeds _, List.forall_mem_singleton.2 (Laid.bareC.proceeds _)⟩⟩)
  have paths : summary.written = ["BBuilder.rs"] := written.trans (by decide +kernel)
  refine ⟨summary, after, ran, paths, ?_, reported.trans (by decide +kernel)⟩
  rw [paths] at total
  simpa [Nat.add_comm] using total

/-- There is no account of a round with the lone underscore or with a type that has no layout. -/
theorem no_account_halted :
    (∀ summary after, run (.guarded fun _ => none) ⟨.trust, true⟩ [.bare "_" []]
      (.start .empty) ≠ .ok (summary, after)) ∧
    ∀ summary after, run (.guarded fun _ => none) ⟨.trust, true⟩ [textual]
      (.start .empty) ≠ .ok (summary, after) :=
  ⟨fun _ _ ran => ((exists_run_iff _ _ _).1 ⟨_, ran⟩ _ List.mem_cons_self).1 rfl,
    fun _ _ ran => not_proceeds_textual .trust
      ((exists_run_iff _ _ _).1 ⟨_, ran⟩ _ List.mem_cons_self)⟩

end

end FluentGen.Round
