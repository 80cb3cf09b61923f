import FluentGen.Proofs.Round.Accounting

/-!
# The outcomes of a round

What becomes of each target of a round, in the order of the targets. The summary of the round is
nothing but their count (`Round.exists_outcomes`), and every outcome is that of a step of its own
(`Round.exists_produce_of_outcomes`). A round over a source text is one over what is found in it.
-/

namespace FluentGen.Round

/-- A computation in two steps has a result only if both have. -/
lemma exists_of_bind {α β ε : Type} {first : Except ε α} {next : α → Except ε β} {result : β}
    (ran : first >>= next = .ok result) : ∃ found, first = .ok found ∧ next found = .ok result := by
  cases first with
  | error fault => cases ran
  | ok found => exact ⟨found, rfl, ran⟩

section

variable {σ : Type} (output : Output σ) (config : Config)

/-- What becomes of each target of a round. -/
def outcomes : List Target → Work σ → Except Halt (List (Except Failure String))
  | [], _ => .ok []
  | target :: rest, work => do
    let (outcome, work) ← produce output config target work
    let others ← outcomes rest (noteOutcome target outcome work)
    pure (outcome :: others)

end

section

variable {σ : Type} {output : Output σ} {config : Config} {work : Work σ}

/-- The summary of a round counts the outcomes. -/
lemma exists_outcomes {targets : List Target} {summary : Summary} {final : Work σ}
    (ran : run output config targets work = .ok (summary, final)) :
    ∃ results, outcomes output config targets work = .ok results ∧
      summary = results.foldr Summary.count .empty := by
  induction targets generalizing work summary with
  | nil =>
    cases ran
    exact ⟨[], rfl, rfl⟩
  | cons target targets ih =>
    obtain ⟨⟨outcome, next⟩, produced, ran⟩ := exists_of_bind ran
    obtain ⟨⟨counted, last⟩, others, ran⟩ := exists_of_bind ran
    cases ran
    obtain ⟨results, same, rfl⟩ := ih others
    refine ⟨outcome :: results, ?_, rfl⟩
    rw [outcomes, produced]
    show outcomes output config targets _ >>= _ = _
    rw [same]
    rfl

/-- An outcome is what its target came to when its turn was. -/
lemma exists_produce_of_outcomes {front back : List Target} {target : Target}
    {results : List (Except Failure String)} {outcome : Except Failure String}
    (ran : outcomes output config (front ++ target :: back) work = .ok results)
    (own : results[front.length]? = some outcome) :
    ∃ before after, produce output config target before = .ok (outcome, after) := by
  induction front generalizing work results with
  | nil =>
    obtain ⟨⟨here, next⟩, produced, ran⟩ := exists_of_bind ran
    obtain ⟨others, -, ran⟩ := exists_of_bind ran
    cases ran
    cases own
    exact ⟨work, next, produced⟩
  | cons other front ih =>
    obtain ⟨⟨here, next⟩, -, ran⟩ := exists_of_bind ran
    obtain ⟨others, later, ran⟩ := exists_of_bind ran
    cases ran
    exact ih later own

/-- A round over a source text is one over the targets in it. -/
lemma exists_of_runSource {package source : String} {summary : Summary} {final : Work σ}
    (ran : runSource output config package source work = .ok (.ok summary, final)) :
    ∃ items, readSource source = .ok items ∧
      run output config (Target.discover package items)
        (work.note (discoveryEvents package items (Target.discover package items))) =
          .ok (summary, final) := by
  rw [runSource, runText] at ran
  split at ran
  · cases ran
  · next items read =>
    obtain ⟨⟨counted, last⟩, ran, same⟩ := exists_of_bind ran
    cases same
    exact ⟨items, read, ran⟩

end

/-- A round over a source text that can be read, if none of its targets halts it. -/
lemma runSource_guarded (refusal : String → Option IoError) {config : Config}
    {package source : String} {items : List Tree} (read : readSource source = .ok items)
    (proceeds : ∀ target ∈ Target.discover package items, Proceeds config target)
    (work : Work Store) :
    ∃ after, runSource (.guarded refusal) config package source work =
        .ok (.ok ((Target.discover package items).foldr (tally refusal config) .empty), after) ∧
      after.output = (Target.discover package items).foldl (leave refusal config) work.output := by
  obtain ⟨after, ran, output, -⟩ := run_guarded refusal proceeds
    (work.note (discoveryEvents package items (Target.discover package items)))
  refine ⟨after, ?_, output⟩
  rw [runSource, runText, read]
  show run _ _ _ _ >>= _ = _
  rw [ran]
  rfl

/-- A round over a source text the targets of which are known and are not turned away. -/
lemma runSource_memory {config : Config} {package source : String} {targets : List Target}
    (found : (readSource source).map (Target.discover package) = .ok targets)
    (proceeds : ∀ target ∈ targets, Proceeds config target ∧ rejects config target = false)
    (work : Work Store) :
    ∃ after, runSource (.memory fun _ => false) config package source work =
        .ok (.ok ⟨targets.map Target.builderPath, 0⟩, after) ∧
      after.output = targets.foldl (leave (fun _ => none) config) work.output := by
  cases read : readSource source with
  | error fault =>
    rw [read] at found
    cases found
  | ok items =>
    rw [read] at found
    cases found
    obtain ⟨after, ran, output⟩ := runSource_guarded (fun _ => none) read
      (fun target inside => (proceeds target inside).1) work
    have passes : ∀ target ∈ Target.discover package items,
        fails (fun _ => none) config target = false := fun target inside => by
      rw [fails, (proceeds target inside).2]
      rfl
    refine ⟨after, ran.trans ?_, output⟩
    rw [foldr_tally, List.filter_eq_self.2 fun target inside => by simp [passes target inside],
      List.countP_eq_zero.2 fun target inside => by simp [passes target inside]]

end FluentGen.Round
