import FluentGen.Proofs.Builder.Calls
import FluentGen.Proofs.Round.Step

/-!
# Checking setters

Which targets are turned away. What is checked is read off the members of a target, and what is
needed is read off the code of its builder; the two agree on every setter. A round that does not
check has no use for members other than fields (`Round.checks_called`).
-/

namespace FluentGen

/-- Keeps a record of every text that is handed to an output. -/
def Output.watched {σ : Type} (output : Output σ) : Output (σ × List (String × String)) where
  write path text state :=
    let (result, changed) := output.write path text state.1
    (result, changed, state.2 ++ [(path, text)])

namespace Target

/-- The target has a method of a name. -/
def Declares (target : Target) (name : Name) : Prop :=
  ∃ member ∈ target.members, member.kind = .method ∧ member.name.text = name.text

/-- The check finds just the methods of a target. -/
lemma hasMethod_iff (target : Target) (name : Name) :
    target.hasMethod name.text = true ↔ target.Declares name := by
  simp [hasMethod, Declares]

instance (target : Target) : DecidablePred target.Declares := fun name =>
  decidable_of_iff _ (target.hasMethod_iff name)

/-- The target without its methods and constants. -/
def fieldsOnly (target : Target) : Target :=
  { target with members := target.members.filter (·.kind = .field) }

/-- Methods and constants are no fields of the builder. -/
lemma privateFields_fieldsOnly (target : Target) :
    target.fieldsOnly.privateFields = target.privateFields := by
  have other : ∀ member : Member, member.kind ≠ .field → member.privateField? = none := by
    rintro ⟨name, kind, visibility, type⟩ apart
    cases kind with
    | field => exact absurd rfl apart
    | method => rfl
    | constant => rfl
  rw [privateFields, privateFields, fieldsOnly]
  induction target.members with
  | nil => rfl
  | cons member members ih =>
    by_cases field : member.kind = .field
    · simp [field, List.filterMap_cons, ih]
    · simp [field, other member field, ih]

/-- Methods and constants do not matter to the builder. -/
lemma builder_fieldsOnly (target : Target) (holder : Name) :
    target.fieldsOnly.builder holder = target.builder holder := by
  rw [builder, builder, target.privateFields_fieldsOnly]
  rfl

/-- The methods that a builder of the target calls in vain, in the order of the calls. -/
def vainCalls (target : Target) (builder : Builder) : List Name :=
  builder.calledSetters.filter (¬target.Declares ·)

end Target

namespace Builder

/-- Methods and constants do not matter to whether there is a builder. -/
lemma ofTarget_fieldsOnly (target : Target) : ofTarget target.fieldsOnly = ofTarget target := by
  have same : target.fieldsOnly.builder = target.builder := funext target.builder_fieldsOnly
  rw [ofTarget_eq, ofTarget_eq, same]
  rfl

/-- The setters that are missed are those that the builder calls in vain. -/
lemma lackingSetters_eq (target : Target) (holder : Name) :
    target.lackingSetters = (target.vainCalls (target.builder holder)).map Name.text := by
  rw [Target.vainCalls, calledSetters_eq, Target.lackingSetters, Target.missingSetters]
  show _ = ((target.privateFields.map targetSetter).filter _).map _
  simp only [← Target.hasMethod_iff, List.filter_map, List.map_map]
  simp [Function.comp_def, targetSetter, Name.plain]

end Builder

namespace Round

variable {σ : Type}

/-- What a target comes to, but for the events: its outcome, the output and the diagnostics. -/
def visible (result : Except Failure String × Work σ) :
    Except Failure String × σ × List Diagnostic :=
  (result.1, result.2.output, result.2.diagnostics)

/-- Events that have been noted do not matter to what becomes of a text. -/
lemma deliver_note (output : Output σ) (builder : Builder) (text : String) (events : List Event)
    (work : Work σ) :
    visible (deliver output builder text (work.note events)) =
      visible (deliver output builder text work) := by
  simp only [deliver, Work.note]
  rcases output.write builder.relativePath text work.output with ⟨written | error, state⟩ <;> rfl

/-- Events that have been noted do not matter to what becomes of a builder. -/
lemma emit_note (output : Output σ) (config : Config) (builder : Builder) (events : List Event)
    (work : Work σ) :
    (emit output config builder (work.note events)).map visible =
      (emit output config builder work).map visible := by
  rw [emit, emit]
  cases builder.source config.header with
  | error part => rfl
  | ok text =>
    show Except.ok (visible _) = Except.ok (visible _)
    rw [deliver_note, deliver_note, deliver_note]

/-- Methods and constants do not matter to a round that does not check setters. -/
lemma produce_fieldsOnly (output : Output σ) {config : Config}
    (trusts : config.setterPolicy = .trust) (target : Target) (work : Work σ) :
    (produce output config target.fieldsOnly work).map visible =
      (produce output config target work).map visible := by
  have admitted : ∀ target, rejects config target = false := fun target => by
    simp [rejects, trusts]
  have same := Builder.ofTarget_fieldsOnly target
  rcases Builder.ofTarget_cases target with ⟨-, fault⟩ | ⟨-, holder, made⟩
  · simp only [produce, same, fault, Except.mapError, bind, Except.bind]
  · rw [produce_emits output work (admitted target) made]
    rw [made, ← target.builder_fieldsOnly] at same
    rw [produce_emits output work (admitted _) same, emit_note, emit_note,
      target.builder_fieldsOnly]

/-- A text that is delivered is on record once. -/
lemma deliver_watched (output : Output σ) (builder : Builder) (text : String)
    (work : Work (σ × List (String × String))) :
    (deliver output.watched builder text work).2.output.2 =
      work.output.2 ++ [(builder.relativePath, text)] := by
  rw [output_deliver]
  rfl

/-- A check turns a target away just if the builder calls a setter in vain. -/
lemma rejects_iff {config : Config} (validates : config.setterPolicy = .validate) (target : Target)
    (holder : Name) :
    rejects config target = true ↔
      ∃ name ∈ (target.builder holder).calledSetters, ¬target.Declares name := by
  simp [rejects, validates, Builder.lackingSetters_eq target holder, Target.vainCalls]

/--
A round that checks setters hands the builder of a target to the output just if every setter that
the code of the builder calls is a method of the target. Otherwise it leaves everything as it was
and reports each call that is in vain. A round that does not check is blind to all members but
fields.
-/
theorem checks_called (output : Output σ) (config : Config) (target : Target)
    (work : Work (σ × List (String × String))) :
    (config.setterPolicy = .validate → Proceeds config target →
      ∃ builder outcome after, Builder.ofTarget target = .ok builder ∧
        builder.calledSetters = builder.fields.map Builder.targetSetter ∧
        produce output.watched config target work = .ok (outcome, after) ∧
        ((∃ text, target.source config = .ok text ∧
            after.output.2 = work.output.2 ++ [(builder.relativePath, text)]) ↔
          ∀ name ∈ builder.calledSetters, target.Declares name) ∧
        ((∃ name ∈ builder.calledSetters, ¬target.Declares name) →
          after.output = work.output ∧
          outcome = .error (.missingSetters target.qualifiedName
            ((target.vainCalls builder).map Name.text)) ∧
          after.diagnostics = work.diagnostics ++
            (target.vainCalls builder).map fun name => target.missingReport name.text)) ∧
    (config.setterPolicy = .trust → ∀ other, other.fieldsOnly = target.fieldsOnly →
      (produce output.watched config other work).map visible =
        (produce output.watched config target work).map visible) := by
  refine ⟨fun validates proceeds => ?_, fun trusts other same => ?_⟩
  · obtain ⟨holder, made⟩ := Builder.exists_ofTarget proceeds.1
    have turned := rejects_iff validates target holder
    cases verdict : rejects config target with
    | true =>
      refine ⟨_, _, _, made, Builder.calledSetters_eq _,
        produce_rejected _ work proceeds.1 verdict, ⟨?_, ?_⟩, ?_⟩
      -- an attempt would have made the record longer
      · rintro ⟨text, -, attempt⟩
        exact absurd attempt (by simp [Work.note])
      · intro declared
        obtain ⟨name, called, vain⟩ := turned.1 verdict
        exact absurd (declared name called) vain
      · intro _
        rw [Builder.lackingSetters_eq target holder, List.map_map]
        exact ⟨rfl, rfl, rfl⟩
    | false =>
      have declared : ∀ name ∈ (target.builder holder).calledSetters, target.Declares name := by
        intro name called
        by_contra vain
        exact absurd (turned.2 ⟨name, called, vain⟩) (by simp [verdict])
      obtain ⟨text, written⟩ := proceeds.2.resolve_left (by simp [verdict])
      obtain ⟨events, produced⟩ := produce_admitted output.watched work verdict made written
      refine ⟨_, _, _, made, Builder.calledSetters_eq _, produced,
        ⟨fun _ => declared, fun _ => ⟨text, written, ?_⟩⟩, ?_⟩
      · exact deliver_watched output _ text _
      · rintro ⟨name, called, vain⟩
        exact absurd (declared name called) vain
  · rw [← produce_fieldsOnly output.watched trusts other work, same,
      produce_fieldsOnly output.watched trusts target work]

/-- A structure with a setter, the builder of which has a layout. -/
def Laid.declaring : Laid where
  target := .bare "A" [.ofField "a" "u8", .ofMethod "set_a"]
  holder := .plain "a"
  usable := rfl
  laid := by decide +kernel

/-- A record is turned away for want of a setter, and a method makes no difference unchecked. -/
theorem checks_called_record :
    (∃ outcome after, produce (Output.memory fun _ => false).watched ⟨.validate, true⟩
        (.bare "A" [.ofField "a" "u8", .ofMethod "set_b", .ofField "b" "u8"])
          (.start (.empty, [])) = .ok (outcome, after) ∧
      after.output = (.empty, []) ∧
      after.diagnostics = [⟨"missing conventional setter `set_a`", "A"⟩]) ∧
    (∃ outcome after text, produce (Output.memory fun _ => false).watched ⟨.validate, true⟩
        (.bare "A" [.ofField "a" "u8", .ofMethod "set_a"])
          (.start (.empty, [])) = .ok (outcome, after) ∧
      after.output.2 = [("ABuilder.rs", text)]) ∧
    (produce (Output.memory fun _ => false).watched ⟨.trust, true⟩
        (.bare "A" [.ofField "a" "u8", .ofMethod "set_a"]) (.start (.empty, []))).map visible =
      (produce (Output.memory fun _ => false).watched ⟨.trust, true⟩
        (.bare "A" [.ofField "a" "u8"]) (.start (.empty, []))).map visible := by
  refine ⟨?_, ?_, ?_⟩
  · obtain ⟨builder, outcome, after, made, -, produced, -, vain⟩ := (checks_called
      (Output.memory fun _ => false) ⟨.validate, true⟩
      (.bare "A" [.ofField "a" "u8", .ofMethod "set_b", .ofField "b" "u8"])
      (.start (.empty, []))).1 rfl ⟨by decide, .inl (by decide)⟩
    obtain rfl := Except.ok.inj (made.symm.trans (Builder.ofTarget_eq _))
    obtain ⟨output, -, reported⟩ := vain (by decide +kernel)
    exact ⟨outcome, after, produced, output, reported.trans (by decide +kernel)⟩
  · obtain ⟨builder, outcome, after, made, -, produced, attempted, -⟩ := (checks_called
      (Output.memory fun _ => false) ⟨.validate, true⟩
      (.bare "A" [.ofField "a" "u8", .ofMethod "set_a"])
      (.start (.empty, []))).1 rfl (Laid.declaring.proceeds _)
    obtain rfl := Except.ok.inj (made.symm.trans (Builder.ofTarget_eq _))
    obtain ⟨text, -, attempt⟩ := attempted.2 (by decide +kernel)
    exact ⟨outcome, after, text, produced, attempt⟩
  · exact (checks_called (Output.memory fun _ => false) ⟨.trust, true⟩
      (.bare "A" [.ofField "a" "u8"]) (.start (.empty, []))).2 rfl _ rfl

/-- There is no check of the lone underscore or of a type that has no layout. -/
theorem no_check_halted :
    (∀ outcome after, produce (Output.memory fun _ => false).watched ⟨.validate, true⟩
      (.bare "_" []) (.start (.empty, [])) ≠ .ok (outcome, after)) ∧
    ∀ outcome after, produce (Output.memory fun _ => false).watched ⟨.validate, true⟩
      textual (.start (.empty, [])) ≠ .ok (outcome, after) :=
  ⟨fun _ _ produced => ((exists_produce_iff _ _).1 ⟨_, produced⟩).1 rfl,
    fun _ _ produced => not_proceeds_textual .validate ((exists_produce_iff _ _).1 ⟨_, produced⟩)⟩

end Round

end FluentGen
