import FluentGen.Proofs.Builder.Selection
import FluentGen.Round

/-!
# One target of a round

What a round does with a single target, for every output: it is turned away if setters are checked
and some are missing, and otherwise the text of its builder is handed to the output. Whether it
comes to anything, instead of halting the round, depends on the target and the configuration only
(`Round.exists_produce_iff`).
-/

namespace FluentGen

namespace Target

/-- The setters that the builder of a target relies on and the target does not have. -/
def lackingSetters (target : Target) : List String :=
  target.missingSetters target.privateFields

/-- The diagnostic about a setter that is missing. -/
def missingReport (target : Target) (setter : String) : Diagnostic :=
  ⟨s!"missing conventional setter `{setter}`", target.qualifiedName⟩

/-- The diagnostic about a builder that cannot be written. -/
def writeReport (target : Target) : Diagnostic :=
  ⟨"Failed to write file for element", target.qualifiedName⟩

/-- The source text of the builder of a target. -/
def source (target : Target) (config : Config) : Except Halt String := do
  let builder ← (Builder.ofTarget target).mapError .unusable
  (builder.source config.header).mapError .unprintable

/-- The source text of a builder that is known. -/
lemma source_of_builder {target : Target} {holder : Name}
    (made : Builder.ofTarget target = .ok (target.builder holder)) (config : Config) :
    target.source config =
      ((target.builder holder).source config.header).mapError .unprintable := by
  simp only [source, made, Except.mapError, bind, Except.bind]

/-- A target whose variable has a name has a text just if its builder can be laid out. -/
lemma exists_source_iff {target : Target} (holder : Name)
    (usable : Naming.asIdent (Naming.variableName target.name.text) = .ok holder)
    (config : Config) :
    (∃ text, target.source config = .ok text) ↔
      ((target.builder holder).source config.header).isOk = true := by
  have made : Builder.ofTarget target = .ok (target.builder holder) := by
    rw [Builder.ofTarget_eq, usable]
    rfl
  rw [source_of_builder made]
  cases (target.builder holder).source config.header with
  | error part => exact ⟨nofun, nofun⟩
  | ok text => exact ⟨fun _ => rfl, fun _ => ⟨text, rfl⟩⟩

end Target

namespace Round

/-- Whether a target is turned away since it lacks setters that are checked. -/
def rejects (config : Config) (target : Target) : Bool :=
  config.setterPolicy = .validate ∧ target.lackingSetters ≠ []

/-- A target does not halt the round: it has a builder, and a text of it if one is needed. -/
def Proceeds (config : Config) (target : Target) : Prop :=
  target.name.text ≠ "_" ∧ (rejects config target ∨ ∃ text, target.source config = .ok text)

/-- Reporting setters appends one diagnostic for each of them and changes nothing else. -/
lemma reportMissing_eq {σ : Type} (target : Target) (setters : List String) (work : Work σ) :
    reportMissing target setters work =
      { work with diagnostics := work.diagnostics ++ setters.map target.missingReport } := by
  induction setters generalizing work with
  | nil => simp [reportMissing]
  | cons setter setters ih =>
    have here : reportMissing target (setter :: setters) work = reportMissing target setters
        { work with diagnostics := work.diagnostics ++ [target.missingReport setter] } :=
      rfl
    rw [here, ih, List.map_cons, List.append_assoc, List.singleton_append]

section

variable {σ : Type} (output : Output σ) {config : Config} {target : Target} (work : Work σ)

/-- Delivering a text changes the output by one attempt to write it. -/
lemma output_deliver (builder : Builder) (text : String) :
    (deliver output builder text work).2.output =
      (output.write builder.relativePath text work.output).2 := by
  rw [deliver]
  rcases output.write builder.relativePath text work.output with ⟨error | written, state⟩ <;> rfl

/-- The lone underscore halts the round. -/
lemma produce_lone (lone : target.name.text = "_") :
    produce output config target work = .error (.unusable ⟨"_"⟩) := by
  rw [produce, Builder.ofTarget_lone lone]
  rfl

/-- A target that is turned away is reported, and nothing is written. -/
lemma produce_rejected (named : target.name.text ≠ "_") (rejected : rejects config target = true) :
    produce output config target work =
      .ok (.error (.missingSetters target.qualifiedName target.lackingSetters),
        { work.note [target.selectionEvent] with
          diagnostics := work.diagnostics ++ target.lackingSetters.map target.missingReport }) := by
  obtain ⟨holder, made⟩ := Builder.exists_ofTarget named
  have turned : config.setterPolicy = .validate ∧
      target.missingSetters (target.builder holder).fields ≠ [] := of_decide_eq_true rejected
  rw [produce, made]
  show (if _ then _ else _) = _
  rw [if_pos turned, reportMissing_eq]
  rfl

/-- Any other target has its builder emitted. -/
lemma produce_emits (admitted : rejects config target = false) {holder : Name}
    (made : Builder.ofTarget target = .ok (target.builder holder)) :
    produce output config target work =
      emit output config (target.builder holder) (work.note [target.selectionEvent]) := by
  have kept : ¬(config.setterPolicy = .validate ∧
      target.missingSetters (target.builder holder).fields ≠ []) := of_decide_eq_false admitted
  rw [produce, made]
  show (if _ then _ else _) = _
  rw [if_neg kept]

/-- A target that is not turned away is written if its builder has a text. -/
lemma produce_admitted (admitted : rejects config target = false) {holder : Name}
    (made : Builder.ofTarget target = .ok (target.builder holder)) {text : String}
    (written : target.source config = .ok text) :
    ∃ events, produce output config target work =
      .ok (deliver output (target.builder holder) text (work.note events)) := by
  refine ⟨[target.selectionEvent] ++ (target.builder holder).sourceEvents, ?_⟩
  rw [Target.source_of_builder made] at written
  rw [produce_emits output work admitted made, emit, written]
  show Except.ok (deliver output _ _ { work with events := (work.events ++ _) ++ _ }) = _
  rw [List.append_assoc]
  rfl

/-- A target comes to something just if it proceeds. -/
lemma exists_produce_iff :
    (∃ result, produce output config target work = .ok result) ↔ Proceeds config target := by
  rcases Builder.ofTarget_cases target with ⟨lone, -⟩ | ⟨named, holder, made⟩
  · simp [produce_lone output work lone, Proceeds, lone]
  -- a target that is turned away needs no text
  · cases verdict : rejects config target with
    | true => exact ⟨fun _ => ⟨named, .inl verdict⟩,
        fun _ => ⟨_, produce_rejected output work named verdict⟩⟩
    | false =>
      cases laid : target.source config with
      | ok text =>
        obtain ⟨events, produced⟩ := produce_admitted output work verdict made laid
        exact ⟨fun _ => ⟨named, .inr ⟨text, laid⟩⟩, fun _ => ⟨_, produced⟩⟩
      | error halt =>
        have halted : produce output config target work = .error halt := by
          rw [Target.source_of_builder made] at laid
          rw [produce_emits output work verdict made, emit, laid]
          rfl
        simp [halted, Proceeds, verdict, laid]

end

/-- A target whose variable has a name and whose builder has a layout. -/
structure Laid where
  target : Target
  holder : Name
  usable : Naming.asIdent (Naming.variableName target.name.text) = .ok holder
  laid : (target.builder holder).body.isOk = true

namespace Laid

variable (sample : Laid)

/-- The builder of such a target can be printed. -/
lemma exists_source (config : Config) : ∃ text, sample.target.source config = .ok text := by
  have laid := sample.laid
  rw [Target.exists_source_iff sample.holder sample.usable, Builder.source]
  cases body : (sample.target.builder sample.holder).body with
  | error part =>
    rw [body] at laid
    cases laid
  | ok body => rfl

/-- Such a target never halts a round. -/
lemma proceeds (config : Config) : Proceeds config sample.target := by
  refine ⟨fun lone => ?_, .inr (sample.exists_source config)⟩
  rcases Naming.asIdent_variableName sample.target.name.text with ⟨-, fault⟩ | ⟨named, -⟩
  · cases fault.symm.trans sample.usable
  · exact named lone

/-- A structure without fields. -/
def bareB : Laid where
  target := .bare "B" []
  holder := .plain "b"
  usable := rfl
  laid := by decide +kernel

/-- Another structure without fields. -/
def bareC : Laid where
  target := .bare "C" []
  holder := .plain "c"
  usable := rfl
  laid := by decide +kernel

end Laid

/-- A structure with a field the type of which is kept as text, as in `dyn* B`, and its setter. -/
def textual : Target :=
  .bare "A" [⟨.plain "b", .field, .inherited, some (.node (.type .verbatim)
    [.verbatim [Token.word "dyn", .punct '*' false, Token.word "B"]])⟩, .ofMethod "set_b"]

/-- There is no layout for it. -/
lemma not_proceeds_textual (policy : SetterPolicy) : ¬Proceeds ⟨policy, true⟩ textual := by
  rintro ⟨-, turned | written⟩
  · exact absurd turned (by cases policy <;> decide)
  · have usable : Naming.asIdent (Naming.variableName textual.name.text) = .ok (.plain "a") := rfl
    have silent : ((textual.builder (.plain "a")).source true).isOk = false := by decide +kernel
    have laid := (Target.exists_source_iff _ usable _).1 written
    exact Bool.false_ne_true (silent.symm.trans laid)

end Round

end FluentGen
