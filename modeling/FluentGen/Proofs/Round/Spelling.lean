import FluentGen.Proofs.Round.Step

/-!
# Raw spellings

Whether an identifier is written raw matters to the tokens of a builder and to nothing else. What is
told of a target is a function of the target without its marks of raw identifiers, so that two
spellings of a target have the same names, paths and descriptions, and a round does the same with
both of them (`Round.respelled_agrees`). The exception is a spelling that alone can be read back: it
halts the round if there is no layout for what is read.
-/

namespace FluentGen

/-! ## Without marks -/

/-- The same identifier without a mark. -/
def Name.unraw (name : Name) : Name :=
  .plain name.text

/-- A name without its mark has the same text. -/
@[simp] lemma Name.text_unraw (name : Name) : name.unraw.text = name.text :=
  rfl

/-- The member without marks; its type is left as it is. -/
def Member.unraw (member : Member) : Member :=
  { member with name := member.name.unraw }

/-- The field without marks; its type is left as it is. -/
def Field.unraw (field : Field) : Field :=
  { field with name := field.name.unraw }

/-- A member without marks is the field of a builder just if the member is. -/
lemma Member.privateField?_unraw (member : Member) :
    member.unraw.privateField? = member.privateField?.map Field.unraw := by
  obtain ⟨name, kind, visibility, type⟩ := member
  cases kind <;> cases visibility <;> cases type <;> rfl

namespace Target

/-- The target without marks. -/
def unraw (target : Target) : Target :=
  { target with name := target.name.unraw, members := target.members.map Member.unraw }

variable (target : Target)

/-- A target without marks is called the same. -/
@[simp] lemma text_unraw : target.unraw.name.text = target.name.text :=
  rfl

/-- The mark does not show in the name inside the module. -/
@[simp] lemma qualifiedName_unraw : target.unraw.qualifiedName = target.qualifiedName :=
  rfl

/-- The mark does not show in the path of the builder. -/
@[simp] lemma builderPath_unraw : target.unraw.builderPath = target.builderPath :=
  rfl

/-- Methods are looked for by their texts. -/
@[simp] lemma hasMethod_unraw : target.unraw.hasMethod = target.hasMethod := by
  funext name
  rw [hasMethod, unraw, List.any_map]
  rfl

/-- The same fields are private, without their marks. -/
lemma privateFields_unraw : target.unraw.privateFields = target.privateFields.map Field.unraw := by
  rw [privateFields, privateFields, unraw, List.filterMap_map, List.map_filterMap]
  exact List.filterMap_congr fun member _ => member.privateField?_unraw

/-- What is missing depends on what the fields are called. -/
lemma missingSetters_congr {fields others : List Field}
    (called : others.map (·.name.text) = fields.map (·.name.text)) :
    target.missingSetters others = target.missingSetters fields := by
  have setters (fields : List Field) : (fields.map fun field => Naming.setterName field.name.text) =
      (fields.map (·.name.text)).map Naming.setterName := by simp
  rw [missingSetters, missingSetters, setters, setters, called]

/-- The same setters are missing. -/
@[simp] lemma missingSetters_unraw : target.unraw.missingSetters = target.missingSetters := by
  funext fields
  rw [missingSetters, hasMethod_unraw, missingSetters]

/-- So they are for all private fields. -/
@[simp] lemma lackingSetters_unraw : target.unraw.lackingSetters = target.lackingSetters := by
  rw [lackingSetters, missingSetters_unraw, privateFields_unraw]
  exact target.missingSetters_congr (by simp [Field.unraw])

end Target

namespace Builder

/-- The builder without marks, but for the one that its variable may need. -/
def unraw (builder : Builder) : Builder :=
  { builder with target := builder.target.unraw, fields := builder.fields.map Field.unraw }

/-- The builder of a target without marks. -/
lemma builder_unraw (target : Target) (holder : Name) :
    target.unraw.builder holder = (target.builder holder).unraw := by
  rw [Target.builder, Target.privateFields_unraw]
  rfl

/-- The builder of a target without marks is its builder without marks. -/
lemma ofTarget_unraw (target : Target) : ofTarget target.unraw = (ofTarget target).map unraw := by
  rw [ofTarget_eq, ofTarget_eq, Target.text_unraw, funext (builder_unraw target)]
  cases Naming.asIdent (Naming.variableName target.name.text) <;> rfl

/-- A manifest shows no marks. -/
@[simp] lemma manifest_unraw (builder : Builder) : builder.unraw.manifest = builder.manifest := by
  simp only [manifest, unraw, List.map_map]
  rfl

/-- What is told of a builder apart from its tokens: its names, its manifest, its path, its banner. -/
def profile (builder : Builder) : Name × Name × String × String × String :=
  (builder.name, builder.holder, builder.manifest, builder.relativePath, builder.banner)

/-- Nor does anything else that is told of a builder. -/
lemma profile_unraw (builder : Builder) : builder.unraw.profile = builder.profile := by
  rw [profile, manifest_unraw]
  rfl

end Builder

/-! ## Outputs -/

namespace FileTree

/-- Whether there can be a file at the end of a path does not depend on its content. -/
lemma map_writeAt (tree : FileTree) (path : String) (content other : ByteArray) :
    (tree.writeAt path content).map (fun _ => ()) = (tree.writeAt path other).map fun _ => () := by
  simp only [writeAt, bind, Except.bind]
  cases partsOf path with
  | error error => rfl
  | ok written =>
    dsimp only
    generalize (written.reverse.dropWhile _).reverse = parts
    cases parts.dropLast.foldlM Spot.step tree.top with
    | error error => rfl
    | ok spot =>
      dsimp only
      split
      · rfl
      · split
        · rfl
        · split <;> rfl

/-- Whether a write succeeds does not depend on what is written. -/
lemma fst_write (tree : FileTree) (path : String) (content other : ByteArray) :
    (tree.write path content).1 = (tree.write path other).1 := by
  unfold write
  rcases tree.makeDirectories (Path.parent path) with ⟨error | _, made⟩
  · rfl
  · have same := made.map_writeAt path content other
    dsimp only
    cases first : made.writeAt path content with
    | ok =>
      cases second : made.writeAt path other with
      | ok => rfl
      | error => rw [first, second] at same; cases same
    | error =>
      cases second : made.writeAt path other with
      | ok => rw [first, second] at same; cases same
      | error => rw [first, second] at same; cases same; rfl

end FileTree

/-- What becomes of an attempt to write does not depend on the text. -/
def Output.Blind {σ : Type} (output : Output σ) : Prop :=
  ∀ path text other state, (output.write path text state).1 = (output.write path other state).1

namespace Output

/-- A store that refuses some paths does not look at contents. -/
lemma blind_guarded (refusal : String → Option IoError) : (guarded refusal).Blind := by
  intro path text other store
  simp only [guarded]
  split <;> rfl

/-- A disk does not look at contents. -/
lemma blind_disk (directory : String) : (disk directory).Blind := by
  intro path text other tree
  have same := tree.fst_write (Path.join directory path) text.toUTF8 other.toUTF8
  simp only [disk, same]

end Output

namespace Round

variable {σ : Type}

/-- What is told of a target in a round: its outcome, and all that has been reported so far. -/
def verdict (result : Except Failure String × Work σ) :
    Except Failure String × List Diagnostic :=
  (result.1, result.2.diagnostics)

/-- A blind output makes no difference between two texts of builders of the same profile. -/
lemma verdict_deliver {output : Output σ} (blind : output.Blind) {builder other : Builder}
    (path : other.relativePath = builder.relativePath)
    (element : other.qualifiedTarget = builder.qualifiedTarget) (text words : String)
    (events more : List Event) (work : Work σ) :
    verdict (deliver output other words (work.note more)) =
      verdict (deliver output builder text (work.note events)) := by
  have same := blind builder.relativePath words text work.output
  simp only [deliver, path, element, Work.note]
  rcases wrote : output.write builder.relativePath text work.output with ⟨result, state⟩
  rcases rewrote : output.write builder.relativePath words work.output with ⟨again, left⟩
  rw [wrote, rewrote] at same
  obtain rfl : again = result := same
  cases again <;> rfl

/-- A target that halts the round, although it has a builder, has code without a layout. -/
lemma exists_unprintable {output : Output σ} {config : Config} {target : Target} {work : Work σ}
    {halt : Halt} (named : target.name.text ≠ "_")
    (halted : produce output config target work = .error halt) :
    ∃ part, halt = .unprintable part := by
  obtain ⟨holder, made⟩ := Builder.exists_ofTarget named
  cases verdict : rejects config target with
  | true =>
    rw [produce_rejected output work named verdict] at halted
    cases halted
  | false =>
    rw [produce_emits output work verdict made, emit] at halted
    cases laid : (target.builder holder).source config.header with
    | ok text =>
      rw [laid] at halted
      cases halted
    | error part =>
      rw [laid] at halted
      cases halted
      exact ⟨part, rfl⟩

section

variable {target other : Target} (respelled : other.unraw = target.unraw)

include respelled

/-- Targets that differ in marks only are called alike. -/
lemma text_of_respelled : other.name.text = target.name.text := by
  rw [← other.text_unraw, respelled, target.text_unraw]

/-- They are called alike inside their module. -/
lemma qualifiedName_of_respelled : other.qualifiedName = target.qualifiedName := by
  rw [← other.qualifiedName_unraw, respelled, target.qualifiedName_unraw]

/-- Their builders are written to one path. -/
lemma builderPath_of_respelled : other.builderPath = target.builderPath := by
  rw [← other.builderPath_unraw, respelled, target.builderPath_unraw]

/-- They lack the same setters. -/
lemma lackingSetters_of_respelled : other.lackingSetters = target.lackingSetters := by
  rw [← other.lackingSetters_unraw, respelled, target.lackingSetters_unraw]

/-- Either both are rejected or neither is. -/
lemma rejects_of_respelled (config : Config) : rejects config other = rejects config target := by
  rw [rejects, rejects, lackingSetters_of_respelled respelled]

/-- What is reported of their setters is the same. -/
lemma missingReport_of_respelled : other.missingReport = target.missingReport := by
  unfold Target.missingReport
  rw [qualifiedName_of_respelled respelled]

/-- A round does the same with two spellings, unless one of them has code without a layout. -/
lemma verdict_produce {output : Output σ} (blind : output.Blind) (config : Config)
    (work : Work σ) :
    (produce output config other work).map verdict =
        (produce output config target work).map verdict ∨
      ∃ part, produce output config target work = .error (.unprintable part) ∨
        produce output config other work = .error (.unprintable part) := by
  have text := text_of_respelled respelled
  by_cases lone : target.name.text = "_"
  · rw [produce_lone output work lone, produce_lone output work (text.trans lone)]
    exact .inl rfl
  have named : other.name.text ≠ "_" := text.trans_ne lone
  have turned := rejects_of_respelled respelled config
  cases rejected : rejects config target with
  | true =>
    rw [produce_rejected output work lone rejected,
      produce_rejected output work named (turned.trans rejected)]
    refine .inl ?_
    simp [verdict, Except.map, qualifiedName_of_respelled respelled,
      lackingSetters_of_respelled respelled, missingReport_of_respelled respelled]
  | false =>
    cases first : produce output config target work with
    | error halt =>
      obtain ⟨part, rfl⟩ := exists_unprintable lone first
      exact .inr ⟨part, .inl rfl⟩
    | ok result =>
      cases second : produce output config other work with
      | error halt =>
        obtain ⟨part, rfl⟩ := exists_unprintable named second
        exact .inr ⟨part, .inr rfl⟩
      | ok again =>
        -- both are written, each with a text of its own
        obtain ⟨holder, made⟩ := Builder.exists_ofTarget lone
        obtain ⟨anew, remade⟩ := Builder.exists_ofTarget named
        obtain ⟨words, laid⟩ := ((exists_produce_iff output work).1 ⟨_, first⟩).2.resolve_left
          (by simp [rejected])
        obtain ⟨others, relaid⟩ := ((exists_produce_iff output work).1 ⟨_, second⟩).2.resolve_left
          (by simp [turned, rejected])
        obtain ⟨events, delivered⟩ := produce_admitted output work rejected made laid
        obtain ⟨more, redelivered⟩ :=
          produce_admitted output work (turned.trans rejected) remade relaid
        have path : (other.builder anew).relativePath = (target.builder holder).relativePath :=
          builderPath_of_respelled respelled
        have element : (other.builder anew).qualifiedTarget =
            (target.builder holder).qualifiedTarget := qualifiedName_of_respelled respelled
        refine .inl ?_
        rw [← first, ← second, delivered, redelivered]
        show Except.ok (verdict _) = Except.ok (verdict _)
        rw [verdict_deliver blind path element words others events more work]

/--
Two spellings of a target, which differ in nothing but marks of raw identifiers, have the same
names, paths and descriptions, and a round has the same to tell of them, whatever it checks. It may
only halt at one of them and not at the other: this one cannot be read back and is written as it is.
-/
theorem respelled_agrees :
    other.name.text = target.name.text ∧
    other.qualifiedName = target.qualifiedName ∧
    other.blueprint.builderIdent? = target.blueprint.builderIdent? ∧
    (Builder.ofTarget other).map Builder.profile = (Builder.ofTarget target).map Builder.profile ∧
    other.builderFields.map (·.name.text) = target.builderFields.map (·.name.text) ∧
    other.hasMethod = target.hasMethod ∧
    (∀ fields others : List Field, others.map (·.name.text) = fields.map (·.name.text) →
      other.missingSetters others = target.missingSetters fields) ∧
    ∀ (σ : Type) (output : Output σ), output.Blind → ∀ config work,
      (produce output config other work).map verdict =
          (produce output config target work).map verdict ∨
        ∃ part, produce output config target work = .error (.unprintable part) ∨
          produce output config other work = .error (.unprintable part) := by
  have text := text_of_respelled respelled
  refine ⟨text, qualifiedName_of_respelled respelled, ?_, ?_, ?_, ?_, ?_,
    fun _ _ blind => verdict_produce respelled blind⟩
  · rw [Blueprint.builderIdent?_blueprint, Blueprint.builderIdent?_blueprint, text]
  · have profile (target : Target) : (Builder.ofTarget target.unraw).map Builder.profile =
        (Builder.ofTarget target).map Builder.profile := by
      rw [Builder.ofTarget_unraw]
      cases Builder.ofTarget target with
      | error fault => rfl
      | ok builder => exact congrArg Except.ok builder.profile_unraw
    rw [← profile other, respelled, profile]
  · have called (target : Target) : target.unraw.builderFields.map (·.name.text) =
        target.builderFields.map (·.name.text) := by
      rw [Target.builderFields_eq, Target.privateFields_unraw, Target.builderFields_eq]
      simp [Field.unraw]
    rw [← called other, respelled, called]
  · rw [← other.hasMethod_unraw, respelled, target.hasMethod_unraw]
  · intro fields others called
    rw [← other.missingSetters_unraw, respelled, target.missingSetters_unraw]
    exact target.missingSetters_congr called

end

/-- A store that refuses nothing takes a target that is not turned away. -/
lemma verdict_memory {config : Config} {target : Target} (admitted : rejects config target = false)
    (proceeds : Proceeds config target) (work : Work Store) :
    (produce (.memory fun _ => false) config target work).map verdict =
      .ok (.ok target.builderPath, work.diagnostics) := by
  obtain ⟨text, written⟩ := proceeds.2.resolve_left (by simp [admitted])
  obtain ⟨holder, made⟩ := Builder.exists_ofTarget proceeds.1
  obtain ⟨events, produced⟩ := produce_admitted _ work admitted made written
  rw [produced]
  rfl

/-- A structure with a field that is called by a keyword, which may be raw as its own name may. -/
def keyworded (raw : Bool) : Target :=
  ⟨⟨raw, "A"⟩, "", .inherited,
    [⟨⟨raw, "type"⟩, .field, .inherited, some (.named "u8")⟩, .ofMethod "set_type"]⟩

/-- There is a layout of its builder either way, although it reads back only if the field is raw. -/
def Laid.ofKeyword (raw : Bool) : Laid where
  target := keyworded raw
  holder := .plain "a"
  usable := by cases raw <;> rfl
  laid := by cases raw <;> decide +kernel

/-- It is written either way. -/
theorem respelled_agrees_field :
    (keyworded true).unraw = (keyworded false).unraw ∧
    (Output.memory fun _ => false).Blind ∧
    (produce (.memory fun _ => false) ⟨.validate, true⟩ (keyworded true)
      (.start .empty)).map verdict = .ok (.ok "ABuilder.rs", []) := by
  have respelled : (keyworded true).unraw = (keyworded false).unraw := by decide
  have blind : (Output.memory fun _ => false).Blind := Output.blind_guarded _
  have proceeds (raw : Bool) : Proceeds ⟨.validate, true⟩ (keyworded raw) :=
    (Laid.ofKeyword raw).proceeds _
  have settled (raw : Bool) : ∃ result, produce (.memory fun _ => false) ⟨.validate, true⟩
      (keyworded raw) (.start .empty) = .ok result :=
    (exists_produce_iff _ _).2 (proceeds raw)
  have path : (keyworded false).builderPath = "ABuilder.rs" := by decide +kernel
  refine ⟨respelled, blind, ?_⟩
  obtain ⟨-, -, -, -, -, -, -, agrees⟩ := respelled_agrees respelled
  rcases agrees _ _ blind ⟨.validate, true⟩ (.start .empty) with same | ⟨part, halted | halted⟩
  · rw [same, verdict_memory (by decide) (proceeds false), path]
    rfl
  · obtain ⟨result, produced⟩ := settled false
    cases halted.symm.trans produced
  · obtain ⟨result, produced⟩ := settled true
    cases halted.symm.trans produced

/-- A structure that is called by a keyword and has a field without a layout. -/
def Laid.keyword : Laid where
  target := { textual with name := .plain "type" }
  holder := ⟨true, "type"⟩
  usable := rfl
  laid := by decide +kernel

/--
A type that is called by a keyword and has a field without a layout is written, since its builder
does not read back; with the name made raw it does, and halts the round.
-/
theorem keyword_alone_written :
    Target.unraw { textual with name := ⟨true, "type"⟩ } =
      Target.unraw { textual with name := .plain "type" } ∧
    (produce (.memory fun _ => false) ⟨.validate, true⟩ { textual with name := .plain "type" }
      (.start .empty)).map verdict = .ok (.ok "typeBuilder.rs", []) ∧
    ∀ result, produce (.memory fun _ => false) ⟨.validate, true⟩
      { textual with name := ⟨true, "type"⟩ } (.start .empty) ≠ .ok result := by
  have bare : Proceeds ⟨.validate, true⟩ { textual with name := .plain "type" } :=
    Laid.keyword.proceeds _
  have path : Target.builderPath { textual with name := .plain "type" } = "typeBuilder.rs" := by
    decide +kernel
  refine ⟨by decide, ?_, fun result produced => ?_⟩
  · rw [verdict_memory (by decide) bare, path]
    rfl
  · have silent : ((Target.builder { textual with name := ⟨true, "type"⟩ }
        ⟨true, "type"⟩).source true).isOk = false := by decide +kernel
    obtain ⟨-, turned | written⟩ := (exists_produce_iff _ _).1 ⟨_, produced⟩
    · exact absurd turned (by decide)
    · have laid := (Target.exists_source_iff ⟨true, "type"⟩ rfl _).1 written
      exact Bool.false_ne_true (silent.symm.trans laid)

end Round

end FluentGen
