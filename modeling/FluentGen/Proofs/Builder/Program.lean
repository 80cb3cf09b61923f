import FluentGen.Builder.Program
import FluentGen.Proofs.Builder.Declarations
import FluentGen.Proofs.Builder.Names
import FluentGen.Proofs.Builder.Run
import Mathlib.Data.List.FinRange

/-!
# What the code of a builder does

The code of a builder is the code of its methods (`Builder.methodsCode_eq`), whose bodies can be
read off their tokens (`Builder.Body.code_injective`). Run one after another, they do what the
recipe of the builder says: its slots are the fields in their order, a method fills the slot of its
field, and the last one drains the slots in order (`Builder.code_runs`).
-/

namespace FluentGen.Builder

open Token

/-! ## Reading bodies -/

/-- The tokens of a statement tell the statement, whatever follows. -/
lemma Statement.code_append_inj {first second : Statement} {rest more : List Token}
    (same : first.code ++ rest = second.code ++ more) : first = second ∧ rest = more := by
  cases first <;> cases second <;>
    simp_all [Statement.code, operator, operatorChars, optionPath, Token.path, group, word,
      defaultCall, mutSelf, Name.plain]

/-- The tokens of a statement are not the end of a body. -/
lemma Statement.code_append_ne_ending (statement : Statement) (rest : List Token)
    (ending : Ending) : statement.code ++ rest ≠ ending.code := by
  cases statement <;> cases ending <;>
    simp [Statement.code, Ending.code, operator, operatorChars, optionPath, Token.path, group,
      word, defaultCall, mutSelf]

/-- The tokens of a body tell the body. -/
lemma Body.code_injective : Function.Injective Body.code := by
  rintro ⟨statements, ending⟩ ⟨others, last⟩ same
  simp only [Body.code] at same
  induction statements generalizing others with
  | nil =>
    cases others with
    | nil =>
      cases ending <;> cases last <;>
        simp_all [Ending.code, defaultCall, operator, operatorChars, Token.path, group]
    | cons other others =>
      rw [List.flatMap_cons, List.append_assoc] at same
      exact absurd same.symm (other.code_append_ne_ending _ _)
  | cons statement statements ih =>
    cases others with
    | nil =>
      rw [List.flatMap_cons, List.append_assoc] at same
      exact absurd same (statement.code_append_ne_ending _ _)
    | cons other others =>
      rw [List.flatMap_cons, List.flatMap_cons, List.append_assoc, List.append_assoc] at same
      obtain ⟨rfl, rest⟩ := Statement.code_append_inj same
      obtain ⟨rfl, rfl⟩ := Body.mk.inj (ih others rest)
      rfl

/-! ## The code of the methods -/

/-- The constructor is a program. -/
lemma newCode_eq : newCode = newMethod.code := by
  rfl

/-- The method of a field is a program. -/
lemma setterCode_eq (builder : Name) (field : Field) :
    setterCode builder field = (setterMethod builder field).code := by
  simp [setterCode, Method.code, setterMethod, Parameters.code, Body.code, Statement.code,
    Ending.code, word]

/-- The statements of the last method are the ones that move the values of the fields. -/
lemma flatMap_moveCode (holder : Name) (fields : List Field) :
    fields.flatMap (moveCode holder) =
      (fields.map (moveStatement holder)).flatMap Statement.code := by
  rw [List.flatMap_map]
  rfl

/-- The last method is a program. -/
lemma buildCode_eq (target holder : Name) (fields : List Field) :
    buildCode target holder fields = (buildMethod target holder fields).code := by
  simp [buildCode, Method.code, buildMethod, Parameters.code, Body.code, Ending.code,
    flatMap_moveCode, Statement.code, word]

/-- The braces of the `impl` block of a builder enclose its methods. -/
lemma methodsCode_eq (builder : Builder) :
    builder.methodsCode = builder.methods.flatMap Method.code := by
  have setters : (setterCodes builder.name builder.fields).flatten =
      (builder.fields.map (setterMethod builder.name)).flatMap Method.code := by
    rw [setterCodes, List.flatMap_map, List.flatMap_def]
    exact congrArg _ (List.map_congr_left fun field _ => setterCode_eq builder.name field)
  simp [methodsCode, methods, newCode_eq, setters, buildCode_eq]

/-! ## What the methods do -/

variable {Value β : Type}

/-- How a builder builds, if its target has a default and methods of its own. -/
def recipe (builder : Builder) (default : β) (call : String → Value → β → β) :
    Recipe (Fin builder.fields.length) (fun _ => Value) β where
  fields := List.finRange builder.fields.length
  distinct := List.nodup_finRange _
  complete := List.mem_finRange
  default
  set index := call (targetSetter (builder.fields.get index)).text

section

variable {builder : Builder} {default : β} {call : String → Value → β → β}
variable {index : Fin builder.fields.length} {object : β} {value : Value}
variable {slots : Slots fun _ : Fin builder.fields.length => Value}

/-- If the fields are called differently, a field is found by its name. -/
lemma slot?_scene (distinct : (builder.fields.map (·.name.text)).Nodup) :
    (builder.scene default call).slot? (builder.fields.get index).name.text = some index := by
  rw [scene, List.findFinIdx?_eq_some_iff]
  have apart := List.pairwise_iff_getElem.1 (List.pairwise_map.1 distinct)
  refine ⟨by simp, fun other before => ?_⟩
  simpa using apart other index other.isLt index.isLt before

/-- The constructor leaves all slots empty. -/
lemma run_newMethod :
    newMethod.run (builder.scene default call) none slots = some (none, .empty) := by
  rfl

/-- The method of a field fills the slot of the field. -/
lemma run_setterMethod (distinct : (builder.fields.map (·.name.text)).Nodup)
    (free : (builder.fields.get index).name.text ≠ "self") :
    (setterMethod builder.name (builder.fields.get index)).run (builder.scene default call)
      (some value) slots = some (none, slots.fill index value) := by
  have found : (builder.scene default call).slot? (builder.fields.get index).name.text = some index :=
    slot?_scene distinct
  generalize builder.fields.get index = field at free found
  simp [Method.run, setterMethod, Parameters.names, Statement.run, Name.plain,
    Slots.fill_of_ne free, found]

/--
In the last method, the object itself stands for the builder and the variable for the object that
is made.
-/
structure Holds (holder : Name) (state : State (Fin builder.fields.length) Value β)
    (made : β × Slots fun _ : Fin builder.fields.length => Value) : Prop where
  slots : state.slots = made.2
  self : state.names "self" = some .builder
  object : state.names holder.text = some (.object made.1)

/-- At first, the variable stands for the default. -/
lemma holds_create {holder : Name} (other : holder.text ≠ "self") (default : β)
    (slots : Slots fun _ : Fin builder.fields.length => Value) :
    Holds holder ⟨slots, (Slots.empty.fill "self" .builder).fill holder.text (.object default)⟩
      (default, slots) :=
  ⟨rfl, (Slots.fill_of_ne other ..).trans (Slots.fill_same ..), Slots.fill_same ..⟩

/-- Moving the value of a field drains its slot. -/
lemma run_moveStatement (default : β) (call : String → Value → β → β) {holder : Name}
    {state : State (Fin builder.fields.length) Value β}
    {made : β × Slots fun _ : Fin builder.fields.length => Value}
    (distinct : (builder.fields.map (·.name.text)).Nodup)
    (apart : ["self", holder.text, (boundName holder).text].Nodup)
    (holds : Holds holder state made) (index : Fin builder.fields.length) : ∃ after,
      (moveStatement holder (builder.fields.get index)).run (builder.scene default call) state =
        some after ∧
      Holds holder after ((builder.recipe default call).drain made index) := by
  have found : (builder.scene default call).slot? (builder.fields.get index).name.text = some index :=
    slot?_scene distinct
  obtain ⟨object, slots⟩ := made
  obtain ⟨rfl, self, known⟩ := holds
  simp only [List.nodup_cons, List.mem_cons, List.not_mem_nil, or_false, not_or] at apart
  obtain ⟨⟨other, -⟩, unbound, -⟩ := apart
  cases filled : state.slots index with
  | none =>
    refine ⟨state, ?_, ?_⟩
    · simp only [moveStatement, Statement.run, self, found, filled]
    · rw [Recipe.drain]
      simp only [filled]
      exact ⟨rfl, self, known⟩
  | some value =>
    -- the bound name does not hide the variable
    have visible : (state.names.fill (boundName holder).text (.value value)) holder.text =
        some (.object object) := by
      rw [Slots.fill_of_ne (Ne.symm unbound), known]
    refine ⟨⟨state.slots.clear index, state.names.fill holder.text
      (.object (call (targetSetter (builder.fields.get index)).text value object))⟩, ?_, ?_⟩
    · simp only [moveStatement, Statement.run, self, found, filled, visible]
      rfl
    · rw [Recipe.drain]
      simp only [filled]
      exact ⟨rfl, (Slots.fill_of_ne (Ne.symm other) ..).trans self, Slots.fill_same ..⟩

/-- Moving the values of some fields drains their slots one after another. -/
lemma run_moveStatements (default : β) (call : String → Value → β → β) {holder : Name}
    {state : State (Fin builder.fields.length) Value β}
    {made : β × Slots fun _ : Fin builder.fields.length => Value}
    (distinct : (builder.fields.map (·.name.text)).Nodup)
    (apart : ["self", holder.text, (boundName holder).text].Nodup)
    (holds : Holds holder state made) (indices : List (Fin builder.fields.length)) : ∃ after,
      (indices.map fun index => moveStatement holder (builder.fields.get index)).foldlM
        (Statement.run (builder.scene default call)) state = some after ∧
      Holds holder after (indices.foldl (builder.recipe default call).drain made) := by
  induction indices generalizing state made with
  | nil => exact ⟨state, rfl, holds⟩
  | cons index indices ih =>
    obtain ⟨next, ran, holds⟩ := run_moveStatement default call distinct apart holds index
    obtain ⟨after, rest, done⟩ := ih holds
    refine ⟨after, ?_, done⟩
    rw [List.map_cons, List.foldlM_cons, ran]
    exact rest

/-- The last method makes what the recipe makes, and leaves what the recipe leaves. -/
lemma run_buildMethod (distinct : (builder.fields.map (·.name.text)).Nodup)
    (apart : ["self", builder.holder.text, (boundName builder.holder).text].Nodup) :
    (buildMethod builder.target builder.holder builder.fields).run (builder.scene default call)
      none slots =
        some (some ((builder.recipe default call).build slots).1,
          ((builder.recipe default call).build slots).2) := by
  have moves : builder.fields.map (moveStatement builder.holder) =
      (List.finRange builder.fields.length).map fun index =>
        moveStatement builder.holder (builder.fields.get index) := by
    conv_lhs => rw [← List.map_get_finRange builder.fields, List.map_map]
    rfl
  have other : builder.holder.text ≠ "self" := by
    rintro same
    simp [same] at apart
  have created : Statement.run (builder.scene default call)
      ⟨slots, Slots.empty.fill "self" .builder⟩ (.create builder.holder builder.target) =
        some ⟨slots, (Slots.empty.fill "self" .builder).fill builder.holder.text
          (.object default)⟩ :=
    if_pos rfl
  obtain ⟨after, ran, done⟩ := run_moveStatements default call distinct apart
    (holds_create other default slots) (List.finRange builder.fields.length)
  simp only [Method.run, buildMethod, Parameters.names, moves, List.foldlM_cons]
  simp only [created, ran, done.object, done.slots, bind, Option.bind]
  rfl

/-- The methods of a builder do what its recipe says, call by call. -/
lemma run_method (distinct : (builder.fields.map (·.name.text)).Nodup)
    (free : ∀ field ∈ builder.fields, field.name.text ≠ "self")
    (apart : ["self", builder.holder.text, (boundName builder.holder).text].Nodup)
    (one : Call fun _ : Fin builder.fields.length => Value) :
    (builder.method one).1.run (builder.scene default call) (builder.method one).2 slots =
      some ((builder.recipe default call).step one slots) := by
  cases one with
  | set index value => exact run_setterMethod distinct (free _ (List.getElem_mem _))
  | build => exact run_buildMethod distinct apart
  | renew => exact run_newMethod

end

/-- A call is for one of the methods of the builder. -/
lemma method_mem_methods (builder : Builder)
    (one : Call fun _ : Fin builder.fields.length => Value) :
    (builder.method one).1 ∈ builder.methods := by
  cases one with
  | set index value =>
    have inside : setterMethod builder.name (builder.fields.get index) ∈
        builder.fields.map (setterMethod builder.name) :=
      List.mem_map_of_mem (List.getElem_mem _)
    exact .tail _ (List.mem_append_left _ inside)
  | build => exact List.mem_append_right _ (List.mem_singleton_self _)
  | renew => exact .head _

/-- The slots of a builder are called like the fields, in their order. -/
lemma nameHere?_slots (builder : Builder) (default : β) (call : String → Value → β → β) :
    (slots builder.fields).map nameHere? =
      (builder.recipe default call).fields.map fun index => some (builder.fields.get index).name := by
  have named : (slots builder.fields).map nameHere? = builder.fields.map (some ·.name) := by
    rw [slots, List.map_map]
    rfl
  rw [named, recipe]
  conv_lhs => rw [← List.map_get_finRange builder.fields, List.map_map]
  rfl

/--
The code of the builder of a target does what the recipe of the builder says. It has the slots of
the recipe, and the programs of its methods, which do the same as the recipe whatever is called one
after another, in whichever state, for any default and any methods of the target. Fields are called
differently from each other and from the object itself.
-/
theorem code_runs {target : Target} {builder : Builder} (made : ofTarget target = .ok builder)
    (distinct : (target.privateFields.map (·.name.text)).Nodup)
    (free : ∀ field ∈ target.privateFields, field.name.text ≠ "self") (default : β)
    (call : String → Value → β → β) :
    (slots builder.fields).map nameHere? =
      (builder.recipe default call).fields.map (fun index => some (builder.fields.get index).name) ∧
    builder.code = builder.structCode ++ [word "impl", .ident builder.name] ++
      group .brace (builder.methods.flatMap Method.code) ∧
    (∀ one : Call fun _ : Fin builder.fields.length => Value,
      (builder.method one).1 ∈ builder.methods) ∧
    ∀ calls slots, builder.runCode default call calls slots =
      some ((builder.recipe default call).run calls slots) := by
  obtain ⟨apart, fields⟩ : ["self", builder.holder.text, (boundName builder.holder).text].Nodup ∧
      builder.fields = target.privateFields := by
    obtain ⟨holder, usable, rfl⟩ := exists_holder made
    exact ⟨nodup_boundNames usable, rfl⟩
  rw [← fields] at distinct free
  refine ⟨nameHere?_slots .., by rw [code_eq_methods, methodsCode_eq], method_mem_methods builder,
    fun calls => ?_⟩
  induction calls with
  | nil => exact fun _ => rfl
  | cons one calls ih =>
    intro slots
    rw [runCode]
    simp only [run_method distinct free apart, ih, bind, Option.bind]
    rfl

/--
So the code of a builder makes one object after another from the last values that it was given since
the one before or since the builder was fresh, by the setters of the target in the order of the
fields, and leaves its slots as they are held.
-/
theorem runCode_held {target : Target} {builder : Builder} (made : ofTarget target = .ok builder)
    (distinct : (target.privateFields.map (·.name.text)).Nodup)
    (free : ∀ field ∈ target.privateFields, field.name.text ≠ "self") (default : β)
    (call : String → Value → β → β)
    (calls : List (Call fun _ : Fin builder.fields.length => Value)) :
    builder.runCode default call calls .empty =
      some ((Call.histories calls).map fun before =>
        (builder.recipe default call).assemble (Call.held before), Call.held calls) := by
  obtain ⟨-, -, -, runs⟩ := code_runs made distinct free default call
  rw [runs, Recipe.run_eq]

end FluentGen.Builder
