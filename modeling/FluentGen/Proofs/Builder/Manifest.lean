import FluentGen.Proofs.Builder.Selection
import FluentGen.Proofs.Text.Json
import Mathlib.Data.List.Forall2

/-!
# What a manifest tells

A manifest is the text of one JSON value and of no other. It is the same for two targets just if
they agree on their module, on their names and on the names and type texts of their private fields,
and its setters follow its fields (`Builder.manifest_lossless`).
-/

namespace FluentGen

/-- What a manifest shows of a field: its name without a mark, and the text of its type. -/
def Field.shown (field : Field) : String × String :=
  (field.name.text, field.type.text)

namespace Json

/-- The entry of a field, from what is shown of it. -/
def ofField (shown : String × String) : Json :=
  .object [("name", .string shown.1), ("ty", .string shown.2)]

/-- The entry of a setter, from the name of its field and the name of its builder. -/
def ofSetter (field builder : String) : Json :=
  .object [("name", .string field), ("field", .string field), ("returns", .string builder)]

/-- The setter is called after the field, stores into it and returns the class. -/
def Sets (className : String) (field setter : Json) : Prop :=
  ∃ name, field.get? "name" = some (.string name) ∧ setter.get? "name" = some (.string name) ∧
    setter.get? "field" = some (.string name) ∧ setter.get? "returns" = some (.string className)

/-- The value lists one setter for each of its fields, in the order of the fields. -/
def ListsSetters (manifest : Json) : Prop :=
  ∃ className fields setters, manifest.get? "class_name" = some (.string className) ∧
    manifest.get? "fields" = some (.array fields) ∧
    manifest.get? "setters" = some (.array setters) ∧ List.Forall₂ (Sets className) fields setters

/-- The entry of a field tells what is shown of it. -/
lemma ofField_injective : Function.Injective ofField := by
  intro shown other same
  simp only [ofField, object.injEq, List.cons.injEq, Prod.mk.injEq, string.injEq, true_and,
    and_true] at same
  exact Prod.ext same.1 same.2

end Json

namespace Builder

/-- The JSON value whose text is the manifest. -/
def record (builder : Builder) : Json :=
  .object [("package", .string builder.package), ("class_name", .string builder.name.text),
    ("target", .string builder.target.text),
    ("fields", .array (builder.fields.map fun field => .ofField field.shown)),
    ("setters", .array (builder.fields.map fun field =>
      .ofSetter field.name.text builder.name.text))]

/-- The manifest is the text of a JSON value. -/
lemma text_record (builder : Builder) : builder.record.text = builder.manifest := by
  have field : ∀ field : Field, (Json.ofField field.shown).text = field.json := by
    intro field
    simp [Json.ofField, Json.text, Field.shown, Field.json, Tree.json]
  have setter : ∀ field : Field,
      (Json.ofSetter field.name.text builder.name.text).text = builder.setterJson field := by
    intro field
    simp [Json.ofSetter, Json.text, setterJson]
  simp [record, manifest, Json.text, Function.comp_def, field, setter]

/-- The values of two builders agree just if what they show agrees. -/
lemma record_eq_iff (builder other : Builder) :
    builder.record = other.record ↔ builder.package = other.package ∧
      builder.target.text = other.target.text ∧ builder.name.text = other.name.text ∧
      builder.fields.map Field.shown = other.fields.map Field.shown := by
  constructor
  · intro same
    simp only [record, Json.object.injEq, List.cons.injEq, Prod.mk.injEq, Json.string.injEq,
      Json.array.injEq, true_and, and_true] at same
    obtain ⟨package, name, target, fields, -⟩ := same
    refine ⟨package, target, name, Json.ofField_injective.list_map ?_⟩
    simpa only [List.map_map, Function.comp_def] using fields
  · rintro ⟨package, target, name, fields⟩
    have fieldEntries := congrArg (List.map Json.ofField) fields
    have setterEntries := congrArg (List.map fun shown => Json.ofSetter shown.1 other.name.text) fields
    simp only [List.map_map, Function.comp_def, Field.shown] at fieldEntries setterEntries
    simp only [record, package, target, name, Field.shown, fieldEntries, setterEntries]

/-- The setters of a builder follow its fields. -/
lemma listsSetters_record (builder : Builder) : builder.record.ListsSetters := by
  refine ⟨builder.name.text, _, _, rfl, rfl, rfl, ?_⟩
  rw [List.forall₂_map_left_iff, List.forall₂_map_right_iff, List.forall₂_same]
  intro field _
  exact ⟨field.name.text, rfl, rfl, rfl, rfl⟩

/-- A builder shows the module, the name and the private fields of its target. -/
lemma shows_target {target : Target} {builder : Builder} (made : ofTarget target = .ok builder) :
    builder.package = target.package ∧ builder.target = target.name ∧
      builder.fields = target.privateFields := by
  obtain ⟨holder, rfl⟩ := exists_eq_builder made
  exact ⟨rfl, rfl, rfl⟩

/--
Two manifests are equal just if the targets agree on their module, their name, the name of their
builder and the names and type texts of their private fields, one after another. A manifest is the
text of one value only, which lists one setter for each field, in the order of the fields.
-/
theorem manifest_lossless {target other : Target} {builder another : Builder}
    (made : ofTarget target = .ok builder) (remade : ofTarget other = .ok another) :
    (builder.manifest = another.manifest ↔ target.package = other.package ∧
      target.name.text = other.name.text ∧ builder.name.text = another.name.text ∧
      target.privateFields.map Field.shown = other.privateFields.map Field.shown) ∧
    ∃ value : Json, (∀ read : Json, read.text = builder.manifest ↔ read = value) ∧
      value.ListsSetters := by
  obtain ⟨package, name, fields⟩ := shows_target made
  obtain ⟨package', name', fields'⟩ := shows_target remade
  refine ⟨?_, builder.record, ?_, builder.listsSetters_record⟩
  · rw [← text_record, ← text_record, Json.text_injective.eq_iff, record_eq_iff, package, package',
      name, name', fields, fields']
  · intro read
    rw [← text_record, Json.text_injective.eq_iff]

/--
A module that is written like the next entry of a manifest is told from no module, and a field that
is left out because it is public from one that is not.
-/
theorem manifest_lossless_quoted :
    let plain := Target.bare "A" [.ofField "a" "u8", .ofField "b" "u8"]
    let quoting := { plain with package := "\",\"class_name\":\"ABuilder" }
    let opened := Target.bare "A" [.ofField "a" "u8", { Member.ofField "b" "u8" with
      visibility := .exported }]
    ∃ builder another third, ofTarget plain = .ok builder ∧ ofTarget quoting = .ok another ∧
      ofTarget opened = .ok third ∧ builder.manifest ≠ another.manifest ∧
      builder.manifest ≠ third.manifest ∧ builder.record.ListsSetters := by
  intro plain quoting opened
  have named : plain.name.text ≠ "_" := by decide
  have renamed : quoting.name.text ≠ "_" := by decide
  have alike : opened.name.text ≠ "_" := by decide
  obtain ⟨holder, made⟩ := exists_ofTarget named
  obtain ⟨holder', remade⟩ := exists_ofTarget renamed
  obtain ⟨holder'', remake⟩ := exists_ofTarget alike
  obtain ⟨tells, value, only, lists⟩ := manifest_lossless made remade
  have tellsFields := (manifest_lossless made remake).1
  refine ⟨_, _, _, made, remade, remake, ?_, ?_, ?_⟩
  · intro same
    exact absurd (tells.1 same).1 (by decide)
  · intro same
    exact absurd (tellsFields.1 same).2.2.2 (by decide)
  · rwa [(only _).1 (text_record _)]

end Builder

end FluentGen
