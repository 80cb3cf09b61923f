/-!
# Running a builder

What a builder does when it is used: it has a slot for every field, a setter fills the slot of its
field, and building empties the slots into the setters of a new object.
-/

namespace FluentGen

/-- An object that a builder makes, with the fields that the builder manages. -/
structure Recipe (φ : Type) (V : φ → Type) (β : Type) where
  /-- The fields in the order of their declaration. -/
  fields : List φ
  /-- No field is declared twice. -/
  distinct : fields.Nodup
  /-- There are no other fields. -/
  complete : ∀ field, field ∈ fields
  /-- The object that nothing has been set in. -/
  default : β
  /-- The setter of a field. -/
  set : (field : φ) → V field → β → β

/-- The slots of a builder, which hold a value or nothing. -/
def Slots {φ : Type} (V : φ → Type) : Type :=
  (field : φ) → Option (V field)

namespace Slots

variable {φ : Type} {V : φ → Type}

/-- The slots of a fresh builder. -/
def empty : Slots V :=
  fun _ => none

variable [DecidableEq φ]

/-- Fills the slot of a field. -/
def fill (field : φ) (value : V field) (slots : Slots V) : Slots V :=
  fun other => if same : field = other then some (same ▸ value) else slots other

/-- A slot that is filled holds the value. -/
@[simp]
theorem fill_same (field : φ) (value : V field) (slots : Slots V) :
    slots.fill field value field = some value := by
  simp [fill]

/-- The other slots hold what they did. -/
theorem fill_of_ne {field other : φ} (apart : field ≠ other) (value : V field) (slots : Slots V) :
    slots.fill field value other = slots other := by
  simp [fill, apart]

/-- Empties the slot of a field. -/
def clear (field : φ) (slots : Slots V) : Slots V :=
  fun other => if field = other then none else slots other

end Slots

/-- A call to a builder. -/
inductive Call {φ : Type} (V : φ → Type) where
  /-- The setter of a field is called. -/
  | set (field : φ) (value : V field)
  /-- An object is built. -/
  | build
  /-- The builder is replaced by a fresh one. -/
  | renew

namespace Recipe

variable {φ β : Type} {V : φ → Type} [DecidableEq φ]

/-- Moves the value of a slot, if there is one, into the object. -/
def drain (recipe : Recipe φ V β) (state : β × Slots V) (field : φ) : β × Slots V :=
  match state.2 field with
  | some value => (recipe.set field value state.1, state.2.clear field)
  | none => state

/-- Makes an object from the slots. -/
def build (recipe : Recipe φ V β) (slots : Slots V) : β × Slots V :=
  recipe.fields.foldl recipe.drain (recipe.default, slots)

/-- What a call does to the slots, and the object that it makes, if it makes one. -/
def step (recipe : Recipe φ V β) (call : Call V) (slots : Slots V) : Option β × Slots V :=
  match call with
  | .set field value => (none, slots.fill field value)
  | .build =>
    let (object, slots) := recipe.build slots
    (some object, slots)
  | .renew => (none, .empty)

/-- The objects that calls make one after another, and the slots behind them. -/
def run (recipe : Recipe φ V β) : List (Call V) → Slots V → List β × Slots V
  | [], slots => ([], slots)
  | call :: calls, slots =>
    let (object?, slots) := recipe.step call slots
    let (objects, slots) := run recipe calls slots
    (object?.toList ++ objects, slots)

/-- The same object with a record of the setters that have been called. -/
def recording (recipe : Recipe φ V β) (name : φ → String) (before : List String) :
    Recipe φ V (β × List String) where
  fields := recipe.fields
  distinct := recipe.distinct
  complete := recipe.complete
  default := (recipe.default, before)
  set field value object := (recipe.set field value object.1, object.2 ++ [name field])

end Recipe

end FluentGen
