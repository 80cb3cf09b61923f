import FluentGen.Sample.User
import Mathlib.Data.List.DropRight

/-!
# What a run of a builder makes

The slots of a builder always hold what the history of its calls says: for every field the last
value since the latest object or fresh builder (`Call.held`). An object is made from these values
alone, by one setter for each of them in the order of declaration (`Recipe.assemble`). The main
statement `Recipe.run_history` says so for every run; the order in which setters of different fields
are called is lost.
-/

namespace FluentGen

namespace Call

variable {φ : Type} {V : φ → Type}

/-- Whether a call is the setter of a field. -/
def isSet : Call V → Bool
  | .set .. => true
  | _ => false

/-- Whether a call makes an object. -/
def isBuild : Call V → Bool
  | .build => true
  | _ => false

/-- The setters that are called since the latest object or fresh builder. -/
def stretch (calls : List (Call V)) : List (Call V) :=
  calls.rtakeWhile isSet

/-- For each object that is made, the calls before it. -/
def histories : List (Call V) → List (List (Call V))
  | [] => []
  | call :: calls => (if call.isBuild then [[]] else []) ++ (histories calls).map (call :: ·)

/-- A last call that makes an object has all others as its history. -/
lemma histories_concat (calls : List (Call V)) (call : Call V) :
    histories (calls ++ [call]) = histories calls ++ if call.isBuild then [calls] else [] := by
  induction calls with
  | nil => cases call <;> rfl
  | cons first calls ih =>
    simp only [List.cons_append, histories, ih, List.map_append, List.append_assoc]
    cases call <;> rfl

variable [DecidableEq φ]

/-- The value that a call gives to a field. -/
def value? (field : φ) : Call V → Option (V field)
  | .set other value => if same : other = field then some (same ▸ value) else none
  | _ => none

/-- The values that calls give to a field, one after another. -/
def values (field : φ) (calls : List (Call V)) : List (V field) :=
  calls.filterMap (value? field)

/-- The last value of every field since the latest object or fresh builder. -/
def held (calls : List (Call V)) : Slots V :=
  fun field => (values field (stretch calls)).getLast?

/-- A setter overrides what is held for its field and no other. -/
lemma held_set (calls : List (Call V)) (field : φ) (value : V field) :
    held (calls ++ [.set field value]) = (held calls).fill field value := by
  funext other
  have longer : stretch (calls ++ [.set field value]) = stretch calls ++ [.set field value] :=
    List.rtakeWhile_concat_pos _ _ _ rfl
  simp only [held, values, longer, List.filterMap_append, Slots.fill]
  by_cases same : field = other
  · simp [value?, same]
  · simp [value?, same]

/-- Nothing is held behind a call that is no setter. -/
lemma held_other (calls : List (Call V)) {call : Call V} (other : call.isSet = false) :
    held (calls ++ [call]) = .empty := by
  funext field
  have none : stretch (calls ++ [call]) = [] :=
    List.rtakeWhile_concat_neg _ _ _ (by simp [other])
  simp [held, values, none, Slots.empty]

end Call

namespace Recipe

variable {φ β : Type} {V : φ → Type}

/-- The fields that have a value, in the order of declaration, with their values. -/
def given (recipe : Recipe φ V β) (slots : Slots V) : List (Sigma V) :=
  recipe.fields.filterMap fun field => (slots field).map (Sigma.mk field)

/-- The object of some values: the setter of every field with a value is called once. -/
def assemble (recipe : Recipe φ V β) (slots : Slots V) : β :=
  (recipe.given slots).foldl (fun object setting => recipe.set setting.1 setting.2 object)
    recipe.default

/-- A recipe that keeps a record makes the same objects, and puts every setter on record. -/
lemma assemble_recording (recipe : Recipe φ V β) (name : φ → String) (before : List String)
    (slots : Slots V) :
    (recipe.recording name before).assemble slots =
      (recipe.assemble slots, before ++ (recipe.given slots).map (name ·.1)) := by
  have both : ∀ (settings : List (Sigma V)) (object : β) (record : List String),
      settings.foldl (fun object setting =>
          (recipe.recording name before).set setting.1 setting.2 object) (object, record) =
        (settings.foldl (fun object setting => recipe.set setting.1 setting.2 object) object,
          record ++ settings.map (name ·.1)) := by
    intro settings
    induction settings with
    | nil => simp
    | cons setting settings ih =>
      intro object record
      rw [List.foldl_cons, List.foldl_cons, List.map_cons]
      rw [show (recipe.recording name before).set setting.1 setting.2 (object, record) =
        (recipe.set setting.1 setting.2 object, record ++ [name setting.1]) from rfl, ih]
      simp
  exact both _ _ _

variable [DecidableEq φ]

/-- Draining some fields calls their setters in order and empties their slots and no others. -/
lemma foldl_drain (recipe : Recipe φ V β) {fields : List φ} (distinct : fields.Nodup)
    (object : β) (slots : Slots V) :
    fields.foldl recipe.drain (object, slots) =
      ((fields.filterMap fun field => (slots field).map (Sigma.mk field)).foldl
          (fun object setting => recipe.set setting.1 setting.2 object) object,
        fun field => if field ∈ fields then none else slots field) := by
  induction fields generalizing object slots with
  | nil =>
    refine Prod.ext rfl (funext fun field => ?_)
    simp
  | cons first fields ih =>
    obtain ⟨fresh, distinct⟩ := List.nodup_cons.1 distinct
    rw [List.foldl_cons]
    cases filled : slots first with
    | none =>
      have idle : recipe.drain (object, slots) first = (object, slots) := by
        simp [drain, filled]
      rw [idle, ih distinct, List.filterMap_cons_none (by simp [filled])]
      refine Prod.ext rfl (funext fun field => ?_)
      by_cases same : field = first
      · subst same
        simp [filled]
      · simp [same]
    | some value =>
      have moved : recipe.drain (object, slots) first =
          (recipe.set first value object, slots.clear first) := by
        simp [drain, filled]
      -- the slots of the other fields are still what they were
      have kept : ∀ field ∈ fields, (slots.clear first) field = slots field := by
        intro field inside
        have apart : first ≠ field := fun same => fresh (same ▸ inside)
        simp [Slots.clear, apart]
      rw [moved, ih distinct, List.filterMap_cons_some (b := ⟨first, value⟩) (by simp [filled]),
        List.foldl_cons,
        List.filterMap_congr fun field inside => congrArg _ (kept field inside)]
      refine Prod.ext rfl (funext fun field => ?_)
      by_cases same : first = field
      · simp [Slots.clear, same]
      · simp [Slots.clear, same, Ne.symm same]

/-- Building makes the object of the slots and empties all of them. -/
lemma build_eq (recipe : Recipe φ V β) (slots : Slots V) :
    recipe.build slots = (recipe.assemble slots, .empty) := by
  rw [build, foldl_drain recipe recipe.distinct, assemble, given]
  refine Prod.ext rfl (funext fun field => ?_)
  simp [recipe.complete, Slots.empty]

/-- A run may be interrupted. -/
lemma run_append (recipe : Recipe φ V β) (calls more : List (Call V)) (slots : Slots V) :
    recipe.run (calls ++ more) slots =
      ((recipe.run calls slots).1 ++ (recipe.run more (recipe.run calls slots).2).1,
        (recipe.run more (recipe.run calls slots).2).2) := by
  induction calls generalizing slots with
  | nil => rfl
  | cons call calls ih => simp [run, ih]

/-- The invariant of a run: what one more call makes and leaves, given what is held before it. -/
lemma step_held (recipe : Recipe φ V β) (calls : List (Call V)) (call : Call V) :
    recipe.step call (Call.held calls) =
      (if call.isBuild then some (recipe.assemble (Call.held calls)) else none,
        Call.held (calls ++ [call])) := by
  cases call with
  | set field value => rw [Call.held_set]; rfl
  | build =>
    rw [Call.held_other _ rfl]
    simp [step, build_eq, Call.isBuild]
  | renew => rw [Call.held_other _ rfl]; rfl

/-- The objects of a run and the slots behind it, by the history of its calls. -/
lemma run_eq (recipe : Recipe φ V β) (calls : List (Call V)) :
    recipe.run calls .empty =
      ((Call.histories calls).map fun before => recipe.assemble (Call.held before),
        Call.held calls) := by
  induction calls using List.reverseRecOn with
  | nil => rfl
  | append_singleton calls call ih =>
    rw [run_append, ih, Call.histories_concat]
    simp only [run, step_held]
    cases call <;> simp [Call.isBuild]

/-- Setters make nothing; each slot gets the last value that they give to its field. -/
lemma run_sets (recipe : Recipe φ V β) {calls : List (Call V)} (sets : ∀ call ∈ calls, call.isSet)
    (slots : Slots V) :
    recipe.run calls slots =
      ([], fun field => (Call.values field calls).getLast?.or (slots field)) := by
  induction calls using List.reverseRecOn with
  | nil => rfl
  | append_singleton calls call ih =>
    rw [run_append, ih fun other inside => sets other (List.mem_append_left _ inside)]
    cases call with
    | set field value =>
      refine Prod.ext rfl (funext fun other => ?_)
      simp only [run, step, Call.values, List.filterMap_append, Slots.fill]
      by_cases same : field = other
      · simp [Call.value?, same]
      · simp [Call.value?, same]
    | build => exact absurd (sets .build (by simp)) (by simp [Call.isSet])
    | renew => exact absurd (sets .renew (by simp)) (by simp [Call.isSet])

/--
What a run from a fresh builder makes. Each build makes the object that is assembled from the last
values since the latest object or fresh builder, and leaves all slots empty. Setters may be called
in any other order that is the same for each field by itself. A record of the setters holds the
fields with a value, in the order of declaration.
-/
theorem run_history (recipe : Recipe φ V β) :
    (∀ calls, recipe.run calls .empty =
      ((Call.histories calls).map fun before => recipe.assemble (Call.held before),
        Call.held calls)) ∧
    (∀ calls, (recipe.run (calls ++ [.build]) .empty).2 = .empty) ∧
    (∀ before first second after : List (Call V), (∀ call ∈ first ++ second, call.isSet) →
      (∀ field, Call.values field first = Call.values field second) →
      recipe.run (before ++ first ++ after) .empty =
        recipe.run (before ++ second ++ after) .empty) ∧
    ∀ name record calls, (recipe.recording name record).run calls .empty =
      ((Call.histories calls).map fun before => (recipe.assemble (Call.held before),
        record ++ (recipe.given (Call.held before)).map (name ·.1)), Call.held calls) := by
  refine ⟨recipe.run_eq, fun calls => ?_, fun before first second after sets same => ?_,
    fun name record calls => ?_⟩
  · rw [run_eq, Call.held_other _ rfl]
  · have left := recipe.run_sets fun call inside => sets call (List.mem_append_left _ inside)
    have right := recipe.run_sets fun call inside => sets call (List.mem_append_right _ inside)
    simp only [List.append_assoc, run_append, left, right, same]
  · simp only [run_eq, assemble_recording]

/-- Two setters change places in the middle of a run. -/
theorem run_history_user :
    User.recipe.run [.build, .set .email "b", .set .name "a", .build] .empty =
      User.recipe.run [.build, .set .name "a", .set .email "b", .build] .empty :=
  (run_history User.recipe).2.2.1 [.build] [.set .email "b", .set .name "a"]
    [.set .name "a", .set .email "b"] [.build] (by decide) (fun field => by cases field <;> rfl)

end Recipe

end FluentGen
