import FluentGen.Path
import Mathlib.Data.List.Basic
import Mathlib.Logic.Relation
import Mathlib.Tactic.Lemma

/-!
# Spellings of paths

Two texts are spellings of one path just if slashes that are repeated or at the end, and dots that
are not at the beginning, are all that tells them apart (`Path.components_eq_iff`).
-/

namespace FluentGen.Path

/-! ## Parts -/

/-- A name without slashes is a single part. -/
lemma slashParts_of_notMem {name : List Char} (plain : '/' ∉ name) : slashParts name = [name] := by
  induction name with
  | nil => rfl
  | cons c name ih =>
    obtain ⟨here, others⟩ := not_or.1 (List.mem_cons.not.1 plain)
    rw [slashParts, ih others]
    exact fun same => here same.symm

/-- A text has a part at least. -/
lemma slashParts_ne_nil (text : List Char) : slashParts text ≠ [] := by
  fun_cases slashParts text <;> simp_all

/-- A slash stands between the parts before it and the parts behind it. -/
lemma slashParts_append (front back : List Char) :
    slashParts (front ++ '/' :: back) = slashParts front ++ slashParts back := by
  induction front with
  | nil => rfl
  | cons c front ih =>
    by_cases slash : c = '/'
    · subst slash
      rw [List.cons_append, slashParts, slashParts, ih]
      rfl
    · rw [List.cons_append, slashParts, slashParts, ih]
      · obtain ⟨part, parts, whole⟩ := List.exists_cons_of_ne_nil (slashParts_ne_nil front)
        rw [whole]
        rfl
      · exact slash
      · exact slash

/-- The text of parts with slashes between them. -/
def joinParts (parts : List (List Char)) : List Char :=
  ['/'].intercalate parts

/-- Two rows of parts are joined with a slash between them. -/
lemma joinParts_append {front back : List (List Char)} (before : front ≠ []) (behind : back ≠ []) :
    joinParts (front ++ back) = joinParts front ++ '/' :: joinParts back := by
  induction front with
  | nil => exact absurd rfl before
  | cons part front ih =>
    cases front with
    | nil =>
      obtain ⟨next, others, rfl⟩ := List.exists_cons_of_ne_nil behind
      simp [joinParts, List.intercalate_cons_cons]
    | cons next front =>
      have later := ih (List.cons_ne_nil _ _)
      simp only [joinParts, List.cons_append, List.intercalate_cons_cons] at later ⊢
      rw [later]
      simp

/-- A text is that of its parts. -/
lemma joinParts_slashParts (text : List Char) : joinParts (slashParts text) = text := by
  induction text with
  | nil => rfl
  | cons c text ih =>
    by_cases slash : c = '/'
    · subst slash
      rw [slashParts, ← List.singleton_append,
        joinParts_append (List.cons_ne_nil _ _) (slashParts_ne_nil text), ih]
      rfl
    · obtain ⟨part, parts, whole⟩ := List.exists_cons_of_ne_nil (slashParts_ne_nil text)
      rw [whole] at ih
      rw [slashParts, whole, ← ih]
      · cases parts <;> rfl
      · exact slash

/-! ## Components -/

/-- The parts of a component as it is written at its place in a path. -/
def Component.parts : Component → List (List Char)
  | root => [[], []]
  | current => [['.']]
  | parent => [['.', '.']]
  | normal name => [name.toList]

/-- A part that goes nowhere is no component, and any other one is written as it is. -/
lemma component?_eq (part : List Char) :
    (isIdle part = true ∧ component? part = none) ∨
      (isIdle part = false ∧ ∃ component, component? part = some component ∧
        component.parts = [part]) := by
  fun_cases component? part with
  | case1 => exact .inl ⟨rfl, rfl⟩
  | case2 => exact .inl ⟨rfl, rfl⟩
  | case3 => exact .inr ⟨rfl, _, rfl, rfl⟩
  | case4 part empty dot =>
    refine .inr ⟨?_, _, rfl, by rw [Component.parts, String.toList_ofList]⟩
    simp only [isIdle, Bool.or_eq_false_iff, decide_eq_false_iff_not]
    exact ⟨empty, dot⟩

/-- The components of parts are written as those of them that do not go nowhere. -/
lemma flatMap_parts (parts : List (List Char)) :
    (parts.filterMap component?).flatMap Component.parts = parts.filter (!isIdle ·) := by
  induction parts with
  | nil => rfl
  | cons part parts ih =>
    rcases component?_eq part with ⟨idle, none⟩ | ⟨busy, component, some, written⟩
    · simp [idle, none, ih]
    · simp [busy, some, written, ih]

/-! ## Spellings -/

/-- One step from a spelling of a path to another one. -/
inductive Respells : String → String → Prop where
  | repeated (front back : String) : Respells (front ++ "//" ++ back) (front ++ "/" ++ back)
  | trailing (path : String) : path ≠ "" → Respells (path ++ "/") path
  | dot (front back : String) : Respells (front ++ "/./" ++ back) (front ++ "/" ++ back)
  | lastDot (front : String) : Respells (front ++ "/.") (front ++ "/")

/-- Parts in the middle of a path that are no components may be replaced by others. -/
lemma components_eq_of_parts {path other : String} {front : List (List Char)}
    (middle middle' back : List (List Char))
    (some : front ≠ []) (parts : slashParts path.toList = front ++ middle ++ back)
    (parts' : slashParts other.toList = front ++ middle' ++ back)
    (top : isAbsolute path = isAbsolute other)
    (idle : middle.filterMap component? = middle'.filterMap component?) :
    components path = components other := by
  obtain ⟨part, front, rfl⟩ := List.exists_cons_of_ne_nil some
  simp only [components, parts, parts', top, List.cons_append, List.head?_cons, List.filterMap_cons,
    List.filterMap_append, idle]

/-- What is written behind a path that is not empty does not make it absolute. -/
lemma isAbsolute_append {front : String} (some : front ≠ "") (back : String) :
    isAbsolute (front ++ back) = isAbsolute front := by
  have written : front.toList ≠ [] := by simpa using some
  rw [isAbsolute, isAbsolute, String.toList_append, List.head?_append_of_ne_nil _ written]

/-- Whether a path is absolute does not depend on what stands behind a slash. -/
lemma isAbsolute_append_slash (front : String) {back back' : String}
    (slash : isAbsolute back = true) (slash' : isAbsolute back' = true) :
    isAbsolute (front ++ back) = isAbsolute (front ++ back') := by
  by_cases none : front = ""
  · rw [none, String.empty_append, String.empty_append, slash, slash']
  · rw [isAbsolute_append none, isAbsolute_append none]

/-- A step leaves the components of a path alone. -/
lemma Respells.components_eq {path other : String} (step : Respells path other) :
    components path = components other := by
  cases step with
  | repeated front back =>
    rw [String.append_assoc, String.append_assoc]
    refine components_eq_of_parts [[]] [] (slashParts back.toList)
      (slashParts_ne_nil front.toList) ?_ ?_ (isAbsolute_append_slash front ?_ ?_) rfl
    · simp [slashParts_append, slashParts]
    · simp [slashParts_append]
    · simp [isAbsolute]
    · simp [isAbsolute]
  | trailing _ some =>
    refine components_eq_of_parts [[]] [] [] (slashParts_ne_nil other.toList) ?_ ?_
      (isAbsolute_append some "/") rfl
    · simp [slashParts_append, slashParts]
    · simp
  | dot front back =>
    rw [String.append_assoc, String.append_assoc]
    refine components_eq_of_parts [['.']] [] (slashParts back.toList)
      (slashParts_ne_nil front.toList) ?_ ?_ (isAbsolute_append_slash front ?_ ?_) rfl
    · simp [slashParts_append, slashParts]
    · simp [slashParts_append]
    · simp [isAbsolute]
    · simp [isAbsolute]
  | lastDot front =>
    refine components_eq_of_parts [['.']] [[]] [] (slashParts_ne_nil front.toList) ?_ ?_
      (isAbsolute_append_slash front rfl rfl) rfl
    · simp [slashParts_append, slashParts]
    · simp [slashParts_append, slashParts]

/-- The path of parts with slashes between them. -/
def ofParts (parts : List (List Char)) : String :=
  String.ofList (joinParts parts)

/-- Two rows of parts are written with a slash between them. -/
lemma ofParts_append {front back : List (List Char)} (before : front ≠ []) (behind : back ≠ []) :
    ofParts (front ++ back) = ofParts front ++ "/" ++ ofParts back := by
  rw [← String.toList_inj]
  simp [ofParts, joinParts_append before behind]

/-- Parts that are not just an empty one are no empty path. -/
lemma ofParts_ne_empty {parts : List (List Char)} (some : parts ≠ []) (more : parts ≠ [[]]) :
    ofParts parts ≠ "" := by
  obtain ⟨part, others, rfl⟩ := List.exists_cons_of_ne_nil some
  cases others with
  | nil =>
    have written : part ≠ [] := fun none => more (by rw [none])
    simpa [ofParts, joinParts] using written
  | cons next others =>
    rw [← List.singleton_append, ofParts_append (List.cons_ne_nil _ _) (List.cons_ne_nil _ _)]
    simp

open Relation in
/-- Parts that go nowhere may be left out, except at the beginning. -/
lemma eqvGen_filter (rest : List (List Char)) {front : List (List Char)} (some : front ≠ [])
    (more : front ≠ [[]]) :
    EqvGen Respells (ofParts (front ++ rest)) (ofParts (front ++ rest.filter (!isIdle ·))) := by
  induction rest generalizing front with
  | nil => exact .refl _
  | cons part rest ih =>
    cases idle : isIdle part with
    | false =>
      have more : front ++ [part] ≠ [[]] := by simp [List.append_eq_singleton_iff, some]
      have kept := ih (List.append_ne_nil_of_left_ne_nil some _) more
      simpa [idle] using kept
    | true =>
      suffices left : EqvGen Respells (ofParts (front ++ part :: rest)) (ofParts (front ++ rest)) by
        simpa [idle] using left.trans _ _ _ (ih some more)
      have written : part = [] ∨ part = ['.'] := by simpa [isIdle] using idle
      by_cases last : rest = []
      · subst last
        have ending : EqvGen Respells (ofParts front ++ "/") (ofParts front) :=
          .rel _ _ (.trailing _ (ofParts_ne_empty some more))
        rw [ofParts_append some (List.cons_ne_nil _ _), List.append_nil]
        rcases written with rfl | rfl
        · rw [show ofParts [[]] = "" from rfl, String.append_empty]
          exact ending
        · rw [String.append_assoc]
          exact .trans _ _ _ (.rel _ _ (.lastDot (ofParts front))) ending
      · rw [List.append_cons, ofParts_append (by simp) last, ofParts_append some (by simp),
          ofParts_append some last]
        rcases written with rfl | rfl
        · have step := Respells.repeated (ofParts front) (ofParts rest)
          rw [show "//" = "/" ++ "/" from rfl, ← String.append_assoc] at step
          rw [show ofParts [[]] = "" from rfl, String.append_empty]
          exact .rel _ _ step
        · have step := Respells.dot (ofParts front) (ofParts rest)
          rw [show "/./" = "/" ++ "." ++ "/" from rfl, ← String.append_assoc,
            ← String.append_assoc] at step
          exact .rel _ _ step

open Relation in
/-- A path is another spelling of the text of its components. -/
lemma eqvGen_components (path : String) :
    EqvGen Respells path (ofParts ((components path).flatMap Component.parts)) := by
  have own : ofParts (slashParts path.toList) = path := by
    rw [ofParts, joinParts_slashParts, String.ofList_toList]
  rw [components, List.flatMap_append, flatMap_parts]
  cases chars : path.toList with
  | nil =>
    have relative : isAbsolute path = false := by simp [isAbsolute, chars]
    rw [relative]
    rw [chars] at own
    rw [← own]
    exact .refl _
  | cons c text =>
    by_cases slash : c = '/'
    · subst slash
      have absolute : isAbsolute path = true := by simp [isAbsolute, chars]
      rw [chars, slashParts] at own
      -- the slash at the beginning is written twice, so that all other parts stand behind it
      have twice : EqvGen Respells path (ofParts ([[], []] ++ slashParts text)) := by
        rw [ofParts_append (by simp) (slashParts_ne_nil text)]
        have once := ofParts_append (List.cons_ne_nil [] []) (slashParts_ne_nil text)
        rw [List.singleton_append, own] at once
        rw [once]
        exact .symm _ _ (.rel _ _ (.repeated "" _))
      have kept := twice.trans _ _ _ (eqvGen_filter (slashParts text) (by simp) (by simp))
      simpa [absolute, slashParts, isIdle, Component.parts] using kept
    · have relative : isAbsolute path = false := by simp [isAbsolute, chars, slash]
      obtain ⟨part, parts, whole⟩ := List.exists_cons_of_ne_nil (slashParts_ne_nil text)
      have split : slashParts (c :: text) = (c :: part) :: parts := by
        rw [slashParts, whole]
        exact slash
      rw [chars, split] at own
      have kept := eqvGen_filter parts (List.cons_ne_nil (c :: part) []) (by simp)
      rw [List.singleton_append, own] at kept
      by_cases dot : c :: part = ['.']
      · simpa [relative, split, dot, isIdle, Component.parts] using kept
      · simpa [relative, split, dot, isIdle] using kept

open Relation in
/--
Paths have the same components just if one becomes the other by steps that write or leave out
slashes behind slashes, slashes at the end, and dots that are not at the beginning.
-/
lemma components_eq_iff {path other : String} :
    components path = components other ↔ EqvGen Respells path other := by
  refine ⟨fun same => ?_, fun steps => ?_⟩
  · have back := eqvGen_components other
    rw [← same] at back
    exact (eqvGen_components path).trans _ _ _ (back.symm _ _)
  · induction steps with
    | rel _ _ step => exact step.components_eq
    | refl => rfl
    | symm _ _ _ ih => exact ih.symm
    | trans _ _ _ _ _ ih ih' => exact ih.trans ih'

end FluentGen.Path
