import FluentGen.Output.Store
import FluentGen.Proofs.Path
import Mathlib.Data.List.Induction

/-!
# What is found in a store

A text is found under every spelling of the path that it was written under last, and under no other
path (`Store.get?_insert`). Writing a list of texts that has been written already changes nothing,
even if some of them share a path (`Store.insertAll_insertAll`).
-/

namespace FluentGen

namespace Store

/-- Spellings of one path are interchangeable. -/
lemma samePath_congr {path other : String} (same : samePath path other = true) (third : String) :
    samePath path third = samePath other third := by
  rw [samePath, samePath, eq_of_beq same]

/-- What is found after a text has been put somewhere. -/
lemma get?_insert (store : Store) (path text other : String) :
    (store.insert path text).get? other =
      if samePath path other then some text else store.get? other := by
  obtain ⟨files⟩ := store
  rw [insert, get?, get?]
  induction files with
  | nil => cases found : samePath path other <;> simp [insertInto, found]
  | cons file files ih =>
    rw [insertInto]
    split
    · next same =>
      -- the text takes the place of another one, which was found under the same spellings
      simp only [List.find?_cons, samePath_congr same]
      cases samePath path other <;> simp
    · next apart =>
      simp only [List.find?_cons]
      cases here : samePath file.1 other with
      | true =>
        have elsewhere : samePath path other = false := by
          by_contra same
          rw [Bool.not_eq_false] at same
          exact apart (by rw [samePath, eq_of_beq here, eq_of_beq same, beq_self_eq_true])
        simp [elsewhere]
      | false => exact ih

/-- Whether there is a text under a path. -/
def Holds (store : Store) (path : String) : Prop :=
  (store.get? path).isSome = true

/-- What a store holds it still holds after a text has been put somewhere. -/
lemma Holds.insert {store : Store} {path : String} (held : store.Holds path) (other text : String) :
    (store.insert other text).Holds path := by
  rw [Holds, get?_insert]
  split
  · rfl
  · exact held

/-- What has been written is there. -/
lemma holds_insert (store : Store) (path text : String) : (store.insert path text).Holds path := by
  rw [Holds, get?_insert, samePath, beq_self_eq_true]
  rfl

/-- The text that is put under a path last stays there, under the spelling that was first. -/
lemma insert_insert (store : Store) {path other : String} (same : samePath path other = true)
    (text later : String) :
    (store.insert path text).insert other later = store.insert path later := by
  obtain ⟨files⟩ := store
  simp only [insert, mk.injEq]
  induction files with
  | nil => simp [insertInto, same]
  | cons file files ih =>
    cases here : samePath file.1 path with
    | true =>
      have there : samePath file.1 other = true := by rw [samePath, eq_of_beq here]; exact same
      simp [insertInto, here, there]
    | false =>
      have there : samePath file.1 other = false := by
        rw [← here, samePath, samePath, eq_of_beq same]
      simp [insertInto, here, there, ih]

/-- Under a path that is there already, the spelling does not matter. -/
lemma insert_eq_insert {store : Store} {path other : String} (held : store.Holds path)
    (same : samePath path other = true) (text : String) :
    store.insert path text = store.insert other text := by
  obtain ⟨files⟩ := store
  have spelled (file : String × String) : samePath file.1 path = samePath file.1 other := by
    rw [samePath, samePath, eq_of_beq same]
  simp only [insert, mk.injEq]
  induction files with
  | nil => cases held
  | cons file files ih =>
    cases here : samePath file.1 path with
    | true => simp [insertInto, here, ← spelled]
    | false =>
      have held : Holds ⟨files⟩ path := by simpa [Holds, get?, here] using held
      simp [insertInto, here, ← spelled, ih held]

/-- Texts under different paths may be put there in any order if one of the paths is there already. -/
lemma insert_comm {store : Store} {path other : String} (held : store.Holds other)
    (apart : samePath path other = false) (text text' : String) :
    (store.insert path text).insert other text' = (store.insert other text').insert path text := by
  obtain ⟨files⟩ := store
  simp only [insert, mk.injEq]
  induction files with
  | nil => cases held
  | cons file files ih =>
    cases here : samePath file.1 path with
    | true =>
      have there : samePath file.1 other = false := by rw [samePath, eq_of_beq here]; exact apart
      simp [insertInto, here, there]
    | false =>
      cases there : samePath file.1 other with
      | true => simp [insertInto, here, there]
      | false =>
        have held : Holds ⟨files⟩ other := by simpa [Holds, get?, there] using held
        simp [insertInto, here, there, ih held]

/-! ## Many texts -/

/-- Puts texts under their paths, one after another. -/
def insertAll (store : Store) (writes : List (String × String)) : Store :=
  writes.foldl (fun store file => store.insert file.1 file.2) store

/-- What a store holds it still holds after texts have been put somewhere. -/
lemma Holds.insertAll {store : Store} {path : String} (held : store.Holds path)
    (writes : List (String × String)) : (store.insertAll writes).Holds path := by
  induction writes generalizing store with
  | nil => exact held
  | cons file writes ih => exact ih (held.insert file.1 file.2)

/-- After texts have been put under paths, these are there. -/
lemma holds_insertAll (store : Store) {writes : List (String × String)} {file : String × String}
    (inside : file ∈ writes) : (store.insertAll writes).Holds file.1 := by
  induction writes generalizing store with
  | nil => cases inside
  | cons first writes ih =>
    rcases List.mem_cons.1 inside with rfl | later
    · exact (holds_insert store _ _).insertAll writes
    · exact ih (store.insert first.1 first.2) later

/--
A text that is put under a path before others and behind them need not be put there before, if all
their paths are there already.
-/
lemma insert_insertAll_insert {store : Store} {writes : List (String × String)}
    (held : ∀ file ∈ writes, store.Holds file.1) (path text : String) :
    ((store.insert path text).insertAll writes).insert path text =
      (store.insertAll writes).insert path text := by
  induction writes generalizing store with
  | nil => exact insert_insert store (beq_self_eq_true _) text text
  | cons file writes ih =>
    obtain ⟨here, others⟩ := List.forall_mem_cons.1 held
    show (((store.insert path text).insert file.1 file.2).insertAll writes).insert path text = _
    cases same : samePath path file.1 with
    | true =>
      -- the first of the others replaces the text
      have back : samePath file.1 path = true := by
        rw [samePath, eq_of_beq same, beq_self_eq_true]
      rw [insert_insert store same, ← insert_eq_insert here back]
      rfl
    | false =>
      rw [insert_comm here same, ih fun other inside => (others other inside).insert _ _]
      rfl

/-- Texts that have been put under their paths may be put there once more. -/
lemma insertAll_insertAll (store : Store) (writes : List (String × String)) :
    (store.insertAll writes).insertAll writes = store.insertAll writes := by
  induction writes using List.reverseRecOn with
  | nil => rfl
  | append_singleton writes file ih =>
    have last (store : Store) :
        store.insertAll (writes ++ [file]) = (store.insertAll writes).insert file.1 file.2 :=
      List.foldl_concat ..
    rw [last, last, insert_insertAll_insert fun other => holds_insertAll store, ih]

end Store

end FluentGen
