import FluentGen.Output.Basic
import FluentGen.Proofs.Output.Store
import Mathlib.Data.Finset.Card
import Mathlib.Data.Finset.Dedup

/-!
# What is left of many writes

A store that refuses nothing, after texts have been written into it one after another: it has every
path once, where and as it was written first, with the text that was written under it last
(`Store.written_first_last`).
-/

namespace FluentGen.Store

/-- The first spelling of every path, in the order in which the paths appear. -/
def firstSpellings : List String → List String
  | [] => []
  | path :: rest => path :: (firstSpellings rest).filter fun other => !samePath path other

/-- The last text that was written under a path, however it was spelled. -/
def lastText? (writes : List (String × String)) (path : String) : Option String :=
  (writes.reverse.find? fun file => samePath file.1 path).map Prod.snd

/-- An empty store after texts have been written into it, one after another. -/
def written (writes : List (String × String)) : Store :=
  writes.foldl (fun store file => ((Output.memory fun _ => false).write file.1 file.2 store).2)
    .empty

/-! ## First spellings -/

/-- A first spelling is one of the spellings. -/
lemma mem_of_mem_firstSpellings {paths : List String} {path : String}
    (inside : path ∈ firstSpellings paths) : path ∈ paths := by
  induction paths with
  | nil => exact inside
  | cons first paths ih =>
    rcases List.mem_cons.1 inside with rfl | later
    · exact List.mem_cons_self
    · exact List.mem_cons_of_mem _ (ih (List.mem_of_mem_filter later))

/-- No two of the first spellings mean the same path. -/
lemma pairwise_firstSpellings (paths : List String) :
    (firstSpellings paths).Pairwise fun path other => samePath path other = false := by
  induction paths with
  | nil => exact .nil
  | cons path paths ih =>
    refine List.pairwise_cons.2 ⟨fun other inside => ?_, ih.filter _⟩
    simpa using List.of_mem_filter inside

/-- Every path has a first spelling. -/
lemma exists_mem_firstSpellings {paths : List String} {path : String} (inside : path ∈ paths) :
    ∃ first ∈ firstSpellings paths, samePath first path = true := by
  induction paths with
  | nil => cases inside
  | cons head paths ih =>
    cases same : samePath head path with
    | true => exact ⟨head, List.mem_cons_self, same⟩
    | false =>
      have later : path ∈ paths := by
        refine (List.mem_cons.1 inside).resolve_left ?_
        rintro rfl
        rw [samePath, beq_self_eq_true] at same
        cases same
      obtain ⟨first, among, spelled⟩ := ih later
      refine ⟨first, List.mem_cons_of_mem _ (List.mem_filter.2 ⟨among, ?_⟩), spelled⟩
      have apart : samePath head first = false := by
        rw [samePath, eq_of_beq spelled]
        exact same
      simp [apart]

/-- A path behind others is a first spelling if none of them means the same. -/
lemma firstSpellings_concat (paths : List String) (path : String) :
    firstSpellings (paths ++ [path]) =
      if paths.any (samePath · path) then firstSpellings paths
      else firstSpellings paths ++ [path] := by
  induction paths with
  | nil => rfl
  | cons first paths ih =>
    rw [List.cons_append, firstSpellings, ih]
    cases there : paths.any (samePath · path) with
    | true => simp [there, firstSpellings]
    | false => cases here : samePath first path <;> simp [there, here, firstSpellings]

/-! ## One more write -/

/-- The last write is the one that counts for its path. -/
lemma lastText?_concat (writes : List (String × String)) (file : String × String) (path : String) :
    lastText? (writes ++ [file]) path =
      if samePath file.1 path then some file.2 else lastText? writes path := by
  rw [lastText?, List.reverse_concat, List.find?_cons]
  cases samePath file.1 path <;> rfl

/-- Every path has a first spelling. -/
lemma any_firstSpellings (paths : List String) (path : String) :
    (firstSpellings paths).any (samePath · path) = paths.any (samePath · path) := by
  rw [Bool.eq_iff_iff, List.any_eq_true, List.any_eq_true]
  refine ⟨fun ⟨first, inside, same⟩ => ⟨first, mem_of_mem_firstSpellings inside, same⟩, ?_⟩
  rintro ⟨other, inside, same⟩
  obtain ⟨first, among, spelled⟩ := exists_mem_firstSpellings inside
  exact ⟨first, among, by rw [samePath, eq_of_beq spelled]; exact same⟩

/-- One more text takes the place of the one under its path, or is put behind all others. -/
lemma insertInto_map {paths : List String}
    (distinct : paths.Pairwise fun path other => samePath path other = false)
    (texts : String → String) (path text : String) :
    insertInto path text (paths.map fun other => (other, texts other)) =
      (if paths.any (samePath · path) then paths else paths ++ [path]).map fun other =>
        (other, if samePath path other then text else texts other) := by
  induction paths with
  | nil => simp [insertInto, samePath]
  | cons first paths ih =>
    obtain ⟨apart, distinct⟩ := List.pairwise_cons.1 distinct
    cases same : samePath first path with
    | true =>
      have back : samePath path first = true := by rw [samePath, eq_of_beq same, beq_self_eq_true]
      have others : ∀ other ∈ paths, samePath path other = false := fun other inside => by
        rw [← samePath_congr same]
        exact apart other inside
      simp only [List.map_cons, insertInto, same, ↓reduceIte, List.any_cons, Bool.true_or, back,
        List.cons.injEq, true_and]
      exact List.map_congr_left fun other inside => by simp [others other inside]
    | false =>
      have back : samePath path first = false := by
        rw [samePath, beq_eq_false_iff_ne] at same ⊢
        exact same.symm
      simp only [List.map_cons, insertInto, same, Bool.false_eq_true, ↓reduceIte, List.any_cons,
        Bool.false_or, ih distinct]
      split <;> simp [back]

/-! ## All writes -/

/-- The files of a store, from the writes that made it. -/
lemma files_insertAll (writes : List (String × String)) :
    (insertAll .empty writes).files =
      (firstSpellings (writes.map Prod.fst)).map fun path =>
        (path, (lastText? writes path).getD "") := by
  induction writes using List.reverseRecOn with
  | nil => rfl
  | append_singleton writes file ih =>
    have step : insertAll .empty (writes ++ [file]) =
        (insertAll .empty writes).insert file.1 file.2 := List.foldl_concat ..
    rw [step, insert, ih, insertInto_map (pairwise_firstSpellings _), List.map_append,
      List.map_singleton, firstSpellings_concat, any_firstSpellings]
    refine List.map_congr_left fun path _ => ?_
    rw [lastText?_concat]
    split <;> rfl

/-- A path that has been written has a last text. -/
lemma exists_lastText? {writes : List (String × String)} {path : String}
    (inside : path ∈ writes.map Prod.fst) : ∃ text, lastText? writes path = some text := by
  obtain ⟨file, among, rfl⟩ := List.mem_map.1 inside
  have found : (writes.reverse.find? fun other => samePath other.1 file.1).isSome = true := by
    rw [List.find?_isSome]
    exact ⟨file, List.mem_reverse.2 among, beq_self_eq_true _⟩
  obtain ⟨last, same⟩ := Option.isSome_iff_exists.1 found
  exact ⟨last.2, by rw [lastText?, same]; rfl⟩

/-- What is found after many writes is what was written last. -/
lemma get?_insertAll (writes : List (String × String)) (path : String) :
    (insertAll .empty writes).get? path = lastText? writes path := by
  induction writes using List.reverseRecOn with
  | nil => rfl
  | append_singleton writes file ih =>
    have step : insertAll .empty (writes ++ [file]) =
        (insertAll .empty writes).insert file.1 file.2 := List.foldl_concat ..
    rw [step, get?_insert, lastText?_concat, ih]

/-- As many paths are spelled first as there are different components. -/
lemma length_firstSpellings (paths : List String) :
    (firstSpellings paths).length = (paths.map Path.components).toFinset.card := by
  have distinct : ((firstSpellings paths).map Path.components).Nodup := by
    rw [List.Nodup, List.pairwise_map]
    exact (pairwise_firstSpellings paths).imp fun apart => beq_eq_false_iff_ne.1 apart
  rw [← List.length_map Path.components, ← List.toFinset_card_of_nodup distinct]
  congr 1
  ext components
  simp only [List.mem_toFinset, List.mem_map]
  refine ⟨fun ⟨path, inside, same⟩ => ⟨path, mem_of_mem_firstSpellings inside, same⟩, ?_⟩
  rintro ⟨path, inside, rfl⟩
  obtain ⟨first, among, spelled⟩ := exists_mem_firstSpellings inside
  exact ⟨first, among, eq_of_beq spelled⟩

/--
After texts have been written into an empty store, a text is found under a path just if one has been
written there, and it is the last one. The paths are listed once each, in the order of their first
writes and as they were spelled there, and there are as many as have different components. Paths
have the same components just if they differ in slashes and dots that do not count.
-/
theorem written_first_last (writes : List (String × String)) :
    (∀ path, (written writes).get? path = lastText? writes path) ∧
      (written writes).toList.map Prod.fst = firstSpellings (writes.map Prod.fst) ∧
      (∀ file ∈ (written writes).toList, lastText? writes file.1 = some file.2) ∧
      ((written writes).toList.Pairwise fun file other =>
        Path.components file.1 ≠ Path.components other.1) ∧
      (written writes).size = (writes.map fun file => Path.components file.1).toFinset.card ∧
      ∀ path other, Path.components path = Path.components other ↔
        Relation.EqvGen Path.Respells path other := by
  have paths : (written writes).toList.map Prod.fst = firstSpellings (writes.map Prod.fst) := by
    show (insertAll .empty writes).files.map Prod.fst = _
    rw [files_insertAll, List.map_map]
    exact List.map_id _
  refine ⟨get?_insertAll writes, paths, ?_, ?_, ?_, fun path other => Path.components_eq_iff⟩
  · intro file inside
    have among : file.1 ∈ firstSpellings (writes.map Prod.fst) :=
      paths ▸ List.mem_map_of_mem inside
    obtain ⟨text, last⟩ := exists_lastText? (mem_of_mem_firstSpellings among)
    have inside : file ∈ (insertAll .empty writes).files := inside
    rw [files_insertAll] at inside
    obtain ⟨path, -, rfl⟩ := List.mem_map.1 inside
    rw [last]
    rfl
  · have distinct := pairwise_firstSpellings (writes.map Prod.fst)
    rw [← paths, List.pairwise_map] at distinct
    exact distinct.imp fun apart => beq_eq_false_iff_ne.1 apart
  · have count := congrArg List.length paths
    rw [List.length_map, length_firstSpellings, List.map_map] at count
    exact count

/-- Of four writes three are to one path, which is listed first and as it was spelled first. -/
example : (written [("a/b", "1"), ("./a/b", "2"), ("a//b/", "3"), ("a/./b", "4")]).toList =
    [("a/b", "4"), ("./a/b", "2")] := by
  decide +kernel

end FluentGen.Store
