import FluentGen.Proofs.Path

/-!
# Paths inside paths

What a path inside another one is made of. A path goes down if it neither starts from the root of
all directories nor goes up on its way; a path that is put together from others goes down just if
all of them do (`Path.descends_foldl_join`), and then it leads below every directory that it is put
into (`Path.below_join`). File names are put together by slashes, and are found again as they were
(`Path.components_intercalate`); the files of one directory have different paths.
-/

namespace FluentGen.Path

/-- What says where a path starts. -/
def start (path : String) : List Component :=
  if isAbsolute path then [.root]
  else if (slashParts path.toList).head? = some ['.'] then [.current] else []

/-- The components of a path behind its start. -/
def steps (path : String) : List Component :=
  (slashParts path.toList).filterMap component?

/-- The components of a path are its root, if it has one, and its steps. -/
lemma components_eq (path : String) : components path = start path ++ steps path :=
  rfl

/-- A path goes down only. -/
def Descends (path : String) : Prop :=
  isAbsolute path = false ∧ .parent ∉ components path

instance (path : String) : Decidable (Descends path) :=
  inferInstanceAs (Decidable (_ ∧ _))

/-- A path leads to somewhere below a directory: it goes through it and never up from there. -/
def Below (directory path : String) : Prop :=
  ∃ inside, components path = components directory ++ inside ∧ inside ≠ [] ∧ .root ∉ inside ∧
    .parent ∉ inside

/-- There is one part of a path only that can be inside a directory. -/
lemma below_iff (directory path : String) :
    Below directory path ↔ components directory <+: components path ∧
      (components path).drop (components directory).length ≠ [] ∧
      .root ∉ (components path).drop (components directory).length ∧
      .parent ∉ (components path).drop (components directory).length := by
  constructor
  · rintro ⟨inside, whole, leads, root, parent⟩
    rw [whole, List.drop_left]
    exact ⟨List.prefix_append _ _, leads, root, parent⟩
  · rintro ⟨⟨inside, whole⟩, leads, root, parent⟩
    rw [← whole, List.drop_left] at leads root parent
    exact ⟨inside, whole.symm, leads, root, parent⟩

instance (directory path : String) : Decidable (Below directory path) :=
  decidable_of_iff _ (below_iff directory path).symm

/-! ## Joining -/

section

variable (base : String) {path : String}

/-- A relative path stands in whole behind what it is put into. -/
lemma slashParts_join (relative : isAbsolute path = false) (some : base ≠ "") :
    ∃ front, front ≠ [] ∧
      slashParts (join base path).toList = front ++ slashParts path.toList ∧
      (slashParts base.toList = front ∨ slashParts base.toList = front ++ [[]]) := by
  rw [join, relative, Bool.false_or, if_neg (by simpa using some)]
  split
  · next ends =>
    -- the slash that the directory ends with is the one between the two
    obtain ⟨front, whole⟩ := List.getLast?_eq_some_iff.1 ends
    refine ⟨slashParts front, slashParts_ne_nil front, ?_, .inr ?_⟩
    · rw [String.toList_append, whole, List.append_assoc, List.singleton_append, slashParts_append]
    · rw [whole, slashParts_append]
      rfl
  · refine ⟨slashParts base.toList, slashParts_ne_nil _, ?_, .inl rfl⟩
    rw [String.toList_append, String.toList_append, List.append_assoc]
    exact slashParts_append base.toList path.toList

/-- Nothing joined with a path is the path. -/
lemma join_empty (path : String) : join "" path = path := by
  simp [join]

/-- An absolute path stays what it is. -/
lemma join_absolute (absolute : isAbsolute path = true) : join base path = path := by
  simp [join, absolute]

/-- A joined path is absolute if one of the two is. -/
lemma isAbsolute_join (path : String) :
    isAbsolute (join base path) = (isAbsolute base || isAbsolute path) := by
  cases absolute : isAbsolute path with
  | true => rw [join_absolute base absolute, absolute, Bool.or_true]
  | false =>
    by_cases none : base = ""
    · rw [none, join_empty, absolute]
      rfl
    · rw [join, absolute, Bool.false_or, if_neg (by simpa using none), Bool.or_false]
      split
      · exact isAbsolute_append none path
      · rw [String.append_assoc]
        exact isAbsolute_append none _

/-- The steps of a relative path come behind those of what it is put into. -/
lemma steps_join (relative : isAbsolute path = false) :
    steps (join base path) = steps base ++ steps path := by
  by_cases none : base = ""
  · rw [none, join_empty]
    rfl
  · obtain ⟨front, -, joined, own | own⟩ := slashParts_join base relative none
    · rw [steps, steps, steps, joined, own, List.filterMap_append]
    · have idle : List.filterMap component? [[]] = [] := rfl
      rw [steps, steps, steps, joined, own, List.filterMap_append, List.filterMap_append, idle,
        List.append_nil]

/-- A relative path starts where that starts which it is put into. -/
lemma start_join (relative : isAbsolute path = false) (some : base ≠ "") :
    start (join base path) = start base := by
  obtain ⟨front, written, joined, own⟩ := slashParts_join base relative some
  have head : (slashParts base.toList).head? = front.head? := by
    rcases own with own | own
    · rw [own]
    · rw [own, List.head?_append_of_ne_nil _ written]
  rw [start, start, isAbsolute_join, relative, Bool.or_false, joined, head,
    List.head?_append_of_ne_nil _ written]

end

/-! ## Going down -/

/-- No step is a root. -/
lemma root_notMem_steps (path : String) : .root ∉ steps path := by
  intro inside
  obtain ⟨part, -, component⟩ := List.mem_filterMap.1 inside
  revert component
  fun_cases component? part <;> simp

/-- Where a path starts does not make it go up. -/
lemma parent_mem_components (path : String) : .parent ∈ components path ↔ .parent ∈ steps path := by
  rw [components_eq, List.mem_append]
  refine ⟨fun inside => inside.resolve_left ?_, .inr⟩
  rw [start]
  split
  · decide
  · split <;> decide

/-- A path inside another one goes down just if both do. -/
lemma descends_join (base path : String) :
    Descends (join base path) ↔ Descends base ∧ Descends path := by
  simp only [Descends, isAbsolute_join, parent_mem_components]
  cases absolute : isAbsolute path with
  | true => simp
  | false =>
    rw [steps_join base absolute, List.mem_append, not_or, Bool.or_false]
    simp only [true_and, and_assoc]

/-- A path that is put together goes down just if all its parts do. -/
theorem descends_foldl_join (base : String) (paths : List String) :
    Descends (paths.foldl join base) ↔ Descends base ∧ ∀ path ∈ paths, Descends path := by
  induction paths generalizing base with
  | nil => simp
  | cons path paths ih =>
    rw [List.foldl_cons, ih, descends_join, List.forall_mem_cons, and_assoc]

/-- A path that goes down leads below the directory that it is put into. -/
theorem below_join {path : String} (descends : Descends path) (leads : steps path ≠ [])
    (directory : String) : Below directory (join directory path) := by
  obtain ⟨relative, down⟩ := descends
  by_cases none : directory = ""
  · refine ⟨components path, by rw [none, join_empty]; rfl, ?_, ?_, down⟩
    · exact List.append_ne_nil_of_right_ne_nil _ leads
    · rw [components_eq, List.mem_append, not_or]
      refine ⟨?_, root_notMem_steps path⟩
      rw [start, relative, if_neg Bool.false_ne_true]
      split <;> simp
  · refine ⟨steps path, ?_, leads, root_notMem_steps path, (parent_mem_components path).not.1 down⟩
    rw [components_eq, start_join directory relative none, steps_join directory relative,
      ← List.append_assoc, ← components_eq]

/-! ## File names -/

/-- A text is the name of a file or a directory. -/
def IsFileName (name : String) : Prop :=
  '/' ∉ name.toList ∧ name ∉ ["", ".", ".."]

/-- A file name is not empty and none of the two names for directories. -/
lemma IsFileName.toList_ne {name : String} (proper : IsFileName name) :
    ∀ text ∈ ["", ".", ".."], name.toList ≠ text.toList :=
  fun _ among same => proper.2 (by rwa [String.toList_inj.1 same])

/-- A file name is a component of its own. -/
lemma IsFileName.component?_eq {name : String} (proper : IsFileName name) :
    component? name.toList = some (.normal name) := by
  have apart := proper.toList_ne
  unfold component?
  split
  · next same => exact absurd same (apart "" (by decide))
  · next same => exact absurd same (apart "." (by decide))
  · next same => exact absurd same (apart ".." (by decide))
  · rw [String.ofList_toList]

/-- A file name goes down by one step. -/
lemma IsFileName.steps_eq {name : String} (proper : IsFileName name) :
    steps name = [.normal name] := by
  rw [steps, slashParts_of_notMem proper.1, List.filterMap_cons_some proper.component?_eq]
  rfl

/-- A file name is not absolute. -/
lemma IsFileName.isAbsolute_eq {name : String} (proper : IsFileName name) :
    isAbsolute name = false :=
  decide_eq_false fun slash => proper.1 (List.mem_of_mem_head? slash)

/-- A file name leads down. -/
lemma IsFileName.descends {name : String} (proper : IsFileName name) : Descends name := by
  refine ⟨proper.isAbsolute_eq, (parent_mem_components name).not.2 ?_⟩
  rw [proper.steps_eq]
  simp

/-- The last component of a path that ends in a file name is the name. -/
lemma IsFileName.getLast?_components_join {name : String} (proper : IsFileName name)
    (base : String) : (components (join base name)).getLast? = some (.normal name) := by
  rw [components_eq, steps_join base proper.isAbsolute_eq, proper.steps_eq, ← List.append_assoc,
    List.getLast?_concat]

/-- Files in one directory with the same path have the same name. -/
lemma IsFileName.eq_of_components_join {base name other : String} (proper : IsFileName name)
    (proper' : IsFileName other)
    (same : components (join base name) = components (join base other)) : name = other := by
  have last := congrArg List.getLast? same
  rw [proper.getLast?_components_join, proper'.getLast?_components_join] at last
  exact Component.normal.inj (Option.some.inj last)

/-! ### Many of them -/

/-- Names are put behind a path with slashes between them. -/
lemma foldl_join_of_solid {base : String} (present : base ≠ "")
    (solid : base.toList.getLast? ≠ some '/') {names : List String}
    (proper : ∀ name ∈ names, IsFileName name) :
    names.foldl join base = "/".intercalate (base :: names) := by
  induction names generalizing base with
  | nil => rw [String.intercalate_singleton]; rfl
  | cons name names ih =>
    obtain ⟨here, others⟩ := List.forall_mem_cons.1 proper
    have joined : join base name = base ++ "/" ++ name := by
      rw [join, here.isAbsolute_eq, Bool.false_or, if_neg (by simpa using present), if_neg solid]
    have letters : name.toList ≠ [] := here.toList_ne "" (by decide)
    have last : (base ++ "/" ++ name).toList.getLast? ≠ some '/' := by
      rw [String.toList_append, List.getLast?_append_of_ne_nil _ letters]
      exact fun slash => here.1 (List.mem_of_getLast? slash)
    rw [List.foldl_cons, joined, ih (by simp) last others, String.intercalate_cons_cons]
    cases names with
    | nil => rw [String.intercalate_singleton, String.intercalate_singleton]
    | cons next names =>
      rw [String.intercalate_cons_cons, String.intercalate_cons_cons]
      simp only [String.append_assoc]

/-- Names that are put together have slashes between them. -/
theorem foldl_join_eq {names : List String} (proper : ∀ name ∈ names, IsFileName name) :
    names.foldl join "" = "/".intercalate names := by
  cases names with
  | nil => rfl
  | cons name names =>
    obtain ⟨here, others⟩ := List.forall_mem_cons.1 proper
    have present : name ≠ "" := fun none => here.2 (by simp [none])
    have solid : name.toList.getLast? ≠ some '/' :=
      fun slash => here.1 (List.mem_of_getLast? slash)
    rw [List.foldl_cons, join_empty, foldl_join_of_solid present solid others]

/-- An absolute path has nothing in front of its first slash. -/
lemma head?_slashParts {path : String} (absolute : isAbsolute path = true) :
    (slashParts path.toList).head? = some [] := by
  obtain ⟨text, chars⟩ := List.head?_eq_some_iff.1 (of_decide_eq_true absolute)
  rw [chars]
  rfl

/-- Parts without slashes are found again between the slashes. -/
lemma slashParts_joinParts {parts : List (List Char)} (present : parts ≠ [])
    (plain : ∀ part ∈ parts, '/' ∉ part) : slashParts (joinParts parts) = parts := by
  induction parts with
  | nil => exact absurd rfl present
  | cons part parts ih =>
    obtain ⟨here, others⟩ := List.forall_mem_cons.1 plain
    have single : slashParts (joinParts [part]) = [part] := by
      rw [joinParts, List.intercalate_singleton]
      exact slashParts_of_notMem here
    by_cases last : parts = []
    · rw [last, single]
    · rw [← List.singleton_append, joinParts_append (List.cons_ne_nil _ _) last, slashParts_append,
        ih last others, single]

/-- Names with slashes between them are the components of a path. -/
theorem components_intercalate {names : List String} (present : names ≠ [])
    (proper : ∀ name ∈ names, IsFileName name) :
    components ("/".intercalate names) = names.map .normal := by
  have parts : slashParts ("/".intercalate names).toList = names.map String.toList := by
    rw [String.toList_intercalate]
    refine slashParts_joinParts (by simpa using present) fun part inside => ?_
    obtain ⟨name, among, rfl⟩ := List.mem_map.1 inside
    exact (proper name among).1
  have found : steps ("/".intercalate names) = names.map .normal := by
    rw [steps, parts, List.filterMap_map]
    have own : ∀ name ∈ names, (component? ∘ String.toList) name = some (.normal name) :=
      fun name inside => (proper name inside).component?_eq
    rw [List.filterMap_congr own]
    exact congrFun List.filterMap_eq_map names
  have relative : start ("/".intercalate names) = [] := by
    obtain ⟨name, names, rfl⟩ := List.exists_cons_of_ne_nil present
    have apart := (proper name List.mem_cons_self).toList_ne
    have first : (slashParts ("/".intercalate (name :: names)).toList).head? = some name.toList := by
      rw [parts]
      rfl
    rw [start, if_neg, if_neg]
    · rw [first]
      exact fun dot => apart "." (by decide) (Option.some.inj dot)
    · intro absolute
      rw [head?_slashParts absolute] at first
      exact apart "" (by decide) (Option.some.inj first).symm
  rw [components_eq, relative, found, List.nil_append]

end FluentGen.Path
