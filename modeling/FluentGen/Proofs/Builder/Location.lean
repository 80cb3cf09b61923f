import FluentGen.Proofs.Builder.Selection
import FluentGen.Proofs.Path.Package

/-!
# Where builders are written

The path of a builder has the segments of the module of its target and then a file that is named
after the target. If the segments are identifiers, then it tells both of them
(`Builder.located_by_segments`). A module path may be any text, though, and it is its segments that
decide whether the path stays below the directory that it is put into
(`Builder.descends_iff_segments`).
-/

namespace FluentGen

/-- A legible name is that of a directory. -/
lemma Name.isFileName_spelling {name : Name} (legible : name.isLegible = true) :
    Path.IsFileName name.spelling := by
  have absent {c : Char} (other : ¬(Text.continuesIdent c = true ∨ c = '#')) :
      c ∉ name.spelling.toList :=
    fun inside => other ((isWordy_of_isLegible legible).of_mem_spelling inside)
  refine ⟨absent (by decide), fun among => ?_⟩
  have dotted : name.spelling = "" ∨ '.' ∈ name.spelling.toList := by
    simp only [List.mem_cons, List.not_mem_nil, or_false] at among
    rcases among with same | same | same <;> simp [same]
  rcases dotted with none | dot
  · exact spelling_ne_nil legible (by rw [none]; rfl)
  · exact absent (by decide) dot

namespace Builder

/-- The file of the builder of a target. -/
def fileName (target : Name) : String :=
  target.text ++ "Builder.rs"

/-- The name of the file of a builder is one. -/
lemma isFileName_fileName {target : Name} (wordy : target.IsWordy) :
    Path.IsFileName (fileName target) := by
  refine ⟨?_, fun among => ?_⟩
  · rw [fileName, String.toList_append, List.mem_append, not_or]
    exact ⟨wordy.slash_notMem, by decide⟩
  · have long : ∀ text ∈ ["", ".", ".."], text.length < 10 := by decide
    have short := long _ among
    have ending : "Builder.rs".length = 10 := rfl
    rw [fileName, String.length_append] at short
    omega

/-- The file of a builder is in the directory of the module. -/
lemma builderPath_eq_join (target : Target) :
    target.builderPath = Path.join (Path.ofPackage target.package) (fileName target.name) := by
  rw [fileName, show "Builder.rs" = "Builder" ++ ".rs" from rfl, ← String.append_assoc]
  rfl

/-- The path of a builder is put together from the segments of the module and the file. -/
lemma builderPath_eq (target : Target) :
    target.builderPath =
      (Path.segments target.package ++ [fileName target.name]).foldl Path.join "" := by
  rw [builderPath_eq_join, List.foldl_concat]
  rfl

/-- In a module of identifiers, the path of a builder has slashes between proper names. -/
lemma builderPath_of_writes {target : Target} {names : List Name}
    (written : Path.Writes target.package names) (legible : target.name.isLegible = true) :
    (∀ name ∈ names.map Name.spelling ++ [fileName target.name], Path.IsFileName name) ∧
    target.builderPath = "/".intercalate (names.map Name.spelling ++ [fileName target.name]) := by
  have proper : ∀ name ∈ names.map Name.spelling ++ [fileName target.name],
      Path.IsFileName name := by
    rw [List.forall_mem_append, List.forall_mem_map, List.forall_mem_singleton]
    exact ⟨fun name inside => Name.isFileName_spelling (written.isLegible name inside),
      isFileName_fileName (Name.isWordy_of_isLegible legible)⟩
  refine ⟨proper, ?_⟩
  rw [builderPath_eq, Path.segments_of_writes written, Path.foldl_join_eq proper]

/--
In modules of identifiers, however these are written, the path of a builder has the segments and
then the file, with slashes between them. Two builders have the same path just if the segments of
their modules are the same and the names of their targets are, except for being raw.
-/
theorem located_by_segments {target other : Target} {names names' : List Name}
    (written : Path.Writes target.package names) (written' : Path.Writes other.package names')
    (legible : target.name.isLegible = true) (legible' : other.name.isLegible = true)
    (named : target.name.text ≠ "_") (named' : other.name.text ≠ "_") :
    ∃ builder builder', ofTarget target = .ok builder ∧ ofTarget other = .ok builder' ∧
      builder.relativePath =
        "/".intercalate (names.map Name.spelling ++ [target.name.text ++ "Builder.rs"]) ∧
      (Path.components builder.relativePath = Path.components builder'.relativePath ↔
        names = names' ∧ target.name.text = other.name.text) := by
  obtain ⟨holder, made⟩ := exists_ofTarget named
  obtain ⟨holder', made'⟩ := exists_ofTarget named'
  obtain ⟨proper, path⟩ := builderPath_of_writes written legible
  obtain ⟨proper', path'⟩ := builderPath_of_writes written' legible'
  refine ⟨_, _, made, made', path, ?_⟩
  rw [target.relativePath_builder, other.relativePath_builder, path, path',
    Path.components_intercalate (by simp) proper, Path.components_intercalate (by simp) proper']
  constructor
  · intro same
    have parts := List.map_injective_iff.2 (fun _ _ => Path.Component.normal.inj) same
    obtain ⟨segments, files⟩ := List.append_inj' parts rfl
    exact ⟨Name.eq_of_map_spelling written.isLegible written'.isLegible segments,
      (String.append_left_inj _).1 (List.singleton_inj.1 files)⟩
  · rintro ⟨rfl, same⟩
    rw [fileName, fileName, same]

/-- Blanks, empty pieces and being raw make no difference to where a builder is written. -/
theorem located_by_segments_spaced :
    ∃ builder builder',
      ofTarget ⟨⟨true, "User"⟩, "\t a ::\u3000::b", .inherited, []⟩ = .ok builder ∧
      ofTarget ⟨.plain "User", "a::b", .inherited, []⟩ = .ok builder' ∧
      builder.relativePath = "a/b/UserBuilder.rs" ∧
      Path.components builder.relativePath = Path.components builder'.relativePath := by
  have tight : Path.Pieces [.plain "b"] [['b']] :=
    @Path.Pieces.segment (.plain "b") _ _ [] [] (by decide) (by decide) (by decide) .nil
  have spaced : Path.Writes "\t a ::\u3000::b" [.plain "a", .plain "b"] :=
    ⟨_, @Path.Pieces.segment (.plain "a") _ _ ['\t', ' '] [' '] (by decide) (by decide) (by decide)
      (@Path.Pieces.blank _ _ ['\u3000'] (by decide) tight), by decide⟩
  have plain : Path.Writes "a::b" [.plain "a", .plain "b"] :=
    ⟨_, @Path.Pieces.segment (.plain "a") _ _ [] [] (by decide) (by decide) (by decide) tight,
      by decide⟩
  obtain ⟨builder, builder', made, made', path, same⟩ := @located_by_segments
    ⟨⟨true, "User"⟩, "\t a ::\u3000::b", .inherited, []⟩ ⟨.plain "User", "a::b", .inherited, []⟩
    _ _ spaced plain (by decide) (by decide) (by decide) (by decide)
  exact ⟨builder, builder', made, made', path.trans (by decide), same.2 ⟨rfl, rfl⟩⟩

/-- The lone underscore has no place in any module. -/
theorem no_location_underscore :
    ¬∃ builder, ofTarget ⟨.plain "_", "a", .inherited, []⟩ = .ok builder ∧
      builder.relativePath = "a/_Builder.rs" := by
  rintro ⟨builder, made, -⟩
  cases (ofTarget_lone rfl).symm.trans made

/--
The path of a builder goes down just if the segments of the module of its target do. If it does, it
leads below every directory that it is put into.
-/
theorem descends_iff_segments {target : Target} (legible : target.name.isLegible = true)
    (named : target.name.text ≠ "_") :
    ∃ builder, ofTarget target = .ok builder ∧
      (Path.Descends builder.relativePath ↔
        ∀ segment ∈ Path.segments target.package, Path.Descends segment) ∧
      (Path.Descends builder.relativePath →
        ∀ directory, Path.Below directory (Path.join directory builder.relativePath)) := by
  obtain ⟨holder, made⟩ := exists_ofTarget named
  have file := isFileName_fileName (Name.isWordy_of_isLegible legible)
  refine ⟨_, made, ?_, fun descends directory => Path.below_join descends ?_ directory⟩
  · have start : Path.Descends "" := by decide
    rw [target.relativePath_builder, builderPath_eq, Path.descends_foldl_join,
      List.forall_mem_append, List.forall_mem_singleton]
    simp only [start, file.descends, true_and, and_true]
  · rw [target.relativePath_builder, builderPath_eq, List.foldl_concat,
      Path.steps_join _ file.isAbsolute_eq, file.steps_eq]
    simp

/-- Dots in a segment, a slash inside of it and blanks do not lead out of a directory. -/
theorem descends_iff_segments_dotted :
    ∃ builder, ofTarget ⟨.plain "A", "a::.::b c/...", .inherited, []⟩ = .ok builder ∧
      builder.relativePath = "a/./b c/.../ABuilder.rs" ∧
      Path.Below "/out/" (Path.join "/out/" builder.relativePath) := by
  obtain ⟨builder, made, down, below⟩ :=
    @descends_iff_segments ⟨.plain "A", "a::.::b c/...", .inherited, []⟩ (by decide) (by decide)
  obtain rfl := Except.ok.inj (made.symm.trans (ofTarget_eq _))
  exact ⟨_, made, by decide, below (down.2 (by decide)) "/out/"⟩

/-- A module path may lead up and out of a directory, or to a place that has nothing to do with it. -/
theorem escapes_directory :
    (∃ builder, ofTarget ⟨.plain "A", "..", .inherited, []⟩ = .ok builder ∧
      Path.join "out" builder.relativePath = "out/../ABuilder.rs" ∧
      ¬Path.Below "out" (Path.join "out" builder.relativePath)) ∧
    ∃ builder, ofTarget ⟨.plain "A", "/tmp", .inherited, []⟩ = .ok builder ∧
      Path.join "out" builder.relativePath = "/tmp/ABuilder.rs" ∧
      ¬Path.Below "out" (Path.join "out" builder.relativePath) :=
  ⟨⟨_, ofTarget_eq _, by decide, by decide⟩, ⟨_, ofTarget_eq _, by decide, by decide⟩⟩

end Builder

end FluentGen
