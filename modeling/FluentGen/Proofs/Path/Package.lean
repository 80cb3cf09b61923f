import FluentGen.Proofs.Path.Join
import FluentGen.Proofs.Token.Lexer

/-!
# Module paths

A module path may be written with blanks around its segments, and with pieces between its double
colons that are blank or empty. None of this is left when it is read (`Path.segments_of_writes`),
so that all that is written for the same segments leads to the same directory.
-/

namespace FluentGen

namespace Text

/-- A text has nothing but blanks. -/
def IsAllBlank (text : List Char) : Prop :=
  ∀ c ∈ text, isBlank c = true

instance (text : List Char) : Decidable (IsAllBlank text) :=
  List.decidableBAll _ text

/-- Nothing is left of blanks that are trimmed. -/
lemma trimBlank_of_isAllBlank {text : List Char} (blank : IsAllBlank text) : trimBlank text = [] := by
  rw [trimBlank, List.dropWhile_eq_nil_iff.2 blank]
  rfl

/-- Blanks in front of a word are passed over, and no more than them. -/
lemma dropWhile_blanks {blanks word : List Char} (front : IsAllBlank blanks) (present : word ≠ [])
    (solid : ∀ c ∈ word, isBlank c = false) (behind : List Char) :
    (blanks ++ (word ++ behind)).dropWhile isBlank = word ++ behind := by
  obtain ⟨c, rest, rfl⟩ := List.exists_cons_of_ne_nil present
  rw [List.dropWhile_append_of_pos front]
  exact List.dropWhile_cons_of_neg (by rw [solid c List.mem_cons_self]; nofun)

/-- A word is left when the blanks around it are taken away. -/
lemma trimBlank_append {before word behind : List Char} (front : IsAllBlank before)
    (present : word ≠ []) (solid : ∀ c ∈ word, isBlank c = false) (back : IsAllBlank behind) :
    trimBlank (before ++ word ++ behind) = word := by
  have turned : IsAllBlank behind.reverse := fun c inside => back c (List.mem_reverse.1 inside)
  have solid' : ∀ c ∈ word.reverse, isBlank c = false :=
    fun c inside => solid c (List.mem_reverse.1 inside)
  have other := dropWhile_blanks turned (List.reverse_ne_nil_iff.2 present) solid' []
  rw [List.append_nil] at other
  rw [trimBlank, List.append_assoc, dropWhile_blanks front present solid, List.reverse_append, other,
    List.reverse_reverse]

end Text

namespace Path

open Text

/-! ## Writing -/

/-- What stands between the double colons of a module path of segments. -/
inductive Pieces : List Name → List (List Char) → Prop where
  | nil : Pieces [] []
  | blank {names pieces piece} : IsAllBlank piece → Pieces names pieces →
      Pieces names (piece :: pieces)
  | segment {name names pieces before behind} : name.isLegible = true → IsAllBlank before →
      IsAllBlank behind → Pieces names pieces →
      Pieces (name :: names) ((before ++ name.spelling.toList ++ behind) :: pieces)

/-- A text is one way to write the module path of segments. -/
def Writes (package : String) (names : List Name) : Prop :=
  ∃ pieces, Pieces names pieces ∧ package.toList = [':', ':'].intercalate pieces

/-- The names that a package is written with are legible. -/
lemma Writes.isLegible {package : String} {names : List Name} (written : Writes package names) :
    ∀ name ∈ names, name.isLegible = true := by
  obtain ⟨pieces, written, -⟩ := written
  induction written with
  | nil => nofun
  | blank _ _ ih => exact ih
  | segment legible _ _ _ ih => exact List.forall_mem_cons.2 ⟨legible, ih⟩

/-! ## Reading -/

/-- No colon stands in a piece. -/
lemma Pieces.colon_notMem {names : List Name} {pieces : List (List Char)}
    (written : Pieces names pieces) : ∀ piece ∈ pieces, ':' ∉ piece := by
  have blanks {text : List Char} (blank : IsAllBlank text) : ':' ∉ text :=
    fun inside => absurd (blank ':' inside) (by decide)
  induction written with
  | nil => nofun
  | blank blank _ ih => exact List.forall_mem_cons.2 ⟨blanks blank, ih⟩
  | segment legible front back _ ih =>
    refine List.forall_mem_cons.2 ⟨?_, ih⟩
    rw [List.mem_append, List.mem_append, not_or, not_or]
    refine ⟨⟨blanks front, fun inside => ?_⟩, blanks back⟩
    have letter := (Name.isWordy_of_isLegible legible).of_mem_spelling inside
    exact absurd letter (by decide)

/-- A text without a colon is one piece. -/
lemma colonParts_of_notMem {piece : List Char} (plain : ':' ∉ piece) :
    colonParts piece = [piece] := by
  induction piece with
  | nil => rfl
  | cons c piece ih =>
    obtain ⟨here, others⟩ := not_or.1 (List.mem_cons.not.1 plain)
    rw [colonParts, ih others]
    rintro rest rfl
    exact absurd rfl here

/-- A pair of colons stands between a piece and what comes behind it. -/
lemma colonParts_append {piece : List Char} (plain : ':' ∉ piece) (rest : List Char) :
    colonParts (piece ++ ':' :: ':' :: rest) = piece :: colonParts rest := by
  induction piece with
  | nil => rfl
  | cons c piece ih =>
    obtain ⟨here, others⟩ := not_or.1 (List.mem_cons.not.1 plain)
    rw [List.cons_append, colonParts, ih others]
    rintro rest rfl
    exact absurd rfl here

/-- Pieces are found again between the colons. -/
lemma colonParts_intercalate {pieces : List (List Char)} (present : pieces ≠ [])
    (plain : ∀ piece ∈ pieces, ':' ∉ piece) :
    colonParts ([':', ':'].intercalate pieces) = pieces := by
  induction pieces with
  | nil => exact absurd rfl present
  | cons piece pieces ih =>
    obtain ⟨here, others⟩ := List.forall_mem_cons.1 plain
    cases pieces with
    | nil => rw [List.intercalate_singleton, colonParts_of_notMem here]
    | cons next pieces =>
      rw [List.intercalate_cons_cons, List.append_assoc, List.cons_append, List.cons_append,
        List.nil_append, colonParts_append here, ih (List.cons_ne_nil _ _) others]

/-- What is left of the pieces without the blanks are the segments. -/
lemma Pieces.trimmed {names : List Name} {pieces : List (List Char)}
    (written : Pieces names pieces) :
    ((pieces.map trimBlank).filter (!·.isEmpty)).map String.ofList = names.map Name.spelling := by
  induction written with
  | nil => rfl
  | blank blank _ ih => rw [List.map_cons, trimBlank_of_isAllBlank blank]; exact ih
  | @segment name _ _ _ _ legible front back _ ih =>
    have solid : ∀ c ∈ name.spelling.toList, isBlank c = false := by
      intro c inside
      rcases (Name.isWordy_of_isLegible legible).of_mem_spelling inside with letter | rfl
      · exact isBlank_of_continuesIdent letter
      · decide
    have present := Name.spelling_ne_nil legible
    rw [List.map_cons, trimBlank_append front present solid back,
      List.filter_cons_of_pos (by simpa using present), List.map_cons, ih, String.ofList_toList,
      List.map_cons]

/-- However the segments of a module path are written, they are read. -/
theorem segments_of_writes {package : String} {names : List Name} (written : Writes package names) :
    segments package = names.map Name.spelling := by
  obtain ⟨pieces, pieces_of, text⟩ := written
  rw [segments, text]
  by_cases none : pieces = []
  · subst none
    cases pieces_of
    rfl
  · rw [colonParts_intercalate none pieces_of.colon_notMem]
    exact pieces_of.trimmed

end Path

end FluentGen
