import FluentGen.Token.Lexer
import Mathlib.Data.Bool.AllAny
import Mathlib.Data.List.TakeWhile

/-!
# Identifiers in a text

The identifiers among the tokens of a text can be written as identifiers again
(`Token.isLegible_of_ofText`): they are made of the characters that may begin or continue one, so
that none of them has a slash in it.
-/

namespace FluentGen

/-- No blank may stand in an identifier. -/
lemma Text.isBlank_of_continuesIdent {c : Char} (continues : continuesIdent c = true) :
    isBlank c = false := by
  have table : ∀ range ∈ blankRanges, ∀ code ∈ List.range' range.1 (range.2 + 1 - range.1),
      continuesIdent (Char.ofNat code) = false := by
    decide +kernel
  rw [isBlank, inRanges, List.any_eq_false]
  intro range inside within
  rw [Bool.and_eq_true, decide_eq_true_eq, decide_eq_true_eq] at within
  have other := table range inside c.toNat (List.mem_range'_1.2 (by omega))
  rw [Char.ofNat_toNat, continues] at other
  cases other

/-- Whether a name can be written as an identifier. -/
def Name.isLegible (name : Name) : Bool :=
  match name.text.toList with
  | [] => false
  | first :: rest => Text.startsIdent first && rest.all Text.continuesIdent &&
      !(name.raw && decide (name.text ∈ Lexer.neverRaw))

/-- All characters of the name may stand in an identifier. -/
def Name.IsWordy (name : Name) : Prop :=
  ∀ c ∈ name.text.toList, Text.continuesIdent c = true

/-- There is no slash in an identifier. -/
lemma Name.IsWordy.slash_notMem {name : Name} (wordy : name.IsWordy) :
    '/' ∉ name.text.toList :=
  fun inside => absurd (wordy '/' inside) (by decide)

namespace Name

open Text

variable {name : Name}

/-- A name is written with the characters of its text, and with a mark if it is raw. -/
lemma IsWordy.of_mem_spelling (wordy : name.IsWordy) {c : Char}
    (inside : c ∈ name.spelling.toList) : continuesIdent c = true ∨ c = '#' := by
  rw [spelling] at inside
  split at inside
  · rw [String.toList_append] at inside
    rcases List.mem_append.1 inside with mark | letter
    · have marks : ∀ d ∈ "r#".toList, continuesIdent d = true ∨ d = '#' :=
        List.all_iff_forall_prop.1 (by decide)
      exact marks c mark
    · exact .inl (wordy c letter)
  · exact .inl (wordy c inside)

/-- A name is legible if its letters are those of an identifier. -/
lemma isLegible_of_letters (first : Char) (letters : List Char)
    (written : name.text.toList = first :: letters) (begins : startsIdent first = true)
    (continues : ∀ c ∈ letters, continuesIdent c = true)
    (proper : name.raw = true → name.text ∉ Lexer.neverRaw) : name.isLegible = true := by
  have all : letters.all continuesIdent = true := List.all_eq_true.2 continues
  rw [isLegible, written]
  simpa [begins, all, imp_iff_not_or] using proper

/-- The letters of a legible name. -/
lemma exists_of_isLegible (legible : name.isLegible = true) :
    ∃ first rest, name.text.toList = first :: rest ∧ startsIdent first = true ∧
      (∀ c ∈ rest, continuesIdent c = true) ∧ (name.raw = true → name.text ∉ Lexer.neverRaw) := by
  rw [isLegible] at legible
  split at legible
  · cases legible
  · next first rest letters =>
    simp only [Bool.and_eq_true, List.all_eq_true, Bool.not_eq_true', Bool.and_eq_false_imp,
      decide_eq_false_iff_not] at legible
    exact ⟨first, rest, letters, legible.1.1, legible.1.2, legible.2⟩

/-- All characters of a legible name go on in an identifier. -/
lemma isWordy_of_isLegible (legible : name.isLegible = true) : name.IsWordy := by
  obtain ⟨first, rest, letters, begins, continues, -⟩ := exists_of_isLegible legible
  rw [IsWordy, letters]
  exact List.forall_mem_cons.2 ⟨continuesIdent_of_startsIdent begins, continues⟩

/-- A legible name is not written as nothing. -/
lemma spelling_ne_nil (legible : name.isLegible = true) : name.spelling.toList ≠ [] := by
  obtain ⟨first, rest, letters, -⟩ := exists_of_isLegible legible
  rw [spelling]
  split
  · simp
  · rw [letters]
    nofun

/-- Legible names that are written in the same way are the same, also in being raw. -/
lemma eq_of_spelling {other : Name} (legible : name.isLegible = true)
    (legible' : other.isLegible = true) (same : name.spelling = other.spelling) : name = other := by
  -- the mark of a raw name is no letter
  have unmarked {text : String} (wordy : ∀ c ∈ text.toList, continuesIdent c = true)
      (more : String) : text ≠ "r#" ++ more := by
    rintro rfl
    exact absurd (wordy '#' (by simp)) (by decide)
  obtain ⟨raw, text⟩ := name
  obtain ⟨raw', text'⟩ := other
  have wordy := isWordy_of_isLegible legible
  have wordy' := isWordy_of_isLegible legible'
  cases raw with
  | false =>
    cases raw' with
    | false => exact congrArg (mk false) same
    | true => exact absurd same (unmarked wordy text')
  | true =>
    cases raw' with
    | false => exact absurd same.symm (unmarked wordy' text)
    | true => exact congrArg (mk true) ((String.append_right_inj "r#").1 same)

/-- Legible names are known from how they are written. -/
lemma eq_of_map_spelling {names others : List Name}
    (legible : ∀ name ∈ names, name.isLegible = true)
    (legible' : ∀ name ∈ others, name.isLegible = true)
    (same : names.map spelling = others.map spelling) : names = others := by
  induction names generalizing others with
  | nil => exact (List.map_eq_nil_iff.1 same.symm).symm
  | cons name names ih =>
    obtain ⟨other, others, rfl, first, rest⟩ := List.map_eq_cons_iff.1 same.symm
    obtain ⟨here, later⟩ := List.forall_mem_cons.1 legible
    obtain ⟨here', later'⟩ := List.forall_mem_cons.1 legible'
    rw [eq_of_spelling here here' first.symm, ih later later' rest.symm]

end Name

namespace Lexer

open Text

/-- The letters that an identifier is read from. -/
lemma exists_of_plainIdent {cs word rest : List Char}
    (found : plainIdent? cs = some (word, rest)) : ∃ first letters, word = first :: letters ∧
      startsIdent first = true ∧ ∀ c ∈ letters, continuesIdent c = true := by
  cases cs with
  | nil => cases found
  | cons first cs =>
    rw [plainIdent?] at found
    split at found
    · next starts =>
      cases found
      exact ⟨first, _, rfl, starts, fun c inside => List.mem_takeWhile_imp inside⟩
    · cases found

/-- An identifier that is read is legible. -/
lemma isLegible_of_ident {cs rest : List Char} {name : Name}
    (found : ident? cs = some (name, rest)) : name.isLegible = true := by
  rw [ident?] at found
  split at found
  · cases found
  · rw [anyIdent?] at found
    split at found
    · next inner _ =>
      obtain ⟨⟨word, left⟩, plain, found⟩ := Option.bind_eq_some_iff.1 found
      obtain ⟨first, letters, rfl, starts, continues⟩ := exists_of_plainIdent plain
      simp only at found
      split at found
      · cases found
      · next proper =>
        cases found
        exact Name.isLegible_of_letters first letters String.toList_ofList starts continues
          fun _ => proper
    · obtain ⟨⟨word, left⟩, plain, found⟩ := Option.bind_eq_some_iff.1 found
      obtain ⟨first, letters, rfl, starts, continues⟩ := exists_of_plainIdent plain
      cases found
      exact Name.isLegible_of_letters first letters String.toList_ofList starts continues nofun

/-- A punctuation token is no identifier. -/
lemma ident_ne_of_punct {cs rest : List Char} {name : Name} :
    punct? cs ≠ some (.ident name, rest) := by
  intro found
  obtain ⟨⟨c, left⟩, -, found⟩ := Option.bind_eq_some_iff.1 found
  simp only at found
  split at found
  · obtain ⟨_, -, found⟩ := Option.bind_eq_some_iff.1 found
    split at found
    · cases found
    · cases found
  · cases found

/-- So is one that is read as a token. -/
lemma isLegible_of_leaf {cs rest : List Char} {name : Name}
    (found : leaf? cs = some (.ident name, rest)) : name.isLegible = true := by
  rw [leaf?] at found
  split at found
  · cases found
  · split at found
    · next punct =>
      cases found
      exact absurd punct ident_ne_of_punct
    · split at found
      · next ident =>
        cases found
        exact isLegible_of_ident ident
      · obtain ⟨_, -, found⟩ := Option.map_eq_some_iff.1 found
        cases found

/-- The only identifier in what stands for a documentation comment is the word for it. -/
lemma isLegible_of_documentationTokens {text : List Char} {inner : Bool} {name : Name}
    (inside : .ident name ∈ documentationTokens text inner) : name.isLegible = true := by
  have word : name = .plain "doc" := by
    cases inner <;> simpa [documentationTokens, Token.group, Token.word] using inside
  rw [word]
  decide

/-- The identifiers among the tokens of the characters. -/
lemma isLegible_of_scan {fuel : Nat} {stack : List Delimiter} {cs : List Char} {tokens : List Token}
    (found : scan fuel stack cs = some tokens) {name : Name} (inside : .ident name ∈ tokens) :
    name.isLegible = true := by
  fun_induction scan fuel stack cs generalizing tokens
  -- a comment or a blank, of which nothing is kept
  case case4 ih => exact ih found inside
  case case5 ih => exact ih found inside
  case case6 ih =>
    obtain ⟨rest, others, rfl⟩ := Option.map_eq_some_iff.1 found
    rcases List.mem_append.1 inside with here | later
    · exact isLegible_of_documentationTokens here
    · exact ih others later
  -- a bracket
  case case8 ih =>
    obtain ⟨rest, others, rfl⟩ := Option.map_eq_some_iff.1 found
    exact ih others (by simpa using inside)
  case case9 ih =>
    obtain ⟨rest, others, rfl⟩ := Option.map_eq_some_iff.1 found
    exact ih others (by simpa using inside)
  case case12 leaf ih =>
    obtain ⟨rest, others, rfl⟩ := Option.map_eq_some_iff.1 found
    rcases List.mem_cons.1 inside with rfl | later
    · exact isLegible_of_leaf leaf
    · exact ih others later
  case case2 =>
    cases found
    cases inside
  -- all others end without tokens
  all_goals cases found

end Lexer

/-- The identifiers among the tokens of a text can be written as identifiers. -/
theorem Token.isLegible_of_ofText {text : String} {tokens : List Token}
    (found : ofText? text = some tokens) {name : Name} (inside : .ident name ∈ tokens) :
    name.isLegible = true :=
  Lexer.isLegible_of_scan found inside

/-- The identifiers among the tokens of a text have only characters of identifiers. -/
theorem Token.isWordy_of_ofText {text : String} {tokens : List Token}
    (found : ofText? text = some tokens) {name : Name} (inside : .ident name ∈ tokens) :
    name.IsWordy :=
  Name.isWordy_of_isLegible (isLegible_of_ofText found inside)

end FluentGen
