import FluentGen.Naming
import FluentGen.Proofs.Text.Lowercase
import FluentGen.Proofs.Token.Lexer

/-!
# Names of variables

Only the lone underscore has no variable: the first letter of a type is lowered, so that no variable
is called `Self`, and nothing but an underscore is lowered to one. The variable of a type with a
legible name is an identifier, and differs from the object itself and from the name that a value is
bound to beside it.
-/

namespace FluentGen

/-- A name that is not raw is an identifier unless it is a keyword. -/
lemma Sight.isIdent_plain {text : String} : isIdent (.plain text) = true ↔ text ∉ keywords := by
  rw [isIdent, Name.plain, Bool.false_or]
  exact decide_eq_true_iff

namespace Naming

/-- The variable of a type that has a name begins with what the first letter is lowered to. -/
lemma variableName_head {target : String} (named : target ≠ "") :
    ∃ c rest first more, target.toList = c :: rest ∧
      (variableName target).toList = first :: (more ++ rest) ∧
      first ≠ 'S' ∧ (first = '_' → c = '_') := by
  cases letters : target.toList with
  | nil => exact absurd (String.toList_eq_nil_iff.1 letters) named
  | cons c rest =>
    obtain ⟨first, more, lower, capital, underscore⟩ := Text.lowercase_head c
    refine ⟨c, rest, first, more, rfl, ?_, capital, underscore⟩
    rw [variableName, letters]
    simp [lower]

/-- The variable of a type is an underscore only if the type is one. -/
lemma variableName_eq_underscore {target : String} (same : variableName target = "_") :
    target = "_" := by
  have named : target ≠ "" := by
    rintro rfl
    exact absurd same (by decide)
  obtain ⟨c, rest, first, more, letters, lower, -, underscore⟩ := variableName_head named
  rw [same] at lower
  have head : first = '_' := (List.cons.inj lower).1.symm
  have tail : rest = [] := (List.append_eq_nil_iff.1 (List.cons.inj lower).2.symm).2
  rw [← String.ofList_toList (s := target), letters, underscore head, tail]

/-- The variable of a type is never `Self`. -/
lemma variableName_ne_self (target : String) : variableName target ≠ "Self" := by
  intro same
  have named : target ≠ "" := by
    rintro rfl
    exact absurd same (by decide)
  obtain ⟨c, rest, first, more, -, lower, capital, -⟩ := variableName_head named
  rw [same] at lower
  exact capital (List.cons.inj lower).1.symm

/-- A name that can be used has an identifier. -/
lemma asIdent_ok {name : String} (underscore : name ≠ "_") (object : name ≠ "Self") :
    ∃ ident, asIdent name = .ok ident := by
  unfold asIdent
  split
  · exact ⟨_, rfl⟩
  · rw [if_neg (not_or.2 ⟨underscore, object⟩)]
    split <;> exact ⟨_, rfl⟩

/-- Every type has a variable, except for the lone underscore. -/
lemma asIdent_variableName (target : String) :
    (target = "_" ∧ asIdent (variableName target) = .error ⟨"_"⟩) ∨
      (target ≠ "_" ∧ ∃ ident, asIdent (variableName target) = .ok ident) := by
  by_cases underscore : target = "_"
  · subst underscore
    exact .inl ⟨rfl, by decide⟩
  · exact .inr ⟨underscore, asIdent_ok (fun same => underscore (variableName_eq_underscore same))
      (variableName_ne_self target)⟩

/-! ## Identifiers -/

/-- The variable of a legible type has the letters of an identifier. -/
lemma isLegible_variableName {target : Name} (legible : target.isLegible = true) :
    (Name.plain (variableName target.text)).isLegible = true := by
  obtain ⟨c, rest, letters, begins, continues, -⟩ := Name.exists_of_isLegible legible
  obtain ⟨first, more, lower, begins, goes_on⟩ := Text.lowercase_letters begins
  refine Name.isLegible_of_letters first (more ++ rest) ?_ begins
    (List.forall_mem_append.2 ⟨goes_on, continues⟩) nofun
  rw [Name.plain, variableName, letters]
  simp [lower]

/-- The name of the builder of a legible type is legible. -/
lemma isLegible_builderName {target : Name} (legible : target.isLegible = true) :
    (Name.plain (builderName target.text)).isLegible = true := by
  obtain ⟨first, rest, letters, begins, continues, -⟩ := Name.exists_of_isLegible legible
  refine Name.isLegible_of_letters first (rest ++ "Builder".toList) ?_ begins
    (List.forall_mem_append.2 ⟨continues, List.all_eq_true.1 (by decide)⟩) nofun
  simp [Name.plain, builderName, letters]

/-- The name of the setter of a legible field is legible. -/
lemma isLegible_setterName {field : Name} (legible : field.isLegible = true) :
    (Name.plain (setterName field.text)).isLegible = true := by
  refine Name.isLegible_of_letters 's' ("et_".toList ++ field.text.toList) ?_ (by decide)
    (List.forall_mem_append.2 ⟨List.all_eq_true.1 (by decide), Name.isWordy_of_isLegible legible⟩)
    nofun
  simp [Name.plain, setterName]

/-- The name that a value is bound to is legible. -/
lemma isLegible_bindingName (holder : String) :
    (Name.plain (bindingName holder)).isLegible = true := by
  rw [bindingName]
  split <;> decide

/-- It is no keyword. -/
lemma isIdent_bindingName (holder : String) :
    Sight.isIdent (.plain (bindingName holder)) = true := by
  rw [bindingName]
  split <;> decide

/-- No keyword begins like the name of a setter. -/
lemma isIdent_setterName (field : String) : Sight.isIdent (.plain (setterName field)) = true := by
  refine Sight.isIdent_plain.2 fun keyword => ?_
  have apart : ∀ word ∈ Sight.keywords, word.toList.take 4 ≠ ['s', 'e', 't', '_'] := by decide
  refine apart _ keyword ?_
  rw [setterName, String.toList_append]
  rfl

/-- The name of a builder is no keyword. -/
lemma isIdent_builderName (target : String) :
    Sight.isIdent (.plain (builderName target)) = true := by
  have other : ∀ word ∈ Sight.keywords, ¬"Builder".toList <:+ word.toList := by decide
  exact Sight.isIdent_plain.2 fun inside =>
    other _ inside ⟨target.toList, by simp [builderName, String.toList_append]⟩

/-- The three ways in which a name becomes an identifier. -/
lemma asIdent_cases {name : String} {ident : Name} (made : asIdent name = .ok ident) :
    (name ∈ ["crate", "self", "super"] ∧ ident = .plain (name ++ "_")) ∨
      (name ∉ Sight.keywords ∧ ident = .plain name) ∨
      name ∈ Sight.keywords ∧ name ∉ Lexer.neverRaw ∧ ident = ⟨true, name⟩ := by
  unfold asIdent at made
  split at made
  · next reserved => exact .inl ⟨reserved, (Except.ok.inj made).symm⟩
  · next free =>
    split at made
    · cases made
    · next usable =>
      split at made
      · next plain =>
        exact .inr (.inl ⟨Sight.isIdent_plain.1 plain, (Except.ok.inj made).symm⟩)
      · next keyword =>
        refine .inr (.inr ⟨of_not_not (Sight.isIdent_plain.not.1 keyword), ?_,
          (Except.ok.inj made).symm⟩)
        simp only [List.mem_cons, List.not_mem_nil, or_false, not_or, Lexer.neverRaw] at free usable ⊢
        exact ⟨usable.1, free.2.2, free.2.1, usable.2, free.1⟩

section

variable {name : String} {ident : Name}

/-- What a name becomes is an identifier. -/
lemma isIdent_of_asIdent (made : asIdent name = .ok ident) : Sight.isIdent ident = true := by
  rcases asIdent_cases made with ⟨reserved, rfl⟩ | ⟨free, rfl⟩ | ⟨-, -, rfl⟩
  · revert name
    decide
  · exact Sight.isIdent_plain.2 free
  · rfl

/-- It has the letters of one if the name has them. -/
lemma isLegible_of_asIdent (legible : (Name.plain name).isLegible = true)
    (made : asIdent name = .ok ident) : ident.isLegible = true := by
  obtain ⟨first, rest, letters, begins, continues, -⟩ := Name.exists_of_isLegible legible
  rcases asIdent_cases made with ⟨-, rfl⟩ | ⟨-, rfl⟩ | ⟨-, proper, rfl⟩
  · refine Name.isLegible_of_letters first (rest ++ ['_']) ?_ begins
      (List.forall_mem_append.2 ⟨continues, List.all_eq_true.1 (by decide)⟩) nofun
    rw [Name.plain] at letters ⊢
    simp only [String.toList_append, letters]
    rfl
  · exact legible
  · exact Name.isLegible_of_letters first rest letters begins continues fun _ => proper

/-- No variable hides the object itself. -/
lemma text_ne_self (made : asIdent name = .ok ident) : ident.text ≠ "self" := by
  rcases asIdent_cases made with ⟨reserved, rfl⟩ | ⟨free, rfl⟩ | ⟨-, proper, rfl⟩
  · revert name
    decide
  · rintro rfl
    exact free (by decide)
  · rintro rfl
    exact proper (by decide)

/-- No variable hides the value beside it, even if one of the two is raw. -/
lemma text_ne_bindingName (made : asIdent name = .ok ident) :
    ident.text ≠ bindingName ident.spelling := by
  have plain (text : String) : text ≠ bindingName text := by
    rw [bindingName]
    split
    · next same => rw [same]; decide
    · next other => exact other
  rcases asIdent_cases made with ⟨-, rfl⟩ | ⟨-, rfl⟩ | ⟨keyword, -, rfl⟩
  · exact plain _
  · exact plain _
  · -- a keyword is neither of the two names that a value may be bound to
    intro same
    have bound : bindingName (Name.mk true name).spelling ∉ Sight.keywords := by
      rw [bindingName]
      split <;> decide
    exact bound (same ▸ keyword)

end

end Naming

end FluentGen
