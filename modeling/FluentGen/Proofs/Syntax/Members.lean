import FluentGen.Proofs.Syntax.Record

/-!
# How members are read

A field of a structure has a name, and so have the functions and constants of an `impl` block
(`Tree.NamesFields`, `Tree.NamesParts`), so that none of them is passed over when the members of a
text are looked for. For blocks it has to be known besides that a type is never a mere brace, since
the braces of a block are looked for among all of its parts.
-/

namespace FluentGen

namespace Tree

/-- A word of a field comes before everything else but its attributes and visibility. -/
def HasName (field : Tree) : Prop :=
  ∃ front name back, field.parts = front ++ .word name :: back ∧ ∀ part ∈ front, Rules.NoWord part

/-- If the tree holds fields with names, all of them have one. -/
def NamesFields (tree : Tree) : Prop :=
  tree.isA .namedFields = true → ∀ group ∈ tree.parts, ∀ field ∈ group.parts,
    field.isA .field = true → field.HasName

/-- A function or a constant has a name. -/
def NamesPart (part : Tree) : Prop :=
  (part.isA (.item .function) = true → ∃ name, part.declaredName? "fn" = some name) ∧
    (part.isA (.item .constant) = true → ∃ name, part.declaredName? "const" = some name)

/-- What stands between braces has names. -/
def NamesParts (tree : Tree) : Prop :=
  ∀ parts, tree = .group .brace parts → ∀ part ∈ parts, part.NamesPart

/-- A name is found behind its word if that word does not occur before. -/
lemma nameAfter_of_front {introduction : String} {front : List Tree}
    (other : ∀ tree ∈ front, tree ≠ .word (.plain introduction)) (name : Name)
    (rest : List Tree) :
    nameAfter introduction (front ++ .word (.plain introduction) :: .word name :: rest) =
      some name := by
  induction front with
  | nil => simp [nameAfter]
  | cons tree front ih =>
    obtain ⟨here, others⟩ := List.forall_mem_cons.1 other
    have found := ih others
    rw [List.cons_append]
    unfold nameAfter
    split
    · next first second tail whole =>
      obtain ⟨rfl, behind⟩ := List.cons.inj whole
      rw [if_neg fun same => here (by rw [same]), ← behind]
      exact found
    · next whole =>
      cases whole
      exact found
    · next whole => cases whole

end Tree

namespace Rules

open Reader

variable {read : Grammar} {start trees : List Tree} {scan after : Scan}

/-! ## Fields -/

/-- A field in braces has a name. -/
lemma yields_namedField {fields : Reader} :
    (namedField read fields).Yields fun tree => tree.isA .field = true → tree.HasName := by
  intro scan trees after ran
  obtain ⟨parts, inside, rfl⟩ := exists_of_node ran
  refine List.forall_mem_singleton.2 fun _ => ?_
  obtain ⟨front, middle, back, degree, rest, rfl⟩ := exists_of_append inside
  have plain : ∀ part ∈ front, NoWord part :=
    ((yields_outerAttributes fun _ => nofun).append (yields_visibility fun _ _ => nofun)) degree
  -- both forms of a field go on with its name
  obtain ⟨name, tail, rfl⟩ : ∃ name tail, back = .word name :: tail := by
    rw [choose] at rest
    split at rest
    · obtain ⟨_, _, _, named, -, rfl⟩ := exists_of_append rest
      obtain ⟨_, _, _, word, -, rfl⟩ := exists_of_append named
      obtain ⟨name, -, rfl⟩ := exists_of_anyWord word
      exact ⟨name, _, rfl⟩
    · obtain ⟨_, _, _, named, -, rfl⟩ := exists_of_append rest
      obtain ⟨_, _, _, word, -, rfl⟩ := exists_of_append named
      obtain ⟨name, -, rfl⟩ := exists_of_ident word
      exact ⟨name, _, rfl⟩
  exact ⟨front, name, tail, rfl, plain⟩

/-- Only fields with names are looked into. -/
lemma namesFields_of_other {tree : Tree} (other : tree.isA .namedFields = false) :
    tree.NamesFields := by
  intro seen
  rw [other] at seen
  cases seen

/-- All fields in braces have names. -/
lemma yields_namedFields : (namedFields read).Yields Tree.NamesFields := by
  refine .stepped fun times => ?_
  cases times with
  | zero => exact .pass
  | succ times =>
    exact .node_of (.within (.commas yields_namedField nofun) fun _ fields => fields)
      fun _ groups _ => groups

/-- A clause of conditions is one tree, if it is there. -/
lemma yields_whereClause {good : Tree → Prop} (each : ∀ parts, good (.node .conditions parts)) :
    (whereClause read).Yields good :=
  .ifSees (.node each)

/-- Wherever the body of a structure has fields in braces, they have names. -/
lemma yields_structBody : (structBody read).Yields Tree.NamesFields := by
  have semicolon : (symbol ";").Yields Tree.NamesFields := .symbol (namesFields_of_other rfl)
  have conditions : (whereClause read).Yields Tree.NamesFields :=
    yields_whereClause fun _ => namesFields_of_other rfl
  have numbered : (tupleFields read).Yields Tree.NamesFields :=
    .node fun _ => namesFields_of_other rfl
  refine .choose (.append conditions (.oneOf ?_)) (.oneOfAfter ?_)
  · simp only [List.forall_mem_cons, List.not_mem_nil, IsEmpty.forall_iff, implies_true, and_true]
    exact ⟨yields_namedFields, semicolon⟩
  · simp only [List.forall_mem_cons, List.not_mem_nil, IsEmpty.forall_iff, implies_true, and_true]
    refine ⟨.append numbered (.choose (.append conditions (.oneOf ?_)) (.oneOfAfter ?_)),
      yields_namedFields, semicolon⟩
    · exact List.forall_mem_singleton.2 semicolon
    · exact List.forall_mem_singleton.2 semicolon

/-- All fields with names of a structure have one. -/
lemma yields_structRest (plain : ∀ part ∈ start, part.NamesFields) :
    (structRest read start).Yields fun item => ∀ part ∈ item.parts, part.NamesFields := by
  have parameters : (parameters read).Yields Tree.NamesFields :=
    .ifSees (.node fun _ => namesFields_of_other rfl)
  refine .node_of (.append (.append (.give plain) (.append (.append (.word ?_) (.ident ?_))
    parameters)) yields_structBody) fun _ each => each
  · exact namesFields_of_other rfl
  · exact fun _ => namesFields_of_other rfl

/-! ## Types are no braces -/

/-- A tree that is a node. -/
def IsNode (tree : Tree) : Prop :=
  tree.kind?.isSome = true

/-- A path as a type is one node. -/
lemma yields_pathType (plus : Bool) (quantified : List Tree) :
    (pathType read plus quantified).Yields IsNode := by
  refine .bind fun path => ?_
  dsimp only
  split
  · exact .node fun _ => rfl
  · exact .choose (.node fun _ => rfl) (.choose (.node fun _ => rfl) (.node fun _ => rfl))

/-- A type in parentheses is one node. -/
lemma yields_parenType (plus : Bool) : (parenType read plus).Yields IsNode := by
  refine .choose (.node fun _ => rfl) (.bind fun group => ?_)
  split
  · exact .node fun _ => rfl
  · dsimp only
    split
    · exact .choose (.node fun _ => rfl) (.node fun _ => rfl)
    · exact .node fun _ => rfl
  · exact .node fun _ => rfl

/-- A type in brackets is one node. -/
lemma yields_bracketType : (bracketType read).Yields IsNode := by
  refine .bind fun group => ?_
  split
  · exact .node fun _ => rfl
  · exact .node fun _ => rfl

/-- What is kept as it is written is one node. -/
lemma yields_asWritten {kind : Kind} {reader : Reader} : (asWritten kind reader).Yields IsNode :=
  .asText (.node fun _ => rfl) fun _ _ _ => rfl

/-- A type behind a binder is one node. -/
lemma yields_quantifiedType (plus : Bool) : (quantifiedType read plus).Yields IsNode := by
  refine .bind fun quantified => .choose (.node fun _ => rfl) (.oneOf ?_)
  have function : (node (.type .bareFn) (give quantified ++ functionType read)).Yields IsNode :=
    .node fun _ => rfl
  simp only [pathWords, List.map_cons, List.map_nil, List.cons_append, List.nil_append,
    List.forall_mem_cons, List.not_mem_nil, IsEmpty.forall_iff, implies_true, and_true]
  exact ⟨yields_pathType .., function, function, function, yields_pathType .., yields_pathType ..,
    yields_pathType .., yields_pathType ..⟩

/-- A type is a node. -/
lemma yields_type (plus : Bool) : (type read plus).Yields IsNode := by
  refine .choose (.asText (yields_quantifiedType plus) fun _ _ _ => rfl) (.choose yields_asWritten
    (.choose (yields_pathType ..) (.oneOfAfter ?_)))
  have function : (node (.type .bareFn) (functionType read)).Yields IsNode := .node fun _ => rfl
  simp only [List.forall_mem_cons, List.not_mem_nil, IsEmpty.forall_iff, implies_true, and_true]
  exact ⟨yields_parenType plus, function, function, function, yields_pathType .., yields_pathType ..,
    yields_pathType .., .choose yields_asWritten (.node fun _ => rfl), yields_bracketType,
    .node fun _ => rfl, .node fun _ => rfl, .node fun _ => rfl, .node fun _ => rfl,
    .node fun _ => rfl, .node fun _ => rfl⟩

/-! ## Functions and constants -/

/-- What neither a function nor a constant is has no name that is looked for. -/
lemma namesPart_of_other {kind : Kind}
    (other : kind ≠ .item .function ∧ kind ≠ .item .constant) (parts : List Tree) :
    (Tree.node kind parts).NamesPart := by
  constructor
  · intro seen
    exact absurd (by simpa [Tree.isA, Tree.kind?] using seen) other.1
  · intro seen
    exact absurd (by simpa [Tree.isA, Tree.kind?] using seen) other.2

/-- A word that introduces a name. -/
def Introduces (tree : Tree) : Prop :=
  tree = .word (.plain "fn") ∨ tree = .word (.plain "const")

/-- A node introduces no name. -/
lemma noIntroduction_node {kind : Kind} {parts : List Tree} : ¬Introduces (.node kind parts) :=
  nofun

/-- The marks in front of a function are not the word that introduces it. -/
lemma yields_functionMarks : functionMarks.Yields (· ≠ .word (.plain "fn")) := by
  have word (text : String) (other : text ≠ "fn") :
      (optionalWord text).Yields (· ≠ .word (.plain "fn")) :=
    .ifSees (.word (by simpa [Name.plain] using other))
  exact .append (.append (.append (word _ (by decide)) (word _ (by decide)))
    (word _ (by decide))) (.ifSees (.node fun _ => nofun))

/-- What begins with a word and a name is called by the name. -/
lemma declaredName_of_parts {introduction : String} {kind : Kind} {front : List Tree}
    (other : ∀ tree ∈ front, tree ≠ .word (.plain introduction)) (name : Name)
    (rest : List Tree) :
    (Tree.node kind (front ++ .word (.plain introduction) :: .word name :: rest)).declaredName?
      introduction = some name :=
  Tree.nameAfter_of_front other name rest

/-- A function begins with its word and its name. -/
lemma exists_of_functionHead (ran : functionHead read scan = .ok (trees, after)) :
    ∃ name rest, trees = .word (.plain "fn") :: .word name :: rest := by
  obtain ⟨_, _, _, typed, -, rfl⟩ := exists_of_append ran
  obtain ⟨_, _, _, applied, -, rfl⟩ := exists_of_append typed
  obtain ⟨_, _, _, generic, -, rfl⟩ := exists_of_append applied
  obtain ⟨_, _, _, called, -, rfl⟩ := exists_of_append generic
  obtain ⟨_, _, _, word, named, rfl⟩ := exists_of_append called
  obtain ⟨name, -, rfl⟩ := exists_of_ident named
  rw [eq_of_word word]
  exact ⟨name, _, rfl⟩

/-- A function is called by the name behind its word. -/
lemma yields_functionRest_named {region : Region} (plain : ∀ tree ∈ start, ¬Introduces tree) :
    (functionRest read region start).Yields Tree.NamesPart := by
  intro scan trees after ran
  obtain ⟨head, middle, headed, rest⟩ := exists_of_bind ran
  rw [choose] at rest
  split at rest
  · obtain ⟨parts, -, rfl⟩ := exists_of_node rest
    exact List.forall_mem_singleton.2 ⟨nofun, nofun⟩
  · obtain ⟨parts, inside, rfl⟩ := exists_of_node rest
    refine List.forall_mem_singleton.2 ⟨fun _ => ?_, nofun⟩
    obtain ⟨marks, _, back, before, there, rfl⟩ := exists_of_append headed
    obtain ⟨name, more, rfl⟩ := exists_of_functionHead there
    obtain ⟨_, _, body, given, -, rfl⟩ := exists_of_append inside
    cases given
    refine ⟨name, ?_⟩
    have other : ∀ tree ∈ start ++ marks, tree ≠ .word (.plain "fn") := by
      intro tree inside
      rcases List.mem_append.1 inside with inside | inside
      · exact fun same => plain tree inside (.inl same)
      · exact yields_functionMarks before tree inside
    simpa using declaredName_of_parts other name (more ++ body)

/-- A constant is called by the name behind its word. -/
lemma yields_constRest_named {region : Region} (isUsual : Bool)
    (plain : ∀ tree ∈ start, ¬Introduces tree) :
    (constRest read region isUsual start).Yields Tree.NamesPart := by
  intro scan trees after ran
  obtain ⟨head, _, headed, typed⟩ := exists_of_bind ran
  obtain ⟨generics, _, -, typed⟩ := exists_of_bind typed
  obtain ⟨type, _, -, valued⟩ := exists_of_bind typed
  obtain ⟨value, _, -, valued⟩ := exists_of_bind valued
  obtain ⟨conditions, _, -, ended⟩ := exists_of_bind valued
  obtain ⟨parts, inside, rfl⟩ := exists_of_node ended
  refine List.forall_mem_singleton.2 ⟨fun function => ?_, fun _ => ?_⟩
  · split at function <;> cases function
  · obtain ⟨_, _, _, word, named, rfl⟩ := exists_of_append headed
    obtain ⟨_, _, _, given, -, rfl⟩ := exists_of_append inside
    obtain ⟨name, rfl⟩ : ∃ name, _ = [Tree.word name] := by
      obtain ⟨choice, chosen, -, ran⟩ := exists_of_pick named
      simp only [List.mem_cons, List.not_mem_nil, or_false] at chosen
      obtain rfl | rfl := chosen
      · obtain ⟨name, -, same⟩ := exists_of_anyWord ran
        exact ⟨name, same⟩
      · obtain ⟨name, -, same⟩ := exists_of_anyWord ran
        exact ⟨name, same⟩
    cases given
    rw [eq_of_word word]
    refine ⟨name, ?_⟩
    simpa using declaredName_of_parts (fun tree inside same => plain tree inside (.inr same)) name _

/-- The functions and constants of an `impl` block have names. -/
lemma yields_implMember : (implMember read).Yields Tree.NamesPart := by
  have typeAlias (start : List Tree) : (aliasRest read .implBody true start).Yields Tree.NamesPart :=
    .bind fun _ => .bind fun _ => .bind fun _ => .bind fun _ => .bind fun _ =>
      yields_declaration_of (namesPart_of_other (by decide)) (namesPart_of_other (by decide))
  have before : (outerAttributes read).Yields (¬Introduces ·) :=
    yields_outerAttributes fun _ => noIntroduction_node
  refine .asText (.bind_of before ?_) ?_
  · intro attributes plain
    refine .ahead fun here => .ahead fun early => .ahead fun look => ?_
    have call : (macroCallItem attributes Reader.pass).Yields Tree.NamesPart :=
      .bind fun _ => .node (namesPart_of_other (by decide))
    have begins (isDefault : Bool) : (give attributes ++ (visibility ++
        if isDefault = true then word "default" else Reader.pass)).Yields (¬Introduces ·) := by
      refine .append (.give plain) (.append (yields_visibility fun _ _ => noIntroduction_node) ?_)
      split
      · exact .word (by simp [Introduces, Name.plain])
      · exact .pass
    split
    · exact .bind_of (begins _) fun start plain => yields_functionRest_named plain
    · refine .pick fun choice chosen => ?_
      simp only [List.mem_append, List.mem_cons, List.not_mem_nil, or_false] at chosen
      obtain (rfl | rfl) | called := chosen
      · exact .bind_of (begins _) fun start plain => yields_constRest_named true plain
      · exact .bind fun start => typeAlias start
      · split at called
        · cases called
        · exact yields_callChoices here call choice called
  · intro kind text isText
    refine namesPart_of_other ⟨?_, ?_⟩ _
    · rintro rfl
      cases isText
    · rintro rfl
      cases isText

/-- What is no brace has no parts between braces. -/
lemma namesParts_of_other {tree : Tree} (other : ∀ parts, tree ≠ .group .brace parts) :
    tree.NamesParts :=
  fun parts same => absurd same (other parts)

/-- A type is one node at any depth. -/
lemma Grammar.yields_type (depth : Nat) (plus : Bool) :
    (Grammar.ofDepth depth (.type plus)).Yields IsNode := by
  cases depth with
  | zero => exact fun _ _ _ ran => nomatch ran
  | succ depth => exact Rules.yields_type plus

/-- A part of an `impl` block names what it declares, at any depth. -/
lemma Grammar.yields_implItem (depth : Nat) :
    (Grammar.ofDepth depth .implItem).Yields Tree.NamesPart := by
  cases depth with
  | zero => exact fun _ _ _ ran => nomatch ran
  | succ depth => exact yields_implMember

/-- What stands between the braces of an `impl` block has names. -/
lemma yields_implBlock_named (depth : Nat) {attributes : List Tree}
    (plain : ∀ part ∈ attributes, part.NamesParts) :
    (implBlock (Grammar.ofDepth depth) attributes).Yields fun block =>
      ∀ part ∈ block.parts, part.NamesParts := by
  have type : (Grammar.ofDepth depth (.type true)).Yields Tree.NamesParts :=
    fun _ _ _ ran tree inside => namesParts_of_other fun parts same => by
      have node := Grammar.yields_type depth true ran tree inside
      rw [same] at node
      cases node
  have word (text : String) : (word text).Yields Tree.NamesParts :=
    .word (namesParts_of_other nofun)
  have symbol (text : String) : (symbol text).Yields Tree.NamesParts :=
    .symbol (namesParts_of_other nofun)
  have node {kind : Kind} {reader : Reader} : (node kind reader).Yields Tree.NamesParts :=
    .node fun _ => namesParts_of_other nofun
  refine .bind_of (yields_visibility fun _ _ => namesParts_of_other nofun) fun degree first => ?_
  refine .bind_of (.append (.append (.append (.ifSees (word _)) (.ifSees (word _))) (word _))
    (.choose (.ifSees node) .pass)) fun head second => ?_
  refine .bind_of (.choose (.append (.ifSees (symbol _)) (word _)) .pass) fun constness third => ?_
  refine .bind_of (.choose (symbol _) .pass) fun polarity fourth => ?_
  refine .bind_of type fun self fifth => ?_
  refine .bind_of (.ifSees (.append (word _) type)) fun forType sixth => ?_
  split
  · exact fun _ _ _ ran => nomatch ran
  · refine .node_of (.append (.append (.give ?_) (.ifSees node))
      (.within (.append (.repeatUntil (.node fun _ => namesPart_of_other (by decide) _))
        (.repeatUntil (Grammar.yields_implItem depth))) ?_)) fun _ each => each
    · simp only [List.forall_mem_append]
      exact ⟨⟨⟨⟨⟨⟨plain, first⟩, second⟩, third⟩, fourth⟩, fifth⟩, sixth⟩
    · rintro parts each _ ⟨⟩
      exact each

end Rules

/-! ## Members of a source text -/

section

variable {source : String} {items : List Tree} {tree : Tree}

/-- The fields of a structure in a source text that can have names have them. -/
theorem namesFields_of_readSource (read : readSource source = .ok items) (inside : tree ∈ items)
    (record : tree.isA (.item .record) = true) : ∀ part ∈ tree.parts, part.NamesFields := by
  obtain ⟨tokens, depth, here, found, behind, -, -, ran, inside⟩ :=
    exists_item_of_readSource read inside fun aside => by
      rw [aside.1] at record
      cases record
  obtain ⟨attributes, middle, degree, look, first, second, -, rest⟩ :=
    Rules.structRest_of_item ran inside record
  refine Rules.yields_structRest (List.forall_mem_append.2 ⟨?_, ?_⟩) rest tree inside
  · exact Rules.yields_outerAttributes (fun _ => Rules.namesFields_of_other rfl) first
  · exact Rules.yields_visibility (fun _ _ => Rules.namesFields_of_other rfl) second

/-- The functions and constants of an `impl` block in a source text have names. -/
theorem namesParts_of_readSource (read : readSource source = .ok items) (inside : tree ∈ items)
    {ofTrait : Bool} (block : tree.isA (.item (.implementation ofTrait)) = true) :
    ∀ part ∈ tree.parts, part.NamesParts := by
  obtain ⟨tokens, depth, here, found, behind, -, -, ran, inside⟩ :=
    exists_item_of_readSource read inside fun aside => by
      rw [aside.2] at block
      cases block
  have absurdity (aside : Rules.Aside tree) : ∀ part ∈ tree.parts, part.NamesParts := by
    rw [aside.2] at block
    cases block
  rcases Rules.cases_of_item ran with ⟨attributes, middle, first, rest⟩ | aside
  · rcases Rules.cases_of_itemRest rest with ⟨degree, look, -, -, rest⟩ | rest | aside
    · obtain ⟨parts, -, rfl⟩ := Reader.exists_of_node rest
      cases List.mem_singleton.1 inside
      cases block
    · exact Rules.yields_implBlock_named depth
        (Rules.yields_outerAttributes (fun _ => Rules.namesParts_of_other nofun) first)
        rest tree inside
    · exact absurdity (aside tree inside)
  · exact absurdity (aside tree inside)

end

end FluentGen
