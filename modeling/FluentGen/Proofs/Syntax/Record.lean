import FluentGen.Proofs.Syntax.Forward
import FluentGen.Proofs.Syntax.Yields
import FluentGen.Target.Discovery
import Mathlib.Logic.IsEmpty.Basic

/-!
# How structures are read

A structure is read the same way whether it is an item among others or a declaration that stands
alone (`Rules.dataItem_of_item`), and it is called by an identifier in its text
(`Rules.declaredName_of_item`). For that, no other rule for an item may make a structure, which is
seen from what its readers yield.
-/

namespace FluentGen

/-! ## Structures among the items -/

namespace Rules

open Reader

/-- A tree that is neither a structure nor an `impl` block. -/
def Aside (tree : Tree) : Prop :=
  tree.isA (.item .record) = false ∧
    ∀ ofTrait, tree.isA (.item (.implementation ofTrait)) = false

section

variable {read : Grammar} {attributes trees : List Tree} {scan after : Scan} {tree : Tree}

/-- Any other node is left aside. -/
lemma aside_node {kind : Kind}
    (other : kind ≠ .item .record ∧ ∀ ofTrait, kind ≠ .item (.implementation ofTrait))
    (parts : List Tree) : Aside (.node kind parts) := by
  simpa [Aside, Tree.isA, Tree.kind?] using other

/-- A declaration is of the kind that is meant, or it is only kept as text. -/
lemma yields_declaration_of {good : Tree → Prop} {region : Region} {kind : ItemKind}
    {isUsual : Bool} {reader : Reader} (usual : ∀ parts, good (.node (.item kind) parts))
    (other : ∀ parts, good (.node (.item (.verbatim region)) parts)) :
    (declaration region kind isUsual reader).Yields good := by
  refine .node fun parts => ?_
  cases isUsual with
  | true => exact usual parts
  | false => exact other parts

/-- Any other declaration is left aside, usual or not. -/
lemma yields_declaration {region : Region} {kind : ItemKind}
    (other : kind ≠ .record ∧ ∀ ofTrait, kind ≠ .implementation ofTrait)
    {isUsual : Bool} {reader : Reader} :
    (declaration region kind isUsual reader).Yields Aside :=
  yields_declaration_of (aside_node (by simpa using other)) (aside_node ⟨nofun, fun _ => nofun⟩)

/-- A function is left aside. -/
lemma yields_functionRest (region : Region) (start : List Tree) :
    (functionRest read region start).Yields Aside :=
  .bind fun _ => .choose (yields_declaration (by decide)) (yields_declaration (by decide))

/-- A constant is left aside. -/
lemma yields_constRest (start : List Tree) :
    (constRest read .file true start).Yields Aside :=
  .bind fun _ => .bind fun _ => .bind fun _ => .bind fun _ => .bind fun _ =>
    yields_declaration (by decide)

/-- A type alias is left aside. -/
lemma yields_aliasRest (start : List Tree) :
    (aliasRest read .file true start).Yields Aside :=
  .bind fun _ => .bind fun _ => .bind fun _ => .bind fun _ => .bind fun _ =>
    yields_declaration (by decide)

/-- A block of foreign items is left aside. -/
lemma yields_foreignBlock (attributes : List Tree) :
    (foreignBlock read attributes).Yields Aside :=
  .node (aside_node (by decide))

/-- A trait is left aside. -/
lemma yields_traitItem (attributes : List Tree) : (traitItem read attributes).Yields Aside :=
  .node (aside_node (by decide))

/-- A module is left aside. -/
lemma yields_moduleItem (attributes : List Tree) : (moduleItem read attributes).Yields Aside :=
  .node (aside_node (by decide))

/-- A trait or its alias is left aside. -/
lemma yields_traitOrAlias (attributes : List Tree) :
    (traitOrAlias read attributes).Yields Aside := by
  refine .bind fun start => .oneOf ?_
  have trait : (node (.item .trait) (give start ++ traitRest read)).Yields Aside :=
    .node (aside_node (by decide))
  simp only [List.forall_mem_cons, List.not_mem_nil, IsEmpty.forall_iff, implies_true, and_true]
  exact ⟨trait, trait, trait, .node (aside_node (by decide))⟩

/-- An external item is left aside. -/
lemma yields_externItem (attributes : List Tree) :
    (externItem read attributes).Yields Aside := by
  refine .ahead fun look => .pick ?_
  simp only [List.forall_mem_cons, List.not_mem_nil, IsEmpty.forall_iff, implies_true, and_true]
  refine ⟨.node (aside_node (by decide)), yields_foreignBlock _, .ahead fun look => .pick ?_⟩
  simp only [List.forall_mem_cons, List.not_mem_nil, IsEmpty.forall_iff, implies_true, and_true]
  exact yields_foreignBlock _

/-- Every choice of a call yields what the call yields. -/
lemma yields_callChoices {good : Tree → Prop} (look : Scan) {call : Reader}
    (each : call.Yields good) :
    ∀ choice ∈ callChoices look call, choice.reader.Yields good := by
  intro choice inside
  rw [callChoices] at inside
  split at inside
  · cases inside
  · obtain ⟨sight, -, rfl⟩ := List.mem_map.1 inside
    exact each

/-- Of the items that begin with `unsafe` only an `impl` block is none of the others. -/
lemma cases_of_unsafeItem (ran : unsafeItem read attributes scan = .ok (trees, after)) :
    implBlock read attributes scan = .ok (trees, after) ∨ ∀ tree ∈ trees, Aside tree := by
  obtain ⟨_, look, -, ran⟩ := exists_of_ahead ran
  obtain ⟨choice, chosen, -, ran⟩ := exists_of_pick ran
  simp only [List.mem_cons, List.not_mem_nil, or_false] at chosen
  obtain rfl | rfl | rfl | rfl | rfl := chosen
  · exact .inr (yields_traitItem _ ran)
  · exact .inr (yields_traitItem _ ran)
  · exact .inl ran
  · exact .inr (yields_foreignBlock _ ran)
  · exact .inr (yields_moduleItem _ ran)

/--
An item is read as a structure, from the word for it on, or as an `impl` block, or it is neither of
them.
-/
lemma cases_of_itemRest (ran : itemRest read attributes scan = .ok (trees, after)) :
    (∃ degree look, visibility scan = .ok (degree, look) ∧ look.sees (.word "struct") = true ∧
      structRest read (attributes ++ degree) look = .ok (trees, after)) ∨
    implBlock read attributes scan = .ok (trees, after) ∨ ∀ tree ∈ trees, Aside tree := by
  have other {reader : Reader} (yields : reader.Yields Aside)
      (ran : reader scan = .ok (trees, after)) {first second : Prop} :
      first ∨ second ∨ ∀ tree ∈ trees, Aside tree := .inr (.inr (yields ran))
  obtain ⟨degree, look, here, ran⟩ := exists_of_ahead ran
  split at ran
  · exact other (.bind fun _ => yields_functionRest ..) ran
  · obtain ⟨_, _, -, ran⟩ := exists_of_ahead ran
    obtain ⟨choice, chosen, seen, ran⟩ := exists_of_pick ran
    simp only [List.mem_append, List.mem_cons, List.not_mem_nil, or_false] at chosen
    obtain (rfl | rfl | rfl | rfl | rfl | rfl | rfl | rfl | rfl | rfl | rfl | rfl | rfl | rfl |
      rfl) | called := chosen
    · exact other (yields_externItem _) ran
    · exact other (.bind fun _ => yields_declaration (by decide)) ran
    · exact other (.bind fun _ => .bind fun _ => .bind fun _ =>
        yields_declaration (by decide)) ran
    · exact other (.bind fun _ => yields_constRest _) ran
    · exact .inr (cases_of_unsafeItem ran)
    · exact other (yields_moduleItem _) ran
    · exact other (.bind fun _ => yields_aliasRest _) ran
    · obtain ⟨start, middle, first, there⟩ := exists_of_bind ran
      obtain ⟨given, spot, degree', pass, second, rfl⟩ := exists_of_append first
      cases pass
      rw [here] at second
      cases second
      exact .inl ⟨degree, look, here, seen, there⟩
    · exact other (.bind fun _ => .node (aside_node (by decide))) ran
    · exact other (.bind fun _ => .node (aside_node (by decide))) ran
    · exact other (yields_traitOrAlias _) ran
    · exact other (yields_traitItem _) ran
    · exact .inr (.inl ran)
    · exact .inr (.inl ran)
    · exact other (yields_declaration (by decide)) ran
    · exact other (yields_callChoices _ (.bind fun _ => .node (aside_node (by decide)))
        choice called) ran

/-- An item is read from its attributes and what follows them, if it is not kept as text. -/
lemma cases_of_item (ran : item read scan = .ok (trees, after)) :
    (∃ attributes middle, outerAttributes read scan = .ok (attributes, middle) ∧
      itemRest read attributes middle = .ok (trees, after)) ∨ ∀ tree ∈ trees, Aside tree := by
  rcases cases_of_asText ran with ⟨kind, text, isText, rfl⟩ | ran
  · refine .inr (List.forall_mem_singleton.2 (aside_node ⟨?_, ?_⟩ _))
    · rintro rfl
      cases isText
    · rintro ofTrait rfl
      cases isText
  · obtain ⟨attributes, middle, first, rest⟩ := exists_of_bind ran
    exact .inl ⟨attributes, middle, first, rest⟩

/-- An `impl` block is no structure. -/
lemma yields_implBlock (attributes : List Tree) :
    (implBlock read attributes).Yields fun tree => tree.isA (.item .record) = false := by
  refine .bind fun _ => .bind fun _ => .bind fun _ => .bind fun _ => .bind fun _ =>
    .bind fun forType => ?_
  split
  · exact fun _ _ _ ran => nomatch ran
  · exact yields_declaration_of (fun _ => rfl) fun _ => rfl

/-- What an item is read from if it is a structure. -/
lemma structRest_of_item (ran : item read scan = .ok (trees, after)) (inside : tree ∈ trees)
    (record : tree.isA (.item .record) = true) :
    ∃ attributes middle degree look, outerAttributes read scan = .ok (attributes, middle) ∧
      visibility middle = .ok (degree, look) ∧ look.sees (.word "struct") = true ∧
      structRest read (attributes ++ degree) look = .ok (trees, after) := by
  rcases cases_of_item ran with ⟨attributes, middle, first, rest⟩ | other
  · rcases cases_of_itemRest rest with ⟨degree, look, second, seen, rest⟩ | block | other
    · exact ⟨attributes, middle, degree, look, first, second, seen, rest⟩
    · exact absurd record (by rw [yields_implBlock _ block tree inside]; nofun)
    · exact absurd record (by rw [(other tree inside).1]; nofun)
  · exact absurd record (by rw [(other tree inside).1]; nofun)

/-- A structure that is an item is the same when it is read as a declaration that stands alone. -/
theorem dataItem_of_item (ran : item read scan = .ok (trees, after)) (inside : tree ∈ trees)
    (record : tree.isA (.item .record) = true) : dataItem read scan = .ok (trees, after) := by
  obtain ⟨attributes, middle, degree, look, first, second, seen, rest⟩ :=
    structRest_of_item ran inside record
  have start : (outerAttributes read ++ visibility) scan = .ok (attributes ++ degree, look) := by
    show append _ _ _ = _
    simp only [append, first, second]
  rw [dataItem, Reader.bind, start]
  simp only [oneOf, oneOfAfter, pick, Choice.of, seen, ↓reduceIte]
  exact rest

/-! ## The name of a structure -/

/-- A tree that is no mere word. -/
def NoWord (tree : Tree) : Prop :=
  ∀ name, tree ≠ .word name

/-- Attributes are nodes of their own. -/
lemma yields_outerAttributes {good : Tree → Prop}
    (each : ∀ parts, good (.node .attribute parts)) : (outerAttributes read).Yields good :=
  .repeatUntil (.node each)

/-- A visibility is one node. -/
lemma yields_visibility {good : Tree → Prop}
    (each : ∀ degree parts, good (.node (.visibility degree) parts)) : visibility.Yields good := by
  refine .choose (.bind fun start => fun scan trees after ran => ?_) (.node (each _))
  split at ran
  · exact Yields.node (each _) ran
  · exact Yields.node (each _) ran

/-- A name is not looked for among trees that are no words. -/
lemma nameAfter_append {introduction : String} {front : List Tree}
    (plain : ∀ tree ∈ front, NoWord tree) (rest : List Tree) :
    Tree.nameAfter introduction (front ++ rest) = Tree.nameAfter introduction rest := by
  induction front with
  | nil => rfl
  | cons tree front ih =>
    obtain ⟨here, others⟩ := List.forall_mem_cons.1 plain
    rw [List.cons_append, Tree.nameAfter, ih others]
    exact fun name _ _ same => absurd same (here name)

/-- A structure that is an item is called by an identifier of its text. -/
theorem declaredName_of_item (ran : item read scan = .ok (trees, after)) (inside : tree ∈ trees)
    (record : tree.isA (.item .record) = true) [∀ phrase, Forward (read phrase)] :
    ∃ name, tree.declaredName? "struct" = some name ∧ .ident name ∈ scan.rest := by
  obtain ⟨attributes, middle, degree, look, first, second, -, whole⟩ :=
    structRest_of_item ran inside record
  -- the attributes and the visibility, then the head of the structure, then its body
  obtain ⟨_, parts, rfl⟩ := exists_of_node whole
  obtain ⟨_, _, body, front, -, rfl⟩ := exists_of_append parts
  obtain ⟨_, _, _, given, head, rfl⟩ := exists_of_append front
  obtain ⟨_, _, generics, words, -, rfl⟩ := exists_of_append head
  obtain ⟨_, before, _, here, named, rfl⟩ := exists_of_append words
  cases given
  cases List.mem_singleton.1 inside
  obtain ⟨name, tokens, rfl⟩ := exists_of_ident named
  rw [eq_of_word here]
  refine ⟨name, ?_, ?_⟩
  · rw [Tree.declaredName?, Tree.parts, List.append_assoc, nameAfter_append]
    · simp [Tree.nameAfter]
    · intro tree inside
      rcases List.mem_append.1 inside with inside | inside
      · exact yields_outerAttributes (fun _ => nofun) first tree inside
      · exact yields_visibility (fun _ _ => nofun) second tree inside
  · have further : before.rest <:+ scan.rest :=
      (Forward.suffix here).trans ((Forward.suffix second).trans (Forward.suffix first))
    exact further.subset (tokens ▸ List.mem_cons_self)

/-- What is not aside in a file is an item that is read somewhere in its text. -/
lemma exists_of_file [∀ phrase, Forward (read phrase)] (ran : file read scan = .ok (trees, after))
    (inside : tree ∈ trees) (meant : ¬Aside tree) :
    ∃ here found behind, here.rest <:+ scan.rest ∧ read .item here = .ok (found, behind) ∧
      tree ∈ found := by
  have other : (innerAttributes read).Yields Aside :=
    .repeatUntil (.node (aside_node (by decide)))
  obtain ⟨_, middle, _, first, items, rfl⟩ := exists_of_append ran
  rcases List.mem_append.1 inside with inside | inside
  · exact absurd (other first tree inside) meant
  · obtain ⟨here, found, behind, further, ran, inside⟩ := exists_of_repeatTimes items inside
    exact ⟨here, found, behind, further.trans (Forward.suffix first), ran, inside⟩

end

end Rules

/-- The items of the characters of a source file. -/
def readChars (text : List Char) : Except Fault (List Tree) :=
  let text := Lexer.withoutMark (sourceBody text)
  match Lexer.scan (text.length + 1) [] text with
  | some tokens => Syntax.readTokens Rules.file tokens
  | none => .error .unreadable

/-- A text is read by its characters, so that one that is written down need not be decoded. -/
lemma readSource_eq (text : String) : readSource text = readChars text.toList := by
  rw [readSource, Syntax.readText, Token.ofText?, String.toList_ofList]
  rfl

/-- What is not aside in a source text is an item that is read somewhere in its tokens. -/
lemma exists_item_of_readSource {source : String} {items : List Tree} {tree : Tree}
    (read : readSource source = .ok items) (inside : tree ∈ items) (meant : ¬Rules.Aside tree) :
    ∃ tokens depth here found behind,
      Token.ofText? (String.ofList (sourceBody source.toList)) = some tokens ∧
      here.rest <:+ tokens ∧
      Rules.item (Grammar.ofDepth depth) here = .ok (found, behind) ∧ tree ∈ found := by
  rw [readSource, Syntax.readText] at read
  split at read
  · next tokens lexed =>
    rw [Syntax.readTokens, Reader.readAll] at read
    split at read
    · cases read
    · next trees after ran =>
      split at read
      · cases read
      · split at read
        · cases read
          obtain ⟨here, found, behind, further, ran, inside⟩ :=
            Rules.exists_of_file ran inside meant
          exact ⟨tokens, _, here, found, behind, lexed, further, ran, inside⟩
        · cases read
  · cases read

/-- A structure in a source text is called by an identifier of the text. -/
theorem declaredName_of_readSource {source : String} {items : List Tree} {tree : Tree}
    (read : readSource source = .ok items) (inside : tree ∈ items)
    (record : tree.isA (.item .record) = true) :
    ∃ tokens name, Token.ofText? (String.ofList (sourceBody source.toList)) = some tokens ∧
      tree.declaredName? "struct" = some name ∧ .ident name ∈ tokens := by
  obtain ⟨tokens, depth, here, found, behind, lexed, further, ran, inside⟩ :=
    exists_item_of_readSource read inside fun aside => by
      rw [aside.1] at record
      cases record
  obtain ⟨name, named, among⟩ := Rules.declaredName_of_item ran inside record
  exact ⟨tokens, name, lexed, named, further.subset among⟩

end FluentGen
