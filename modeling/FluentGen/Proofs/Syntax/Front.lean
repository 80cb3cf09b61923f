import FluentGen.Proofs.Syntax.Record

/-!
# The front of an item

An item begins with the attributes that stand in front of it, whatever it declares, unless it is
only kept as text. A file whose first tokens are an attribute therefore begins with that attribute
(`Rules.first_of_file`).
-/

namespace FluentGen

namespace Reader

/-- What the reader gives is good as a whole. -/
def Gives (good : List Tree → Prop) (reader : Reader) : Prop :=
  ∀ ⦃scan trees after⦄, reader scan = .ok (trees, after) → good trees

/-- What the reader gives begins with the trees. -/
def Leads (front : List Tree) (reader : Reader) : Prop :=
  reader.Gives (front <+: ·)

section

variable {good : List Tree → Prop} {front start : List Tree} {first second reader yes no : Reader}

namespace Gives

/-- A reader that goes on by what was found gives what it goes on with. -/
lemma bind {next : List Tree → Reader} (each : ∀ found, (next found).Gives good) :
    (first.bind next).Gives good := by
  intro scan trees after ran
  obtain ⟨found, _, -, there⟩ := exists_of_bind ran
  exact each found there

/-- A choice between two readers gives what both of them give. -/
lemma choose {test : Scan → Bool} (either : yes.Gives good) (other : no.Gives good) :
    (Reader.choose test yes no).Gives good := by
  intro scan trees after ran
  rw [Reader.choose] at ran
  split at ran
  · exact either ran
  · exact other ran

/-- A reader that has looked ahead gives what it goes on with. -/
lemma ahead {next : Scan → Reader} (each : ∀ look, (next look).Gives good) :
    (Reader.ahead first next).Gives good := by
  intro scan trees after ran
  obtain ⟨_, look, -, there⟩ := exists_of_ahead ran
  exact each look there

/-- One of some choices gives what all of them give. -/
lemma pick {missed : List String} {choices : List Choice} {look : Scan}
    (each : ∀ choice ∈ choices, choice.reader.Gives good) :
    (Reader.pick missed choices look).Gives good := by
  intro scan trees after ran
  obtain ⟨choice, inside, -, here⟩ := exists_of_pick ran
  exact each choice inside here

/-- So it does if the choice depends on what stands there. -/
lemma oneOf {choices : List Choice} (each : ∀ choice ∈ choices, choice.reader.Gives good) :
    (Reader.oneOf choices).Gives good := by
  intro scan trees after ran
  exact pick each ran

end Gives

namespace Leads

/-- Given trees lead with any front of them. -/
lemma give (begins : front <+: start) : (Reader.give start).Leads front := by
  intro scan trees after ran
  cases ran
  exact begins

/-- What leads is still in front when more is read. -/
lemma append (leads : first.Leads front) : (first ++ second).Leads front := by
  intro scan trees after ran
  obtain ⟨before, _, behind, here, -, rfl⟩ := exists_of_append ran
  exact (leads here).trans (List.prefix_append before behind)

/-- What begins with the trees goes on to what is made of them. -/
lemma bind {next : List Tree → Reader} (leads : first.Leads front)
    (each : ∀ found, front <+: found → (next found).Gives good) : (first.bind next).Gives good := by
  intro scan trees after ran
  obtain ⟨found, _, here, there⟩ := exists_of_bind ran
  exact each found (leads here) there

end Leads

end

end Reader

namespace Rules

open Reader

/-- A single item that begins with the trees. -/
def Fronted (front : List Tree) (trees : List Tree) : Prop :=
  ∃ kind rest, trees = [.node (.item kind) (front ++ rest)]

section

variable {read : Grammar} {front start : List Tree} {region : Region} {kind : ItemKind}
  {isUsual : Bool} {reader : Reader} {depth : Nat}

/-- An item has in front what its parts lead with. -/
lemma fronted_node (leads : reader.Leads front) : (node (.item kind) reader).Gives (Fronted front) := by
  intro scan trees after ran
  obtain ⟨parts, here, rfl⟩ := exists_of_node ran
  obtain ⟨rest, rfl⟩ := leads here
  exact ⟨kind, rest, rfl⟩

/-- So has a declaration, whatever kind of item it turns out to be. -/
lemma fronted_declaration (leads : reader.Leads front) :
    (declaration region kind isUsual reader).Gives (Fronted front) :=
  fronted_node leads

/-- What is given in front of other parts. -/
lemma leads_parts (begins : front <+: start) (parts : List Tree) (second : Reader) :
    (give (start ++ parts) ++ second).Leads front :=
  .append (.give (begins.trans (List.prefix_append start parts)))

/-- A structure keeps what is in front. -/
lemma fronted_structRest (begins : front <+: start) :
    (structRest read start).Gives (Fronted front) :=
  fronted_node (.append (.append (.give begins)))

/-- An enumeration keeps what is in front. -/
lemma fronted_enumRest (begins : front <+: start) : (enumRest read start).Gives (Fronted front) :=
  fronted_node (.append (.append (.append (.give begins))))

/-- A union keeps what is in front. -/
lemma fronted_unionRest (begins : front <+: start) : (unionRest read start).Gives (Fronted front) :=
  fronted_node (.append (.append (.append (.give begins))))

/-- A function keeps what is in front. -/
lemma fronted_functionRest (begins : front <+: start) :
    (functionRest read region start).Gives (Fronted front) := by
  refine .bind fun head => .choose ?_ ?_
  · exact fronted_declaration (leads_parts begins head _)
  · exact fronted_declaration (leads_parts begins head _)

/-- A constant keeps what is in front. -/
lemma fronted_constRest (begins : front <+: start) :
    (constRest read region isUsual start).Gives (Fronted front) := by
  refine .bind fun name => .bind fun generics => .bind fun type => .bind fun value =>
    .bind fun conditions => ?_
  simp only [List.append_assoc]
  exact fronted_declaration (leads_parts begins _ _)

/-- A type alias keeps what is in front. -/
lemma fronted_aliasRest (begins : front <+: start) :
    (aliasRest read region isUsual start).Gives (Fronted front) := by
  refine .bind fun head => .bind fun bounds => .bind fun early => .bind fun value =>
    .bind fun late => ?_
  simp only [List.append_assoc]
  exact fronted_declaration (leads_parts begins _ _)

/-- An import keeps what is in front. -/
lemma fronted_useItem : (useItem read front).Gives (Fronted front) :=
  .bind fun parts => fronted_declaration (.give (List.prefix_append front parts))

/-- A static variable keeps what is in front. -/
lemma fronted_staticItem : (staticItem read front).Gives (Fronted front) := by
  refine .bind fun head => .bind fun type => .bind fun value => ?_
  simp only [List.append_assoc]
  exact fronted_declaration (leads_parts (List.prefix_refl front) _ _)

/-- Given trees lead with all of them. -/
lemma leads_give : (give front).Leads front :=
  .give (List.prefix_refl front)

/-- An external crate keeps what is in front. -/
lemma fronted_crateItem : (crateItem front).Gives (Fronted front) :=
  fronted_node (.append (.append (.append (.append (.append (.append leads_give))))))

/-- A block of foreign items keeps what is in front. -/
lemma fronted_foreignBlock : (foreignBlock read front).Gives (Fronted front) :=
  fronted_node (.append (.append (.append leads_give)))

/-- A module keeps what is in front. -/
lemma fronted_moduleItem : (moduleItem read front).Gives (Fronted front) :=
  fronted_node (.append (.append (.append (.append (.append leads_give)))))

/-- A trait keeps what is in front. -/
lemma fronted_traitItem : (traitItem read front).Gives (Fronted front) :=
  fronted_node (.append (.append (.append (.append (.append leads_give)))))

/-- The definition of a macro keeps what is in front. -/
lemma fronted_macroItem : (macroItem front).Gives (Fronted front) :=
  fronted_declaration (.append (.append (.append (.append leads_give))))

/-- The call of a macro keeps what is in front. -/
lemma fronted_macroCallItem (name : Reader) : (macroCallItem front name).Gives (Fronted front) :=
  .bind fun _ => fronted_node (.append (.append leads_give))

/-- An `impl` block keeps what is in front. -/
lemma fronted_implBlock : (implBlock read front).Gives (Fronted front) := by
  refine .bind fun degree => .bind fun head => .bind fun constness => .bind fun polarity =>
    .bind fun first => .bind fun forType => ?_
  split
  · intro scan trees after ran
    cases ran
  · simp only [List.append_assoc]
    exact fronted_declaration (.append (leads_parts (List.prefix_refl front) _ _))

/-- A trait or its alias keeps what is in front. -/
lemma fronted_traitOrAlias : (traitOrAlias read front).Gives (Fronted front) := by
  refine Leads.bind (.append (.append leads_give)) fun start begins => .oneOf ?_
  have trait : (node (.item .trait) (give start ++ traitRest read)).Gives (Fronted front) :=
    fronted_node (.append (.give begins))
  simp only [List.forall_mem_cons, List.not_mem_nil, IsEmpty.forall_iff, implies_true, and_true]
  exact ⟨trait, trait, trait,
    fronted_node (.append (.append (.append (.append (.give begins)))))⟩

/-- Choices of which each is taken only if there is one. -/
lemma forall_mem_callChoices {look : Scan} {call : Reader} (each : call.Gives (Fronted front)) :
    ∀ choice ∈ callChoices look call, choice.reader.Gives (Fronted front) := by
  intro choice inside
  rw [callChoices] at inside
  split at inside
  · cases inside
  · obtain ⟨sight, -, rfl⟩ := List.mem_map.1 inside
    exact each

/-- An unsafe item keeps what is in front. -/
lemma fronted_unsafeItem : (unsafeItem read front).Gives (Fronted front) := by
  refine .ahead fun look => .pick ?_
  simp only [List.forall_mem_cons, List.not_mem_nil, IsEmpty.forall_iff, implies_true, and_true]
  exact ⟨fronted_traitItem, fronted_traitItem, fronted_implBlock, fronted_foreignBlock,
    fronted_moduleItem⟩

/-- An external item keeps what is in front. -/
lemma fronted_externItem : (externItem read front).Gives (Fronted front) := by
  refine .ahead fun look => .pick ?_
  simp only [List.forall_mem_cons, List.not_mem_nil, IsEmpty.forall_iff, implies_true, and_true]
  refine ⟨fronted_crateItem, fronted_foreignBlock, .ahead fun look => .pick ?_⟩
  simp only [List.forall_mem_cons, List.not_mem_nil, IsEmpty.forall_iff, implies_true, and_true]
  exact fronted_foreignBlock

/-- An item begins with the attributes in front of it. -/
lemma fronted_itemRest : (itemRest read front).Gives (Fronted front) := by
  have started {next : List Tree → Reader}
      (each : ∀ start, front <+: start → (next start).Gives (Fronted front)) :
      ((give front ++ visibility).bind next).Gives (Fronted front) :=
    Leads.bind (.append leads_give) each
  refine .ahead fun look => ?_
  split
  · exact started fun start => fronted_functionRest
  refine .ahead fun here => .pick ?_
  rw [List.forall_mem_append]
  refine ⟨?_, forall_mem_callChoices (fronted_macroCallItem _)⟩
  simp only [List.forall_mem_cons, List.not_mem_nil, IsEmpty.forall_iff, implies_true, and_true]
  exact ⟨fronted_externItem, fronted_useItem, fronted_staticItem,
    started fun start => fronted_constRest, fronted_unsafeItem, fronted_moduleItem,
    started fun start => fronted_aliasRest, started fun start => fronted_structRest,
    started fun start => fronted_enumRest, started fun start => fronted_unionRest,
    fronted_traitOrAlias, fronted_traitItem, fronted_implBlock, fronted_implBlock,
    fronted_macroItem⟩

/-! ## The first item of a file -/

variable {scan after : Scan} {trees : List Tree}

/-- A repetition that is not over reads once more. -/
lemma exists_of_repeatUntil {done : Scan → Bool} (ran : repeatUntil done reader scan = .ok (trees, after))
    (unfinished : done scan = false) :
    ∃ found middle more, reader scan = .ok (found, middle) ∧ trees = found ++ more := by
  rw [repeatUntil, stepped, repeatTimes, choose, unfinished] at ran
  obtain ⟨found, middle, more, here, -, rfl⟩ := exists_of_append ran
  exact ⟨found, middle, more, here, rfl⟩

/-- A symbol is what is read of it. -/
lemma leads_symbol (text : String) : (symbol text).Leads [.symbol text] := by
  intro scan trees after ran
  rw [symbol] at ran
  split at ran
  · cases ran
    exact List.prefix_refl _
  · cases ran

/-- Where an attribute comes next, one is read. -/
lemma exists_of_outerAttributes (ran : outerAttributes read scan = .ok (trees, after))
    (marked : scan.sees (.symbol "#") = true) :
    ∃ parts more, trees = .node .attribute (.symbol "#" :: parts) :: more := by
  rw [outerAttributes, repeatWhile] at ran
  obtain ⟨found, middle, more, here, rfl⟩ := exists_of_repeatUntil ran (by simp [marked])
  obtain ⟨parts, inside, rfl⟩ := exists_of_node here
  obtain ⟨rest, rfl⟩ := (leads_symbol "#").append inside
  exact ⟨rest, more, rfl⟩

/-- The first item of a file is only kept as text, or it begins with the attribute of the file. -/
theorem first_of_file (ran : file (Grammar.ofDepth depth) scan = .ok (trees, after))
    (marked : scan.sees (.symbol "#") = true) (outer : scan.sees2 (.symbol "!") = false) :
    ∃ kind parts rest, trees = .node kind parts :: rest ∧ (kind.isText = true ∨
      ∃ item meaning others, kind = .item item ∧
        parts = .node .attribute (.symbol "#" :: meaning) :: others) := by
  obtain ⟨inner, start, items, first, second, rfl⟩ := exists_of_append ran
  -- the attribute is not one of the file
  have none : innerAttributes (Grammar.ofDepth depth) scan = .ok ([], scan) := by
    rw [innerAttributes, repeatWhile, repeatUntil, stepped, repeatTimes, choose, marked, outer]
    rfl
  rw [none] at first
  cases first
  have unfinished : scan.atEnd = false := by
    rw [Scan.atEnd]
    split
    · next ends =>
      rw [Scan.sees, ends] at marked
      cases marked
    · next ends =>
      rw [Scan.sees, ends] at marked
      cases marked
    · rfl
  obtain ⟨found, middle, more, here, rfl⟩ := exists_of_repeatUntil second unfinished
  cases depth with
  | zero => cases here
  | succ depth =>
    rcases cases_of_asText here with ⟨kind, text, isText, rfl⟩ | here
    · exact ⟨kind, _, more, rfl, .inl isText⟩
    · obtain ⟨attributes, behind, before, rest⟩ := exists_of_bind here
      obtain ⟨meaning, others, rfl⟩ := exists_of_outerAttributes before marked
      obtain ⟨kind, parts, rfl⟩ := fronted_itemRest rest
      exact ⟨.item kind, _, more, rfl, .inr ⟨kind, meaning, _, rfl, rfl⟩⟩

end

end Rules

end FluentGen
