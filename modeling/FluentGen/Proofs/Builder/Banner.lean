import FluentGen.Proofs.Builder.Selection
import FluentGen.Proofs.Layout.Front
import FluentGen.Proofs.Syntax.Front
import FluentGen.Proofs.Token.Lexer
import FluentGen.Proofs.Token.Progress
import FluentGen.Builder.Source

/-!
# The banner

The source text of a builder is its banner and its body. The banner is a comment on a line of its
own and adds no token, as long as there is no line feed in the module of the target
(`Builder.source_behind_banner`).
-/

namespace FluentGen

/-! ## Line feeds -/

/-- There is no line feed in an identifier. -/
lemma Name.IsWordy.feed_notMem {name : Name} (wordy : name.IsWordy) :
    '\n' ∉ name.text.toList :=
  fun inside => absurd (wordy '\n' inside) (by decide)

/-- The module decides whether the name of a target breaks a line. -/
lemma Target.feed_mem_qualifiedName {target : Target} (wordy : target.name.IsWordy) :
    '\n' ∉ target.qualifiedName.toList ↔ '\n' ∉ target.package.toList := by
  have name := wordy.feed_notMem
  rw [qualifiedName, qualify]
  split
  · next outside => simp [outside, name]
  · simp [name]

/-! ## Comments -/

namespace Lexer

/-- A line that is a comment adds no token to what is written below it. -/
lemma scan_commented {line text : List Char} (whole : '\n' ∉ line) (fuel : Nat) :
    scan (fuel + 3) [] ('/' :: '/' :: ' ' :: line ++ '\n' :: '\n' :: text) = scan fuel [] text := by
  have comment : afterComment? ('/' :: '/' :: ' ' :: line ++ '\n' :: '\n' :: text) =
      some ('\n' :: '\n' :: text) := by
    have inside : ∀ c ∈ ' ' :: line, decide (c ≠ '\n') = true := by
      intro c inside
      rcases List.mem_cons.1 inside with rfl | inside
      · rfl
      · exact decide_eq_true fun same => whole (same ▸ inside)
    show some (((' ' :: line) ++ '\n' :: '\n' :: text).dropWhile (· ≠ '\n')) = _
    rw [List.dropWhile_append_of_pos inside]
    rfl
  rw [List.cons_append, scan, ← List.cons_append, comment]
  rfl

end Lexer

/-- A line that is a comment adds no token to a text that begins with no byte order mark. -/
lemma Token.ofText?_commented {line text : String} (whole : '\n' ∉ line.toList)
    (plain : Lexer.withoutMark text.toList = text.toList) :
    Token.ofText? ("// " ++ line ++ "\n\n" ++ text) = Token.ofText? text := by
  have chars : ("// " ++ line ++ "\n\n" ++ text).toList =
      '/' :: '/' :: ' ' :: line.toList ++ '\n' :: '\n' :: text.toList := by
    simp
  have unmarked : Lexer.withoutMark ('/' :: '/' :: ' ' :: line.toList ++ '\n' :: '\n' :: text.toList) =
      '/' :: '/' :: ' ' :: line.toList ++ '\n' :: '\n' :: text.toList := rfl
  -- the steps for the line above leave enough for the text below
  have steps : ('/' :: '/' :: ' ' :: line.toList ++ '\n' :: '\n' :: text.toList).length + 1 =
      (line.toList.length + text.toList.length + 3) + 3 := by
    simp only [List.length_append, List.length_cons]
    omega
  simp only [ofText?, chars, unmarked, plain, steps, Lexer.scan_commented whole]
  exact Lexer.scan_enough (by omega) (by omega)

/-! ## The source text -/

namespace Builder

/-- What the banner says on its line. -/
def origin (builder : Builder) : String :=
  "@generated by setter-builder from `" ++ builder.qualifiedTarget ++ "`. Do not edit."

/-- The banner is a comment and an empty line. -/
lemma banner_eq (builder : Builder) : builder.banner = "// " ++ builder.origin ++ "\n\n" := by
  have front : "// @generated by setter-builder from `".toList =
      "// ".toList ++ "@generated by setter-builder from `".toList := by decide
  have back : "`. Do not edit.\n\n".toList = "`. Do not edit.".toList ++ "\n\n".toList := by decide
  apply String.toList_inj.1
  unfold banner origin
  simp only [toString, String.toList_append, front, back, List.append_assoc]

/-- Only the name of the target can break the line of the banner. -/
lemma feed_mem_origin (builder : Builder) :
    '\n' ∉ builder.origin.toList ↔ '\n' ∉ builder.qualifiedTarget.toList := by
  have front : '\n' ∉ "@generated by setter-builder from `".toList := by decide
  have back : '\n' ∉ "`. Do not edit.".toList := by decide
  unfold origin
  simp only [String.toList_append, List.mem_append, front, back, false_or, or_false]

/-- The banner stands in front of the body, and there is none without a body. -/
lemma source_true (builder : Builder) :
    builder.source true = (builder.source false).map (builder.banner ++ ·) := by
  unfold source
  cases builder.body with
  | error part => rfl
  | ok body => rfl

/-- The tokens of a builder begin with an attribute. -/
lemma code_marked (builder : Builder) : ∃ rest,
    builder.code = .punct '#' false :: .opening .bracket :: rest :=
  ⟨_, rfl⟩

/-- Tokens that are displayed begin with the first of them. -/
lemma exists_display (rest : List Token) : ∃ more,
    (Token.text (.punct '#' false :: .opening .bracket :: rest) ++ "\n").toList = '#' :: more :=
  ⟨_, by
    rw [String.toList_append, Token.text, String.toList_ofList]
    rfl⟩

/-- What a reader takes from all tokens is what it takes from their beginning. -/
lemma exists_of_readAll {reader : Reader} {tokens : List Token} {trees : List Tree}
    (read : reader.readAll tokens = .ok trees) :
    ∃ after, reader (Scan.start tokens) = .ok (trees, after) := by
  rw [Reader.readAll] at read
  split at read
  · cases read
  · next found after ran =>
    split at read
    · cases read
    · split at read
      · cases read
        exact ⟨after, ran⟩
      · cases read

/-- The body of a builder begins with a comment or an attribute. -/
lemma exists_body {builder : Builder} {text : String} (made : builder.body = .ok text) :
    ∃ c rest, text.toList = c :: rest ∧ (c = '/' ∨ c = '#') := by
  obtain ⟨rest, code⟩ := builder.code_marked
  unfold body at made
  split at made
  · next trees read =>
    rw [items, Syntax.readTokens, code] at read
    obtain ⟨after, ran⟩ := exists_of_readAll read
    obtain ⟨kind, parts, others, form, isText | marked⟩ := Rules.first_of_file ran rfl rfl
    -- what is only kept as text has no layout
    · rw [form, Layout.fileText, Layout.unprintableAmong?, Layout.unprintable?,
        if_pos isText] at made
      cases made
    · obtain ⟨item, meaning, more, rfl, rfl⟩ := marked
      exact Layout.exists_fileText made form
  · obtain ⟨more, letters⟩ := exists_display rest
    rw [Except.ok.injEq] at made
    rw [← made, code]
    exact ⟨'#', more, letters, .inr rfl⟩

/-- A source text begins with no byte order mark. -/
lemma withoutMark_source {builder : Builder} {text : String}
    (written : builder.source false = .ok text) :
    Lexer.withoutMark text.toList = text.toList := by
  have body : builder.body = .ok text := by
    unfold source at written
    cases made : builder.body with
    | error part =>
      rw [made] at written
      cases written
    | ok body =>
      rw [made] at written
      exact written
  obtain ⟨c, rest, letters, mark⟩ := exists_body body
  rw [letters, Lexer.withoutMark, if_neg]
  rcases mark with rfl | rfl <;> decide

/--
With its banner, the source text of a builder is a comment, an empty line and the source text
without it, and there is the one just if there is the other. The comment is on one line just if the
module of the target has no line feed, and then the two texts have the same tokens.
-/
theorem source_behind_banner {target : Target} {builder : Builder}
    (made : ofTarget target = .ok builder) (wordy : target.name.IsWordy) :
    ∃ line : String,
      builder.source true = (builder.source false).map ("// " ++ line ++ "\n\n" ++ ·) ∧
      ('\n' ∉ line.toList ↔ '\n' ∉ target.package.toList) ∧
      ('\n' ∉ target.package.toList → ∀ text, builder.source false = .ok text →
        Token.ofText? ("// " ++ line ++ "\n\n" ++ text) = Token.ofText? text) := by
  have feed : '\n' ∉ builder.origin.toList ↔ '\n' ∉ target.package.toList := by
    rw [feed_mem_origin, ← Target.feed_mem_qualifiedName wordy]
    obtain ⟨holder, rfl⟩ := exists_eq_builder made
    rw [target.qualifiedTarget_builder]
  have behind := builder.source_true
  rw [banner_eq] at behind
  refine ⟨builder.origin, behind, feed, ?_⟩
  intro whole text written
  exact Token.ofText?_commented (feed.2 whole) (withoutMark_source written)

/-- The structure without fields in a module of the given name. -/
def placed (package : String) : Target :=
  { Target.bare "A" [] with package := package }

/-- The builder of the target, wherever it is placed. -/
lemma ofTarget_placed (package : String) :
    ofTarget (placed package) = .ok ((placed package).builder (.plain "a")) := by
  have usable : Naming.asIdent (Naming.variableName (placed package).name.text) =
      .ok (.plain "a") := by
    show Naming.asIdent (Naming.variableName "A") = _
    decide
  rw [ofTarget_eq, usable]
  rfl

/-- Blanks in the name of a module leave the banner on one line. -/
theorem source_behind_banner_spaced : ∃ builder line text,
    ofTarget (placed " a :: b\t") = .ok builder ∧ builder.source false = .ok text ∧
    builder.source true = .ok ("// " ++ line ++ "\n\n" ++ text) ∧ '\n' ∉ line.toList ∧
    Token.ofText? ("// " ++ line ++ "\n\n" ++ text) = Token.ofText? text := by
  have wordy : (placed " a :: b\t").name.IsWordy := List.all_iff_forall_prop.1 (by decide)
  have whole : '\n' ∉ (placed " a :: b\t").package.toList := by decide
  obtain ⟨line, behind, feed, same⟩ := source_behind_banner (ofTarget_placed " a :: b\t") wordy
  have laid : (((placed " a :: b\t").builder (.plain "a")).source false).isOk = true := by
    decide +kernel
  cases written : ((placed " a :: b\t").builder (.plain "a")).source false with
  | error part =>
    rw [written] at laid
    cases laid
  | ok text =>
    rw [written] at behind
    exact ⟨_, line, text, ofTarget_placed _, written, behind, feed.2 whole, same whole text written⟩

/-- A module behind the line feed of which a declaration stands. -/
def intruding : String :=
  "a\nstruct B; //"

/-- The declaration is read between the two comments that are left of the banner. -/
lemma scan_intruding (fuel : Nat) (text : List Char) :
    Lexer.scan (fuel + 10) []
        ("// @generated by setter-builder from `a\nstruct B; //::A`. Do not edit.\n\n".toList ++ text) =
      (Lexer.scan fuel [] text).map
        ([Token.word "struct", Token.word "B", .punct ';' false] ++ ·) := by
  have first : Lexer.scan (fuel + 10) []
        ("// @generated by setter-builder from `a\nstruct B; //::A`. Do not edit.\n\n".toList ++ text) =
      Lexer.scan (fuel + 8) [] ("struct B; //::A`. Do not edit.\n\n".toList ++ text) := rfl
  have word : Lexer.scan (fuel + 8) [] ("struct B; //::A`. Do not edit.\n\n".toList ++ text) =
      (Lexer.scan (fuel + 6) [] ("B; //::A`. Do not edit.\n\n".toList ++ text)).map
        (Token.word "struct" :: ·) := rfl
  have name : Lexer.scan (fuel + 6) [] ("B; //::A`. Do not edit.\n\n".toList ++ text) =
      (Lexer.scan (fuel + 5) [] ("; //::A`. Do not edit.\n\n".toList ++ text)).map
        (Token.word "B" :: ·) := rfl
  have stop : Lexer.scan (fuel + 5) [] ("; //::A`. Do not edit.\n\n".toList ++ text) =
      (Lexer.scan fuel [] text).map (.punct ';' false :: ·) := rfl
  rw [first, word, name, stop, Option.map_map, Option.map_map]
  rfl

/-- The banner has a line of its own for what intrudes. -/
lemma banner_intruding : ((placed intruding).builder (.plain "a")).banner.toList =
    "// @generated by setter-builder from `a\nstruct B; //::A`. Do not edit.\n\n".toList := by
  decide

/-- Below one line and an empty one there is no third line feed in front of the last two. -/
lemma feed_mem_of_intruding {line : List Char}
    (same : "// @generated by setter-builder from `a\nstruct B; //::A`. Do not edit.\n\n".toList =
      line ++ "\n\n".toList) : '\n' ∈ line := by
  have parts :
      "// @generated by setter-builder from `a\nstruct B; //::A`. Do not edit.\n\n".toList =
        "// @generated by setter-builder from `a\nstruct B; //::A`. Do not edit.".toList ++
          "\n\n".toList := by
    decide
  rw [← List.append_cancel_right (parts.symm.trans same)]
  decide

/-- The tokens of this line are read in front of all others. -/
lemma ofText?_intruding {text : String} (plain : Lexer.withoutMark text.toList = text.toList) :
    Token.ofText? (((placed intruding).builder (.plain "a")).banner ++ text) =
      (Token.ofText? text).map
        ([Token.word "struct", Token.word "B", .punct ';' false] ++ ·) := by
  have unmarked (rest : List Char) : Lexer.withoutMark
        ("// @generated by setter-builder from `a\nstruct B; //::A`. Do not edit.\n\n".toList ++
          rest) =
      "// @generated by setter-builder from `a\nstruct B; //::A`. Do not edit.\n\n".toList ++
        rest := rfl
  have steps :
      ("// @generated by setter-builder from `a\nstruct B; //::A`. Do not edit.\n\n".toList ++
        text.toList).length + 1 = (text.toList.length + 63) + 10 := by
    rw [List.length_append, Nat.add_comm _ text.toList.length]
    rfl
  unfold Token.ofText?
  simp only [String.toList_append, banner_intruding, unmarked, plain, steps, scan_intruding]
  have enough : Lexer.scan (text.toList.length + 63) [] text.toList =
      Lexer.scan (text.toList.length + 1) [] text.toList :=
    Lexer.scan_enough (by omega) (by omega)
  rw [enough]

/-- The banner of such a module is on two lines, the second of which declares a structure. -/
theorem source_behind_banner_intruding : ∃ builder text,
    ofTarget (placed intruding) = .ok builder ∧ builder.source false = .ok text ∧
    (∀ line : String, '\n' ∉ line.toList → builder.source true ≠ .ok (line ++ "\n\n" ++ text)) ∧
    Token.ofText? (builder.banner ++ text) = (Token.ofText? text).map
      ([Token.word "struct", Token.word "B", .punct ';' false] ++ ·) := by
  have laid : (((placed intruding).builder (.plain "a")).source false).isOk = true := by
    decide +kernel
  cases written : ((placed intruding).builder (.plain "a")).source false with
  | error part =>
    rw [written] at laid
    cases laid
  | ok text =>
    refine ⟨_, text, ofTarget_placed _, written, ?_, ?_⟩
    · intro line whole same
      rw [source_true, written] at same
      have parts := congrArg String.toList (Except.ok.inj same)
      simp only [String.toList_append, banner_intruding] at parts
      exact whole (feed_mem_of_intruding (List.append_cancel_right parts))
    · exact ofText?_intruding (withoutMark_source written)

end Builder

end FluentGen
